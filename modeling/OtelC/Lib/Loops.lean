import OtelC.Lib.Checked

/-!
# Loops with their indices

Loops that go through a vector and count, or through the indices of several vectors at once, and two
checked computations that agree step by step.

* `mapM_zipIdx`, `foldlM_range`: what a loop leaves when no turn of it fails.
* `Agrees.collect`: a loop that pushes what it computes agrees with a pass over the list.
-/

namespace Loops

variable {ε α β σ τ : Type}

/-! ### Loops without a failure -/

/-- A loop that rewrites each element of a vector, knowing its index. -/
theorem mapM_zipIdx {f : α × Nat → Except ε β} {g : Nat → α → β} {l : List α} {n : Nat}
    (h : ∀ i a, l[i]? = some a → f (a, n + i) = .ok (g i a)) :
    (l.zipIdx n).mapM f = .ok (l.mapIdx g) := by
  induction l generalizing n g with
  | nil => rfl
  | cons a l ih =>
    have hrest : (l.zipIdx (n + 1)).mapM f = .ok (l.mapIdx fun i => g (i + 1)) := by
      refine ih fun i b hb => ?_
      have hturn := h (i + 1) b (by rw [List.getElem?_cons_succ]; exact hb)
      rwa [show n + (i + 1) = n + 1 + i by omega] at hturn
    have hfirst : f (a, n) = .ok (g 0 a) := h 0 a rfl
    rw [List.zipIdx_cons, Checked.mapM_cons, hfirst, Checked.ok_bind, hrest, List.mapIdx_cons]
    rfl

theorem mapM_zipIdx_map {view : σ → α} {f : α × Nat → Except ε β} {g : Nat → σ → β} {l : List σ}
    (h : ∀ i a, l[i]? = some a → f (view a, i) = .ok (g i a)) :
    (l.map view).zipIdx.mapM f = .ok (l.mapIdx g) := by
  rw [List.zipIdx_map, List.mapM_map]
  refine mapM_zipIdx fun i a ha => ?_
  rw [Nat.zero_add]
  exact h i a ha

/-- A loop over indices whose state after each turn is known. -/
theorem foldlM_range {f : σ → Nat → Except ε σ} {s : Nat → σ} {n : Nat}
    (h : ∀ i, i < n → f (s i) i = .ok (s (i + 1))) :
    (List.range n).foldlM f (s 0) = .ok (s n) := by
  induction n with
  | zero => rfl
  | succ n ih =>
    have hbefore := ih fun i hi => h i (by omega)
    rw [List.range_succ, List.foldlM_append, hbefore, Checked.ok_bind]
    show (f (s n) n >>= fun s' => Except.ok s') = _
    rw [h n (by omega)]
    rfl

/-- Reading every element of one list gives the other. -/
theorem mapM_some {f : α → Option β} {l : List α} {m : List β} (hlen : l.length = m.length)
    (h : ∀ (i : Nat) a b, l[i]? = some a → m[i]? = some b → f a = some b) : l.mapM f = some m := by
  induction l generalizing m with
  | nil =>
    obtain rfl := List.length_eq_zero_iff.mp hlen.symm
    rfl
  | cons a l ih =>
    cases m with
    | nil => cases hlen
    | cons b m =>
      have hrest := ih (Nat.succ.inj hlen) fun i a' b' ha hb => h (i + 1) a' b' ha hb
      rw [List.mapM_cons, h 0 a b rfl rfl, hrest]
      rfl

/-- Whoever reads more elements reads the same lists. -/
theorem mapM_mono {f g : α → Option β} (h : ∀ a b, f a = some b → g a = some b) {l : List α}
    {m : List β} (hl : l.mapM f = some m) : l.mapM g = some m := by
  induction l generalizing m with
  | nil => exact hl
  | cons a l ih =>
    rw [List.mapM_cons] at hl ⊢
    obtain ⟨b, hb, hl⟩ := Option.bind_eq_some_iff.mp hl
    obtain ⟨bs, hbs, hl⟩ := Option.bind_eq_some_iff.mp hl
    rw [h a b hb, ih hbs]
    exact hl

theorem getElem?_map_of {f : α → β} {l : List α} {i : Nat} {a : α} (h : l[i]? = some a) :
    (l.map f)[i]? = some (f a) := by
  rw [List.getElem?_map, h]
  rfl

theorem getElem?_mapIdx_of {f : Nat → α → β} {l : List α} {i : Nat} {a : α} (h : l[i]? = some a) :
    (l.mapIdx f)[i]? = some (f i a) := by
  rw [List.getElem?_mapIdx, h]
  rfl

theorem forall₂_getElem? {R : α → β → Prop} {l : List α} {m : List β} (h : List.Forall₂ R l m)
    {i : Nat} {b : β} (hb : m[i]? = some b) : ∃ a, l[i]? = some a ∧ R a b := by
  induction h generalizing i with
  | nil => cases hb
  | cons hR hrest ih =>
    cases i with
    | zero =>
      cases hb
      exact ⟨_, rfl, hR⟩
    | succ i => exact ih hb

theorem forall₂_mapIdx {R : β → τ → Prop} {g : Nat → α → β} {l : List α} {m : List τ}
    (hlen : l.length = m.length)
    (h : ∀ (i : Nat) a b, l[i]? = some a → m[i]? = some b → R (g i a) b) :
    List.Forall₂ R (l.mapIdx g) m := by
  induction l generalizing g m with
  | nil =>
    obtain rfl := List.length_eq_zero_iff.mp hlen.symm
    exact .nil
  | cons a l ih =>
    cases m with
    | nil => cases hlen
    | cons b m =>
      rw [List.mapIdx_cons]
      exact .cons (h 0 a b rfl rfl) (ih (Nat.succ.inj hlen) fun i a' b' => h (i + 1) a' b')

/-- A vector whose first elements have been rewritten, after one more. -/
theorem set_mapIdx {f g : Nat → α → β} {l : List α} {k : Nat} {a : α} (h : l[k]? = some a) :
    (l.mapIdx fun i a => if i < k then g i a else f i a).set k (g k a) =
      l.mapIdx fun i a => if i < k + 1 then g i a else f i a := by
  refine List.ext_getElem? fun i => ?_
  rw [List.getElem?_set, List.getElem?_mapIdx, List.getElem?_mapIdx]
  by_cases hik : k = i
  · subst hik
    have hlt : k < l.length := (List.getElem?_eq_some_iff.mp h).1
    rw [if_pos rfl, List.length_mapIdx, if_pos hlt, h, Option.map_some, if_pos (Nat.lt_succ_self k)]
  · have hiff : i < k + 1 ↔ i < k := by omega
    simp only [if_neg hik, hiff]

/-- A loop that adds to what it has so far, against the list of what it adds. -/
theorem collect {R : σ → List β → Prop} {f : σ → α → σ} {g : α → β} {l : List α}
    (h : ∀ s done a, R s done → R (f s a) (done ++ [g a])) {s : σ} {done : List β}
    (hs : R s done) : R (l.foldl f s) (done ++ l.map g) := by
  induction l generalizing s done with
  | nil => rwa [List.map_nil, List.append_nil]
  | cons a l ih =>
    have hrest := ih (h s done a hs)
    rwa [List.append_assoc] at hrest

/-! ### Computations that agree -/

/-- Two computations fail alike, or both succeed with related results. -/
def Agrees (R : α → β → Prop) : Except ε α → Except ε β → Prop
  | .ok a, .ok b => R a b
  | .error e, .error e' => e = e'
  | _, _ => False

theorem agrees_iff {R : α → β → Prop} {x : Except ε α} {y : Except ε β} : Agrees R x y ↔
    (∃ e, x = .error e ∧ y = .error e) ∨ ∃ a b, x = .ok a ∧ y = .ok b ∧ R a b := by
  constructor
  · intro h
    cases x with
    | error e =>
      cases y with
      | error e' =>
        obtain rfl : e = e' := h
        exact .inl ⟨e, rfl, rfl⟩
      | ok b => exact h.elim
    | ok a =>
      cases y with
      | error e' => exact h.elim
      | ok b => exact .inr ⟨a, b, rfl, rfl, h⟩
  · rintro (⟨e, rfl, rfl⟩ | ⟨a, b, rfl, rfl, h⟩)
    · rfl
    · exact h

theorem Agrees.bind {R : α → β → Prop} {S : σ → τ → Prop} {x : Except ε α} {y : Except ε β}
    {f : α → Except ε σ} {g : β → Except ε τ} (h : Agrees R x y)
    (hf : ∀ a b, R a b → Agrees S (f a) (g b)) : Agrees S (x >>= f) (y >>= g) := by
  cases x with
  | error e =>
    cases y with
    | error e' => exact h
    | ok b => exact h.elim
  | ok a =>
    cases y with
    | error e' => exact h.elim
    | ok b => exact hf a b h

/-- The same computation before two that agree. -/
theorem agrees_bind_same {S : σ → τ → Prop} {x : Except ε α} {f : α → Except ε σ}
    {g : α → Except ε τ} (h : ∀ a, x = .ok a → Agrees S (f a) (g a)) :
    Agrees S (x >>= f) (x >>= g) := by
  cases x with
  | error e => rfl
  | ok a => exact h a rfl

theorem agrees_ok_iff {R : α → β → Prop} {x : Except ε α} {b : β} :
    Agrees R x (.ok b) ↔ ∃ a, x = .ok a ∧ R a b := by
  cases x with
  | error e => exact iff_of_false (fun h => h) fun ⟨a, ha, _⟩ => by cases ha
  | ok a =>
    constructor
    · intro h
      exact ⟨a, rfl, h⟩
    · rintro ⟨a', ha, hR⟩
      cases ha
      exact hR

theorem agrees_error_iff {R : α → β → Prop} {x : Except ε α} {e : ε} :
    Agrees R x (.error e : Except ε β) ↔ x = .error e := by
  cases x with
  | error e' => exact ⟨fun h => congrArg Except.error h, fun h => Except.error.inj h⟩
  | ok a => exact iff_of_false (fun h => h) fun h => by cases h

/-- A loop that adds to what it has so far agrees with a pass over the list, when each turn does. -/
theorem Agrees.collect {R : σ → List β → Prop} {f : σ → α → Except ε σ} {g : α → Except ε β}
    {l : List α}
    (h : ∀ s done a, R s done → Agrees (fun s' b => R s' (done ++ [b])) (f s a) (g a)) {s : σ}
    {done : List β} (hs : R s done) :
    Agrees (fun s' out => R s' (done ++ out)) (l.foldlM f s) (l.mapM g) := by
  induction l generalizing s done with
  | nil =>
    show R s (done ++ [])
    rwa [List.append_nil]
  | cons a l ih =>
    rw [List.foldlM_cons, Checked.mapM_cons]
    refine (h s done a hs).bind fun s' b hb => ?_
    have hrest := ih hb
    rw [← bind_pure (l.foldlM f s')]
    refine hrest.bind fun s'' out hout => ?_
    show R s'' (done ++ b :: out)
    rwa [List.append_assoc] at hout

end Loops
