import Mathlib.Data.List.Forall2

/-!
# Checked computations

A checked computation in `Except ε` runs its checks in order and stops at the first that fails.
The lemmas here take a successful run apart: what each bind, each guard and each pass over a list
contributed to it.

* `bind_eq_ok`: a successful sequence, step by step.
* `guard_eq_ok`: a check that was passed.
* `mapM_eq_ok`: a successful pass over a list, element by element.
* `mapM_checked`: a successful pass that checks and maps.
-/

namespace Checked

variable {ε α β : Type}

@[simp] theorem ok_bind (a : α) (f : α → Except ε β) : (Except.ok a >>= f) = f a := rfl

@[simp] theorem error_bind (e : ε) (f : α → Except ε β) :
    ((Except.error e : Except ε α) >>= f) = .error e := rfl

@[simp] theorem pure_eq_ok (a : α) : (pure a : Except ε α) = .ok a := rfl

theorem bind_eq_ok {x : Except ε α} {f : α → Except ε β} {b : β} :
    (x >>= f) = .ok b ↔ ∃ a, x = .ok a ∧ f a = .ok b := by
  cases x with
  | error e => simp
  | ok a => simp

theorem bind_eq_error {x : Except ε α} {f : α → Except ε β} {e : ε} :
    (x >>= f) = .error e ↔ x = .error e ∨ ∃ a, x = .ok a ∧ f a = .error e := by
  cases x with
  | error e' => simp
  | ok a => simp

theorem map_eq_ok {x : Except ε α} {f : α → β} {b : β} :
    x.map f = .ok b ↔ ∃ a, x = .ok a ∧ f a = b := by
  cases x with
  | error e => simp [Except.map]
  | ok a => simp [Except.map]

/-- A guarded computation succeeds just when the guard is passed and the rest succeeds. -/
theorem guard_eq_ok {c : Prop} [Decidable c] {e : ε} {x : Except ε α} {a : α} :
    (if c then .error e else x) = .ok a ↔ ¬c ∧ x = .ok a := by
  by_cases h : c <;> simp [h]

theorem guard_eq_error {c : Prop} [Decidable c] {e e' : ε} {x : Except ε α} :
    (if c then .error e else x) = .error e' ↔ c ∧ e = e' ∨ ¬c ∧ x = .error e' := by
  by_cases h : c <;> simp [h]

theorem guard_bind {c : Prop} [Decidable c] {e : ε} {x : Except ε α} {f : α → Except ε β} :
    (if c then .error e else x).bind f = if c then .error e else x.bind f := by
  by_cases h : c
  · rw [if_pos h, if_pos h]
    rfl
  · rw [if_neg h, if_neg h]

/-- A lone check, as it stands between the steps of a sequence. -/
def require (c : Bool) (e : ε) : Except ε Unit :=
  if c then .ok () else .error e

@[simp] theorem require_eq_ok {c : Bool} {e : ε} {u : Unit} :
    require c e = .ok u ↔ c = true := by
  cases c <;> simp [require]

theorem mapM_nil (f : α → Except ε β) : [].mapM f = .ok [] := rfl

theorem mapM_cons (f : α → Except ε β) (a : α) (l : List α) :
    (a :: l).mapM f = (do
      let b ← f a
      let bs ← l.mapM f
      .ok (b :: bs)) := by
  rw [List.mapM_cons]
  rfl

/-- A pass over a list succeeds just when it succeeds on every element. -/
theorem mapM_eq_ok {f : α → Except ε β} {l : List α} {out : List β} :
    l.mapM f = .ok out ↔ List.Forall₂ (fun a b => f a = .ok b) l out := by
  induction l generalizing out with
  | nil =>
    rw [mapM_nil, Except.ok.injEq, List.forall₂_nil_left_iff, eq_comm]
  | cons a l ih =>
    rw [mapM_cons, bind_eq_ok, List.forall₂_cons_left_iff]
    constructor
    · rintro ⟨b, hb, h⟩
      obtain ⟨bs, hbs, h⟩ := bind_eq_ok.mp h
      exact ⟨b, bs, hb, ih.mp hbs, (Except.ok.inj h).symm⟩
    · rintro ⟨b, bs, hb, hbs, rfl⟩
      exact ⟨b, hb, bind_eq_ok.mpr ⟨bs, ih.mpr hbs, rfl⟩⟩

theorem mapM_cons_eq_ok {f : α → Except ε β} {a : α} {l : List α} {out : List β} :
    (a :: l).mapM f = .ok out ↔ ∃ b bs, f a = .ok b ∧ l.mapM f = .ok bs ∧ out = b :: bs := by
  simp only [mapM_eq_ok, List.forall₂_cons_left_iff]

theorem mapM_append_eq_ok {f : α → Except ε β} {a b : List α} {out : List β} :
    (a ++ b).mapM f = .ok out ↔
      ∃ x y, a.mapM f = .ok x ∧ b.mapM f = .ok y ∧ out = x ++ y := by
  induction a generalizing out with
  | nil =>
    constructor
    · intro h
      exact ⟨[], out, mapM_nil f, h, rfl⟩
    · rintro ⟨x, y, hx, hy, rfl⟩
      obtain rfl := Except.ok.inj hx
      exact hy
  | cons c a ih =>
    simp only [List.cons_append, mapM_cons_eq_ok, ih]
    constructor
    · rintro ⟨d, _, hd, ⟨x, y, hx, hy, rfl⟩, rfl⟩
      exact ⟨d :: x, y, ⟨d, x, hd, hx, rfl⟩, hy, rfl⟩
    · rintro ⟨_, y, ⟨d, x, hd, hx, rfl⟩, hy, rfl⟩
      exact ⟨d, x ++ y, hd, ⟨x, y, hx, hy, rfl⟩, rfl⟩

/-- Two passes over a list are one that does both to each element. -/
theorem mapM_bind {γ : Type} {f : α → Except ε β} {g : β → Except ε γ} {l : List α}
    {out : List γ} : l.mapM (fun a => f a >>= g) = .ok out ↔
      ∃ mid, l.mapM f = .ok mid ∧ mid.mapM g = .ok out := by
  induction l generalizing out with
  | nil =>
    constructor
    · intro h
      exact ⟨[], mapM_nil f, h⟩
    · rintro ⟨mid, hmid, h⟩
      obtain rfl := Except.ok.inj hmid
      exact h
  | cons a l ih =>
    simp only [mapM_cons_eq_ok, bind_eq_ok, ih]
    constructor
    · rintro ⟨c, cs, ⟨b, hb, hc⟩, ⟨bs, hbs, hcs⟩, rfl⟩
      exact ⟨b :: bs, ⟨b, bs, hb, hbs, rfl⟩, mapM_cons_eq_ok.mpr ⟨c, cs, hc, hcs, rfl⟩⟩
    · rintro ⟨_, ⟨b, bs, hb, hbs, rfl⟩, hmid⟩
      obtain ⟨c, cs, hc, hcs, rfl⟩ := mapM_cons_eq_ok.mp hmid
      exact ⟨c, cs, ⟨b, hb, hc⟩, ⟨bs, hbs, hcs⟩, rfl⟩

/-- A pass over a list has a result just when every element has one. -/
theorem mapM_ok_iff {f : α → Except ε β} {l : List α} :
    (∃ out, l.mapM f = .ok out) ↔ ∀ a ∈ l, ∃ b, f a = .ok b := by
  induction l with
  | nil => exact iff_of_true ⟨[], rfl⟩ (List.forall_mem_nil _)
  | cons a l ih =>
    rw [List.forall_mem_cons, ← ih]
    constructor
    · intro h
      obtain ⟨out, h⟩ := h
      rw [mapM_cons] at h
      obtain ⟨b, hb, h⟩ := bind_eq_ok.mp h
      obtain ⟨bs, hbs, -⟩ := bind_eq_ok.mp h
      exact ⟨⟨b, hb⟩, bs, hbs⟩
    · intro h
      obtain ⟨⟨b, hb⟩, bs, hbs⟩ := h
      exact ⟨b :: bs, by rw [mapM_cons, hb, hbs]; rfl⟩

/-- What every success yields holds throughout the result of a successful pass. -/
theorem forall_mem_of_mapM {f : α → Except ε β} {p : β → Prop} {l : List α} {out : List β}
    (h : l.mapM f = .ok out) (hp : ∀ a b, f a = .ok b → p b) : ∀ b ∈ out, p b := by
  induction l generalizing out with
  | nil =>
    obtain rfl := Except.ok.inj h
    intro b hb
    cases hb
  | cons a l ih =>
    rw [mapM_cons] at h
    obtain ⟨b, hb, h⟩ := bind_eq_ok.mp h
    obtain ⟨bs, hbs, h⟩ := bind_eq_ok.mp h
    obtain rfl := Except.ok.inj h
    exact List.forall_mem_cons.mpr ⟨hp a b hb, ih hbs⟩

/-- A pass over a list that checks each element and then maps it. -/
theorem mapM_checked {f : α → Except ε β} {p : α → Prop} {g : α → β}
    (h : ∀ a b, f a = .ok b ↔ p a ∧ b = g a) {l : List α} {out : List β} :
    l.mapM f = .ok out ↔ (∀ a ∈ l, p a) ∧ out = l.map g := by
  rw [mapM_eq_ok]
  induction l generalizing out with
  | nil => simp [List.forall₂_nil_left_iff]
  | cons a l ih =>
    rw [List.forall₂_cons_left_iff, List.forall_mem_cons]
    constructor
    · rintro ⟨b, bs, hb, hbs, rfl⟩
      obtain ⟨ha, rfl⟩ := (h a b).mp hb
      obtain ⟨hl, rfl⟩ := ih.mp hbs
      exact ⟨⟨ha, hl⟩, rfl⟩
    · rintro ⟨⟨ha, hl⟩, rfl⟩
      exact ⟨g a, l.map g, (h a _).mpr ⟨ha, rfl⟩, ih.mpr ⟨hl, rfl⟩, rfl⟩

/-- A pass over a list fails with the failure of one of its elements. -/
theorem mapM_eq_error {f : α → Except ε β} {l : List α} {e : ε} (h : l.mapM f = .error e) :
    ∃ a ∈ l, f a = .error e := by
  induction l with
  | nil => simp at h
  | cons a l ih =>
    rw [mapM_cons] at h
    rcases bind_eq_error.mp h with h | ⟨b, -, h⟩
    · exact ⟨a, by simp, h⟩
    · rcases bind_eq_error.mp h with h | ⟨bs, -, h⟩
      · obtain ⟨a', ha', h⟩ := ih h
        exact ⟨a', List.mem_cons_of_mem _ ha', h⟩
      · simp at h

end Checked
