import Mathlib.Algebra.GroupWithZero.Nat
import Mathlib.Data.List.DropRight
import Mathlib.Data.List.Infix

/-!
# Trimming, splitting and joining

The operations a text parser is made of, over lists of any type: `trimBy` strips both ends,
`splitOnce` cuts at the first separator, `joinPush` appends a piece behind a separator.  Splitting
at every separator is `List.splitOn` and joining is `List.intercalate`.

* `trimBy_append`: a list is its trimmed part with stripped elements on both sides.
* `splitOnce_eq_some`: what a successful cut says about the list.
* `mem_of_mem_splitOn`, `splitOn_append_cons`: the pieces of a split.
* `foldl_joinPush`: pushing non-empty pieces one after the other joins them.
-/

namespace Text

variable {α : Type*}

/-! ### Trimming -/

/-- Strip the elements satisfying `p` from both ends. -/
def trimBy (p : α → Bool) (l : List α) : List α :=
  (l.dropWhile p).rdropWhile p

@[simp] theorem trimBy_nil (p : α → Bool) : trimBy p [] = [] := rfl

/-- The trimmed list sits in the list between two runs of stripped elements. -/
theorem trimBy_append (p : α → Bool) (l : List α) :
    ∃ front back, l = front ++ trimBy p l ++ back ∧
      (∀ a ∈ front, p a = true) ∧ ∀ a ∈ back, p a = true := by
  refine ⟨l.takeWhile p, (l.dropWhile p).rtakeWhile p, ?_, ?_, ?_⟩
  · rw [List.append_assoc, trimBy, List.rdropWhile_append_rtakeWhile, List.takeWhile_append_dropWhile]
  · intro a ha
    exact List.mem_takeWhile_imp ha
  · intro a ha
    exact List.mem_rtakeWhile_imp ha

theorem trimBy_sublist (p : α → Bool) (l : List α) : (trimBy p l).Sublist l := by
  obtain ⟨front, back, h, -, -⟩ := trimBy_append p l
  conv_rhs => rw [h]
  exact ((List.sublist_append_right front _).trans (List.sublist_append_left _ back))

/-- An element of the list either survives the trim or is one that `p` strips. -/
theorem mem_trimBy_or {p : α → Bool} {l : List α} {a : α} (h : a ∈ l) :
    a ∈ trimBy p l ∨ p a = true := by
  obtain ⟨front, back, hl, hfront, hback⟩ := trimBy_append p l
  rw [hl, List.mem_append, List.mem_append] at h
  rcases h with (h | h) | h
  · exact .inr (hfront a h)
  · exact .inl h
  · exact .inr (hback a h)

/-- A list that neither starts nor ends with a stripped element is left alone. -/
theorem trimBy_eq_self {p : α → Bool} {l : List α} (hhead : ∀ a ∈ l.head?, p a = false)
    (hlast : ∀ a ∈ l.getLast?, p a = false) : trimBy p l = l := by
  cases l with
  | nil => rfl
  | cons a l =>
    have hdrop : (a :: l).dropWhile p = a :: l :=
      List.dropWhile_cons_of_neg (by simpa using hhead a (by simp))
    rw [trimBy, hdrop, List.rdropWhile_eq_self_iff]
    intro hne
    simpa using hlast _ (List.getLast?_eq_some_getLast hne)

theorem trimBy_of_forall {p : α → Bool} {l : List α} (h : ∀ a ∈ l, p a = false) :
    trimBy p l = l :=
  trimBy_eq_self (fun _ ha => h _ (List.mem_of_mem_head? ha))
    (fun _ ha => h _ (List.mem_of_mem_getLast? ha))

theorem trimBy_head (p : α → Bool) (l : List α) : ∀ a ∈ (trimBy p l).head?, p a = false := by
  intro a ha
  have hprefix : trimBy p l <+: l.dropWhile p := List.rdropWhile_prefix p _
  have hhead : (l.dropWhile p).head? = some a := by
    obtain ⟨t, ht⟩ := hprefix
    rw [← ht, List.head?_append, Option.mem_def.mp ha]
    rfl
  have := List.head?_dropWhile_not p l
  rw [hhead] at this
  simpa using this

theorem trimBy_last (p : α → Bool) (l : List α) : ∀ a ∈ (trimBy p l).getLast?, p a = false := by
  intro a ha
  have hne : trimBy p l ≠ [] := by
    intro h
    simp [h] at ha
  have := List.rdropWhile_last_not p (l.dropWhile p) hne
  rw [List.getLast?_eq_some_getLast hne, Option.mem_some_iff] at ha
  simpa [← ha, trimBy] using this

theorem trimBy_trimBy (p : α → Bool) (l : List α) : trimBy p (trimBy p l) = trimBy p l :=
  trimBy_eq_self (trimBy_head p l) (trimBy_last p l)

theorem rdropWhile_append_of_pos {p : α → Bool} {l r : List α} (h : ∀ a ∈ r, p a = true) :
    (l ++ r).rdropWhile p = l.rdropWhile p := by
  rw [List.rdropWhile, List.reverse_append, List.dropWhile_append_of_pos, List.rdropWhile]
  exact fun a ha => h a (List.mem_reverse.mp ha)

theorem rdropWhile_append_cons {p : α → Bool} {l r : List α} {a : α} (h : p a = false) :
    (l ++ a :: r).rdropWhile p = l ++ a :: r.rdropWhile p := by
  have hfull : ¬((r.reverse ++ [a]).dropWhile p).isEmpty := by
    rw [List.dropWhile_append]
    split
    · rw [List.dropWhile_cons_of_neg (by simp [h])]
      simp
    · simp
  rw [List.rdropWhile, List.reverse_append, List.reverse_cons, List.dropWhile_append, if_neg hfull,
    List.dropWhile_append]
  split
  · rename_i hnil
    rw [List.isEmpty_iff] at hnil
    simp [h, List.rdropWhile, hnil]
  · simp [List.rdropWhile]

theorem trimBy_append_left {p : α → Bool} {l t : List α} (h : ∀ a ∈ l, p a = true) :
    trimBy p (l ++ t) = trimBy p t := by
  rw [trimBy, List.dropWhile_append_of_pos h, trimBy]

theorem trimBy_append_right {p : α → Bool} {t r : List α} (h : ∀ a ∈ r, p a = true) :
    trimBy p (t ++ r) = trimBy p t := by
  rw [trimBy, List.dropWhile_append]
  split
  · rename_i hnil
    have hr : r.dropWhile p = [] := List.dropWhile_eq_nil_iff.mpr h
    rw [hr, trimBy, List.isEmpty_iff.mp hnil]
  · rw [rdropWhile_append_of_pos h, trimBy]

/-- Stripped elements on both sides of a list that is trimmed already are what a trim removes. -/
theorem trimBy_eq_of_append {p : α → Bool} {l t r : List α} (hl : ∀ a ∈ l, p a = true)
    (hr : ∀ a ∈ r, p a = true) (ht : trimBy p t = t) : trimBy p (l ++ t ++ r) = t := by
  rw [trimBy_append_right hr, trimBy_append_left hl, ht]

theorem trimBy_dropWhile (p : α → Bool) (l : List α) : trimBy p (l.dropWhile p) = trimBy p l := by
  rw [trimBy, List.dropWhile_idempotent, trimBy]

theorem trimBy_rdropWhile (p : α → Bool) (l : List α) :
    trimBy p (l.rdropWhile p) = trimBy p l := by
  have h := trimBy_append_right (p := p) (t := l.rdropWhile p) (r := l.rtakeWhile p)
    fun a ha => List.mem_rtakeWhile_imp ha
  rw [List.rdropWhile_append_rtakeWhile] at h
  exact h.symm

theorem rdropWhile_congr {p q : α → Bool} {l : List α} (h : ∀ a ∈ l, p a = q a) :
    l.rdropWhile p = l.rdropWhile q := by
  induction l using List.reverseRecOn with
  | nil => rfl
  | append_singleton l a ih =>
    have hrest := ih fun b hb => h b (List.mem_append_left _ hb)
    rw [List.rdropWhile_concat, List.rdropWhile_concat, h a (by simp), hrest]

/-- A trim only depends on which elements of the list are stripped. -/
theorem trimBy_congr {p q : α → Bool} {l : List α} (h : ∀ a ∈ l, p a = q a) :
    trimBy p l = trimBy q l := by
  have hdrop : l.dropWhile p = l.dropWhile q := by
    induction l with
    | nil => rfl
    | cons a l ih =>
      rw [List.dropWhile_cons, List.dropWhile_cons, h a (by simp),
        ih fun b hb => h b (List.mem_cons_of_mem _ hb)]
  rw [trimBy, hdrop, trimBy]
  exact rdropWhile_congr fun a ha => h a ((List.dropWhile_sublist q).mem ha)

/-! ### Cutting at the first separator -/

section Split

variable [DecidableEq α]

/-- Cut a list at the first occurrence of `sep`, which belongs to neither part. -/
def splitOnce (sep : α) : List α → Option (List α × List α)
  | [] => none
  | a :: l =>
    if a = sep then some ([], l) else (splitOnce sep l).map fun (x, y) => (a :: x, y)

theorem splitOnce_append {sep : α} {x : List α} (hx : sep ∉ x) (y : List α) :
    splitOnce sep (x ++ sep :: y) = some (x, y) := by
  induction x with
  | nil => simp [splitOnce]
  | cons a x ih =>
    simp only [List.mem_cons, not_or] at hx
    simp [splitOnce, Ne.symm hx.1, ih hx.2]

theorem splitOnce_eq_some {sep : α} {l x y : List α} (h : splitOnce sep l = some (x, y)) :
    l = x ++ sep :: y ∧ sep ∉ x := by
  induction l generalizing x with
  | nil => simp [splitOnce] at h
  | cons a l ih =>
    rw [splitOnce] at h
    split at h
    · rename_i heq
      simp only [Option.some.injEq, Prod.mk.injEq] at h
      simp [← h.1, ← h.2, heq]
    · rename_i hne
      obtain ⟨⟨x', y'⟩, hx', hxy⟩ := Option.map_eq_some_iff.mp h
      simp only [Prod.mk.injEq] at hxy
      obtain ⟨rfl, rfl⟩ := hxy
      obtain ⟨hl, hnot⟩ := ih hx'
      exact ⟨by simp [hl], by simp [Ne.symm hne, hnot]⟩

theorem splitOnce_eq_none {sep : α} {l : List α} : splitOnce sep l = none ↔ sep ∉ l := by
  induction l with
  | nil => simp [splitOnce]
  | cons a l ih =>
    by_cases h : a = sep
    · simp [splitOnce, h]
    · simp [splitOnce, h, Ne.symm h, ih]

/-- A cut of a trimmed list is the cut of the list, with the outer ends trimmed. -/
theorem splitOnce_trimBy {p : α → Bool} {sep : α} (hsep : p sep = false) {l x y : List α}
    (h : splitOnce sep l = some (x, y)) :
    splitOnce sep (trimBy p l) = some (x.dropWhile p, y.rdropWhile p) := by
  obtain ⟨rfl, hx⟩ := splitOnce_eq_some h
  have hdrop : (x ++ sep :: y).dropWhile p = x.dropWhile p ++ sep :: y := by
    rw [List.dropWhile_append]
    split
    · rename_i hnil
      rw [List.isEmpty_iff.mp hnil, List.dropWhile_cons_of_neg (by simp [hsep]), List.nil_append]
    · rfl
  rw [trimBy, hdrop, rdropWhile_append_cons hsep, splitOnce_append]
  exact fun hmem => hx ((List.dropWhile_sublist p).mem hmem)

theorem splitOnce_trimBy_eq_none {p : α → Bool} {sep : α} (hsep : p sep = false) {l : List α} :
    splitOnce sep (trimBy p l) = none ↔ splitOnce sep l = none := by
  rw [splitOnce_eq_none, splitOnce_eq_none]
  refine not_congr ⟨fun h => (trimBy_sublist p l).mem h, fun h => ?_⟩
  rcases mem_trimBy_or (p := p) h with h | h
  · exact h
  · rw [hsep] at h
    cases h

/-! ### Splitting at every separator -/

theorem splitOn_append_cons {sep : α} {x : List α} (hx : sep ∉ x) (y : List α) :
    (x ++ sep :: y).splitOn sep = x :: y.splitOn sep :=
  List.splitOn_append_cons_self_of_not_mem hx y

/-- The elements of a piece are elements of the list, and none is the separator. -/
theorem mem_of_mem_splitOn {sep : α} {l piece : List α} (h : piece ∈ l.splitOn sep) :
    ∀ a ∈ piece, a ∈ l ∧ a ≠ sep := by
  induction l generalizing piece with
  | nil =>
    intro a ha
    simp_all
  | cons b l ih =>
    intro a ha
    rw [List.splitOn_cons_eq_if_modifyHead] at h
    split at h
    · rcases List.mem_cons.mp h with rfl | h
      · simp at ha
      · exact ⟨List.mem_cons_of_mem _ (ih h a ha).1, (ih h a ha).2⟩
    · rename_i hne
      cases hs : l.splitOn sep with
      | nil => exact absurd hs (List.splitOn_ne_nil _ _)
      | cons p ps =>
        rw [hs] at h
        simp only [List.modifyHead_cons, List.mem_cons] at h
        rcases h with rfl | h
        · rcases List.mem_cons.mp ha with rfl | ha
          · exact ⟨List.mem_cons_self, by simpa using hne⟩
          · have := ih (show p ∈ l.splitOn sep by simp [hs]) a ha
            exact ⟨List.mem_cons_of_mem _ this.1, this.2⟩
        · have := ih (show piece ∈ l.splitOn sep by simp [hs, h]) a ha
          exact ⟨List.mem_cons_of_mem _ this.1, this.2⟩

/-- Splitting what was joined from pieces without the separator gives the pieces back. -/
theorem splitOn_intercalate {sep : α} {pieces : List (List α)} (h : ∀ p ∈ pieces, sep ∉ p)
    (hne : pieces ≠ []) : (List.intercalate [sep] pieces).splitOn sep = pieces :=
  List.splitOn_intercalate sep h hne

/-- The pieces of a list: what stands before the first separator, and behind each. -/
theorem splitOn_eq_cons_iff {sep : α} {l x : List α} {xs : List (List α)} :
    l.splitOn sep = x :: xs ↔
      l = x ++ xs.flatMap (fun p => sep :: p) ∧ sep ∉ x ∧ ∀ p ∈ xs, sep ∉ p := by
  constructor
  · intro h
    have hpieces : ∀ p ∈ x :: xs, sep ∉ p := fun p hp hmem =>
      (mem_of_mem_splitOn (h ▸ hp) sep hmem).2 rfl
    refine ⟨?_, hpieces x (by simp), fun p hp => hpieces p (List.mem_cons_of_mem _ hp)⟩
    have hjoin : List.intercalate [sep] (l.splitOn sep) = l := List.intercalate_splitOn sep
    rw [← hjoin, h]
    clear h hpieces
    induction xs generalizing x with
    | nil => simp
    | cons y ys ih =>
      rw [List.intercalate_cons_of_ne_nil (by simp), ih, List.flatMap_cons]
      simp
  · intro h
    obtain ⟨rfl, hx, hxs⟩ := h
    induction xs generalizing x with
    | nil => simpa using List.splitOn_eq_singleton hx
    | cons y ys ih =>
      rw [List.flatMap_cons, List.cons_append, splitOn_append_cons hx,
        ih (hxs y (by simp)) fun p hp => hxs p (List.mem_cons_of_mem _ hp)]

/-- Split at every separator, without the empty piece behind a final one. -/
def splitTerminator (sep : α) (l : List α) : List (List α) :=
  if (l.splitOn sep).getLast? = some [] then (l.splitOn sep).dropLast else l.splitOn sep

theorem splitTerminator_subset (sep : α) (l : List α) :
    ∀ piece ∈ splitTerminator sep l, piece ∈ l.splitOn sep := by
  intro piece h
  unfold splitTerminator at h
  split at h
  · exact List.mem_of_mem_dropLast h
  · exact h

/-- A non-empty list without the separator is its own single piece. -/
theorem splitTerminator_of_notMem {sep : α} {l : List α} (h : sep ∉ l) (hne : l ≠ []) :
    splitTerminator sep l = [l] := by
  rw [splitTerminator, List.splitOn_eq_singleton h, if_neg]
  simpa using hne

end Split

/-! ### Joining -/

/-- An element of a joined list is the separator or comes from one of the pieces. -/
theorem mem_intercalate {sep a : α} {pieces : List (List α)}
    (h : a ∈ List.intercalate [sep] pieces) : a = sep ∨ ∃ p ∈ pieces, a ∈ p := by
  induction pieces with
  | nil => simp at h
  | cons p ps ih =>
    by_cases hps : ps = []
    · subst hps
      exact .inr ⟨p, by simp, by simpa using h⟩
    · rw [List.intercalate_cons_of_ne_nil hps, List.mem_append, List.mem_append] at h
      rcases h with (h | h) | h
      · exact .inr ⟨p, by simp, h⟩
      · exact .inl (by simpa using h)
      · rcases ih h with h | ⟨q, hq, ha⟩
        · exact .inl h
        · exact .inr ⟨q, List.mem_cons_of_mem _ hq, ha⟩

theorem mem_intercalate_of_mem {sep a : α} {pieces : List (List α)} {p : List α}
    (hp : p ∈ pieces) (ha : a ∈ p) : a ∈ List.intercalate [sep] pieces := by
  induction pieces with
  | nil => simp at hp
  | cons q qs ih =>
    by_cases hqs : qs = []
    · subst hqs
      obtain rfl : p = q := by simpa using hp
      simpa using ha
    · rw [List.intercalate_cons_of_ne_nil hqs, List.mem_append]
      rcases List.mem_cons.mp hp with rfl | hp
      · exact .inl (List.mem_append_left _ ha)
      · exact .inr (ih hp)

theorem intercalate_ne_nil {sep : α} {pieces : List (List α)} (h : ∀ p ∈ pieces, p ≠ [])
    (hne : pieces ≠ []) : List.intercalate [sep] pieces ≠ [] := by
  obtain ⟨p, ps, rfl⟩ := List.exists_cons_of_ne_nil hne
  obtain ⟨a, p', rfl⟩ := List.exists_cons_of_ne_nil (h p (by simp))
  exact List.ne_nil_of_mem (mem_intercalate_of_mem (p := a :: p') (a := a) (by simp) (by simp))

/-- Append a piece to a joined list, with a separator unless the list is still empty. -/
def joinPush (sep : α) (joined piece : List α) : List α :=
  if joined.isEmpty then piece else joined ++ sep :: piece

theorem joinPush_of_ne_nil {sep : α} {joined : List α} (h : joined ≠ []) (piece : List α) :
    joinPush sep joined piece = joined ++ sep :: piece := by
  simp [joinPush, h]

theorem intercalate_concat {sep : α} {pieces : List (List α)} (h : ∀ p ∈ pieces, p ≠ [])
    (piece : List α) : List.intercalate [sep] (pieces ++ [piece]) =
      joinPush sep (List.intercalate [sep] pieces) piece := by
  induction pieces with
  | nil => simp [joinPush]
  | cons p ps ih =>
    have hrest : ∀ q ∈ ps, q ≠ [] := fun q hq => h q (by simp [hq])
    rw [List.cons_append, List.intercalate_cons_of_ne_nil (by simp), ih hrest,
      joinPush_of_ne_nil (intercalate_ne_nil h (by simp))]
    by_cases hps : ps = []
    · simp [hps, joinPush]
    · rw [joinPush_of_ne_nil (intercalate_ne_nil hrest hps), List.intercalate_cons_of_ne_nil hps]
      simp

/-- Pushing non-empty pieces one after the other joins them. -/
theorem foldl_joinPush {sep : α} {pieces : List (List α)} (h : ∀ p ∈ pieces, p ≠ []) :
    pieces.foldl (joinPush sep) [] = List.intercalate [sep] pieces := by
  induction pieces using List.reverseRecOn with
  | nil => rfl
  | append_singleton ps p ih =>
    rw [List.foldl_append, ih (fun q hq => h q (by simp [hq])), List.foldl_cons, List.foldl_nil,
      intercalate_concat (fun q hq => h q (by simp [hq]))]

/-- A joined list has the length of its pieces and of the separators between them. -/
theorem length_intercalate_add_one {sep : α} {pieces : List (List α)} (h : pieces ≠ []) :
    (List.intercalate [sep] pieces).length + 1 = (pieces.map (·.length + 1)).sum := by
  induction pieces with
  | nil => exact absurd rfl h
  | cons p ps ih =>
    by_cases hps : ps = []
    · simp [hps]
    · have := ih hps
      rw [List.intercalate_cons_of_ne_nil hps]
      simp only [List.length_append, List.length_singleton, List.map_cons, List.sum_cons]
      omega

/-- Applying a function element by element to a joined list applies it to every piece. -/
theorem flatMap_intercalate {β : Type*} {sep : α} {sep' : β} {f : α → List β}
    (hsep : f sep = [sep']) (pieces : List (List α)) :
    (List.intercalate [sep] pieces).flatMap f =
      List.intercalate [sep'] (pieces.map (·.flatMap f)) := by
  induction pieces with
  | nil => rfl
  | cons p ps ih =>
    by_cases hps : ps = []
    · simp [hps]
    · rw [List.intercalate_cons_of_ne_nil hps, List.map_cons,
        List.intercalate_cons_of_ne_nil (by simpa using hps), List.flatMap_append,
        List.flatMap_append, ih]
      simp [hsep]

end Text
