import Mathlib.Data.List.Basic
import Mathlib.Data.List.Nodup
import Mathlib.Order.Nat

/-!
# Forests given by their children

A forest is given by the list of children of each of its elements, which may be trees, nodes of an
index graph or anything else that is walked downwards.  A chain is a walk from parent to child, and
the height of an element is the number of elements on a longest chain.

* `isHeight_of_children`: the height from the heights of the children.
* `nodup_covers_iff`: every index below a bound is claimed exactly once.
-/

namespace Forest

variable {α : Type}

/-- A walk from parent to child over this many elements. -/
inductive Chain (children : α → List α) : α → Nat → Prop
  | single (a : α) : Chain children a 1
  | cons {a b : α} {d : Nat} (h : b ∈ children a) (rest : Chain children b d) :
      Chain children a (d + 1)

/-- The number of elements on a longest chain from this one. -/
def IsHeight (children : α → List α) (a : α) (h : Nat) : Prop :=
  Chain children a h ∧ ∀ d, Chain children a d → d ≤ h

variable {children : α → List α}

theorem Chain.pos {a : α} {d : Nat} (h : Chain children a d) : 1 ≤ d := by
  cases h with
  | single => exact le_rfl
  | cons _ _ => omega

theorem IsHeight.unique {a : α} {h h' : Nat} (ha : IsHeight children a h)
    (ha' : IsHeight children a h') : h = h' :=
  Nat.le_antisymm (ha'.2 h ha.1) (ha.2 h' ha'.1)

section Max

variable {ι : Type}

/-- The largest value of a function on a list, or zero. -/
def maxOf (f : ι → Nat) (l : List ι) : Nat := l.foldr (fun a m => max (f a) m) 0

@[simp] theorem maxOf_nil (f : ι → Nat) : maxOf f [] = 0 := rfl

@[simp] theorem maxOf_cons (f : ι → Nat) (a : ι) (l : List ι) :
    maxOf f (a :: l) = max (f a) (maxOf f l) := rfl

theorem maxOf_map {κ : Type} (f : ι → Nat) (g : κ → ι) (l : List κ) :
    maxOf f (l.map g) = maxOf (fun a => f (g a)) l := by
  induction l with
  | nil => rfl
  | cons a l ih => rw [List.map_cons, maxOf_cons, maxOf_cons, ih]

theorem le_maxOf {f : ι → Nat} {l : List ι} {a : ι} (h : a ∈ l) : f a ≤ maxOf f l := by
  induction l with
  | nil => simp at h
  | cons b l ih =>
    rw [maxOf_cons]
    rcases List.mem_cons.mp h with rfl | h
    · exact le_max_left _ _
    · exact (ih h).trans (le_max_right _ _)

theorem maxOf_le_iff {f : ι → Nat} {l : List ι} {m : Nat} :
    maxOf f l ≤ m ↔ ∀ a ∈ l, f a ≤ m := by
  induction l with
  | nil => simp
  | cons b l ih => rw [maxOf_cons, Nat.max_le, ih, List.forall_mem_cons]

/-- The largest value is zero or attained. -/
theorem maxOf_eq_zero_or_mem (f : ι → Nat) (l : List ι) :
    maxOf f l = 0 ∨ ∃ a ∈ l, maxOf f l = f a := by
  induction l with
  | nil => exact .inl rfl
  | cons b l ih =>
    right
    rw [maxOf_cons]
    rcases le_total (f b) (maxOf f l) with hle | hle
    · rcases ih with hzero | ⟨a, ha, heq⟩
      · exact ⟨b, by simp, by omega⟩
      · exact ⟨a, by simp [ha], by rw [max_eq_right hle, heq]⟩
    · exact ⟨b, by simp, max_eq_left hle⟩

end Max

/-- **The height from the heights of the children**, which may be listed in another way. -/
theorem isHeight_of_children {ι : Type} {f : ι → Nat} {l : List ι} {a : α}
    (hlist : ∀ i ∈ l, ∃ b ∈ children a, IsHeight children b (f i))
    (hchildren : ∀ b ∈ children a, ∃ i ∈ l, IsHeight children b (f i)) :
    IsHeight children a (maxOf f l + 1) := by
  constructor
  · rcases maxOf_eq_zero_or_mem f l with hzero | ⟨i, hi, heq⟩
    · rw [hzero]
      exact .single a
    · rw [heq]
      obtain ⟨b, hb, hheight⟩ := hlist i hi
      exact .cons hb hheight.1
  · intro d hd
    cases hd with
    | single => omega
    | cons hb rest =>
      obtain ⟨i, hi, hheight⟩ := hchildren _ hb
      have hle := hheight.2 _ rest
      have := le_maxOf (f := f) hi
      omega

theorem IsHeight.le_iff {a : α} {h m : Nat} (ha : IsHeight children a h) :
    h ≤ m ↔ ∀ d, Chain children a d → d ≤ m :=
  ⟨fun hle d hd => (ha.2 d hd).trans hle, fun hall => hall h ha.1⟩

/-- Claims without repetition that cover the indices below `n`, all within them, are one claim for
each of these. -/
theorem nodup_covers_iff {claims : List Nat} {n : Nat} (hbound : ∀ i ∈ claims, i < n) :
    (claims.Nodup ∧ ∀ i < n, i ∈ claims) ↔ ∀ i < n, claims.count i = 1 := by
  constructor
  · rintro ⟨hnodup, hcover⟩ i hi
    exact List.count_eq_one_of_mem hnodup (hcover i hi)
  · intro h
    refine ⟨List.nodup_iff_count_le_one.mpr fun i => ?_, fun i hi => ?_⟩
    · by_cases hi : i < n
      · exact (h i hi).le
      · rw [List.count_eq_zero.mpr fun hmem => hi (hbound i hmem)]
        exact Nat.zero_le 1
    · rw [← List.count_pos_iff, h i hi]
      exact Nat.one_pos

end Forest
