import Mathlib.Algebra.GroupWithZero.Nat
import Mathlib.Data.List.Pairwise

/-!
# Doubles by their bits

An IEEE 754 double is its 64 bits here.  Those of the finite ones order like integers, with the sign
apart, and both zeros are the integer zero.
-/

namespace Double

/-- The bits without the sign. -/
def magnitude (x : UInt64) : Nat := x.toNat % 2 ^ 63

/-- The magnitude of the infinities; beyond it are the NaNs. -/
def infinity : Nat := 0x7FF0000000000000

/-- `is_finite`. -/
def isFinite (x : UInt64) : Bool := magnitude x < infinity

def isNaN (x : UInt64) : Bool := infinity < magnitude x

/-- Where a double stands among the doubles. -/
def order (x : UInt64) : Int := if 2 ^ 63 ≤ x.toNat then -magnitude x else magnitude x

/-- `x >= y`, which no NaN takes part in. -/
def ge (x y : UInt64) : Bool := !isNaN x && !isNaN y && decide (order y ≤ order x)

/-- `(low..=high).contains`. -/
def contains (low high x : UInt64) : Bool := ge x low && ge high x

/-- The bits of 1. -/
def one : UInt64 := 0x3FF0000000000000

theorem ge_iff {x y : UInt64} :
    ge x y = true ↔ isNaN x = false ∧ isNaN y = false ∧ order y ≤ order x := by
  rw [ge, Bool.and_eq_true, Bool.and_eq_true, Bool.not_eq_true', Bool.not_eq_true',
    decide_eq_true_eq, and_assoc]

theorem isNaN_eq_false_iff {x : UInt64} : isNaN x = false ↔ magnitude x ≤ infinity := by
  rw [isNaN, decide_eq_false_iff_not, Nat.not_lt]

/-- The doubles from 0 to 1 are those with the bits up to those of 1, and the negative zero. -/
theorem contains_zero_one_iff {x : UInt64} :
    contains 0 one x = true ↔ x.toNat ≤ one.toNat ∨ x.toNat = 2 ^ 63 := by
  have hlow : isNaN 0 = false ∧ order 0 = 0 := by decide
  have hhigh : isNaN one = false ∧ order one = 0x3FF0000000000000 := by decide
  have hone : one.toNat = 0x3FF0000000000000 := rfl
  have hlt : x.toNat < 2 ^ 64 := x.toNat_lt
  rw [contains, Bool.and_eq_true, ge_iff, ge_iff, hlow.1, hlow.2, hhigh.1, hhigh.2,
    isNaN_eq_false_iff, hone, order, magnitude, infinity]
  simp only [true_and]
  split <;> omega

theorem not_isNaN_of_isFinite {x : UInt64} (h : isFinite x = true) : isNaN x = false := by
  rw [isFinite, decide_eq_true_eq] at h
  rw [isNaN, decide_eq_false_iff_not]
  omega

theorem ge_eq_false_iff {x y : UInt64} (hx : isFinite x = true) (hy : isFinite y = true) :
    ge x y = false ↔ order x < order y := by
  rw [ge, not_isNaN_of_isFinite hx, not_isNaN_of_isFinite hy]
  simp

/-- Finite doubles each below the next are all in order. -/
theorem pairwise_order {l : List UInt64} (hfinite : ∀ x ∈ l, isFinite x = true)
    (h : ∀ pair ∈ l.zip l.tail, ge pair.1 pair.2 = false) :
    l.Pairwise fun x y => order x < order y := by
  induction l with
  | nil => exact List.Pairwise.nil
  | cons x l ih =>
    cases l with
    | nil => exact List.pairwise_singleton _ _
    | cons y l =>
      have hxy : order x < order y :=
        (ge_eq_false_iff (hfinite x (by simp)) (hfinite y (by simp))).mp (h (x, y) (by simp))
      have hrest : (y :: l).Pairwise fun x y => order x < order y :=
        ih (fun z hz => hfinite z (List.mem_cons_of_mem x hz))
          fun pair hpair => h pair (List.mem_cons_of_mem _ hpair)
      refine List.pairwise_cons.mpr ⟨fun z hz => ?_, hrest⟩
      obtain rfl | hz := List.mem_cons.mp hz
      · exact hxy
      · exact Int.lt_trans hxy ((List.pairwise_cons.mp hrest).1 z hz)

/-- Finite doubles in order are each below the next. -/
theorem ge_eq_false_of_pairwise {l : List UInt64} (hfinite : ∀ x ∈ l, isFinite x = true)
    (h : l.Pairwise fun x y => order x < order y) :
    ∀ pair ∈ l.zip l.tail, ge pair.1 pair.2 = false := by
  induction l with
  | nil => exact List.forall_mem_nil _
  | cons x l ih =>
    cases l with
    | nil => exact List.forall_mem_nil _
    | cons y l =>
      obtain ⟨hx, hrest⟩ := List.pairwise_cons.mp h
      obtain ⟨hfx, hfrest⟩ := List.forall_mem_cons.mp hfinite
      have hfy : isFinite y = true := hfrest y List.mem_cons_self
      have hxy : ge x y = false := (ge_eq_false_iff hfx hfy).mpr (hx y List.mem_cons_self)
      exact List.forall_mem_cons.mpr ⟨hxy, ih hfrest hrest⟩

end Double
