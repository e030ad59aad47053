import Mathlib.Data.List.Nodup
import Mathlib.Data.List.Range
import Mathlib.Data.Nat.ModEq

/-!
# Tickets of a wrapping counter

A counter with `size` values hands out one ticket after the other and skips zero, which stands for
"no ticket".  It does so at the moment it hands out a ticket or at the moment it steps on; either
way the `k`-th ticket is `nth size k`, and the tickets repeat with period `size - 1`.

* `skipZero_succ`: stepping on from one ticket gives the next.
* `nodup_firstTickets_iff`: the first `n` tickets are distinct exactly while there are fewer than
  `size` of them.
-/

namespace Ticket

/-- The `k`-th ticket, counted from zero. -/
def nth (size k : Nat) : Nat := k % (size - 1) + 1

def skipZero (n : Nat) : Nat := if n = 0 then 1 else n

variable {size : Nat}

theorem nth_pos (k : Nat) : 0 < nth size k := Nat.succ_pos _

theorem nth_zero : nth size 0 = 1 := by rw [nth, Nat.zero_mod]

theorem nth_of_lt {k : Nat} (h : k + 1 < size) : nth size k = k + 1 := by
  rw [nth, Nat.mod_eq_of_lt (by omega)]

/-- After `size - 1` tickets the first one comes again. -/
theorem nth_wraps : nth size (size - 1) = nth size 0 := by
  rw [nth, nth, Nat.mod_self, Nat.zero_mod]

theorem nth_inj {j k : Nat} (hj : j + 1 < size) (hk : k + 1 < size) (h : nth size j = nth size k) :
    j = k := by
  rw [nth_of_lt hj, nth_of_lt hk] at h
  exact Nat.succ.inj h

/-- Stepping on from the `k`-th ticket gives the next one. -/
theorem skipZero_succ (hsize : 1 < size) (k : Nat) :
    skipZero ((nth size k + 1) % size) = nth size (k + 1) := by
  have hmod : k % (size - 1) < size - 1 := Nat.mod_lt k (by omega)
  have hstep : (k + 1) % (size - 1) = (k % (size - 1) + 1) % (size - 1) :=
    (Nat.mod_add_mod k (size - 1) 1).symm
  by_cases hlast : k % (size - 1) + 1 = size - 1
  · rw [nth, nth, hstep, hlast, Nat.mod_self, show size - 1 + 1 = size by omega, Nat.mod_self]
    rfl
  · have hlt : k % (size - 1) + 1 < size - 1 := by omega
    rw [nth, nth, hstep, Nat.mod_eq_of_lt hlt, Nat.mod_eq_of_lt (by omega), skipZero,
      if_neg (Nat.succ_ne_zero _)]

/-- The first `n` tickets. -/
def firstTickets (size n : Nat) : List Nat := (List.range n).map (nth size)

@[simp] theorem length_firstTickets (n : Nat) : (firstTickets size n).length = n := by
  simp [firstTickets]

theorem firstTickets_succ (n : Nat) :
    firstTickets size (n + 1) = firstTickets size n ++ [nth size n] := by
  rw [firstTickets, List.range_succ, List.map_append, List.map_singleton, firstTickets]

theorem mem_firstTickets {n t : Nat} : t ∈ firstTickets size n ↔ ∃ k < n, nth size k = t := by
  simp [firstTickets]

/-- **The first tickets are distinct exactly while there are fewer than `size` of them.** -/
theorem nodup_firstTickets_iff (hsize : 1 < size) {n : Nat} :
    (firstTickets size n).Nodup ↔ n < size := by
  constructor
  · intro h
    by_contra hn
    have hinj := List.inj_on_of_nodup_map h
    have hzero : size - 1 = 0 := hinj (by simp; omega) (by simp; omega) nth_wraps
    omega
  · intro h
    refine List.Nodup.map_on ?_ List.nodup_range
    intro j hj k hk hjk
    rw [List.mem_range] at hj hk
    exact nth_inj (by omega) (by omega) hjk

/-! ### Counters of 64 bits -/

theorem one_lt_range : 1 < 2 ^ 64 := by decide

theorem toNat_succ (counter : UInt64) : (counter + 1).toNat = (counter.toNat + 1) % 2 ^ 64 :=
  UInt64.toNat_add counter 1

theorem skipZero_toNat {counter : UInt64} (h : counter ≠ 0) :
    skipZero counter.toNat = counter.toNat :=
  if_neg fun hzero => h (UInt64.toNat_inj.mp hzero)

end Ticket
