import Mathlib.Data.List.Range

/-!
# Fields in memory

The memory behind a pointer holds a byte at each offset, and a field of fixed width is read out of it
in little-endian order.  A read sees its own bytes only (`bytesAt_congr`).
-/

namespace Fields

/-- The memory behind a pointer: a byte at each offset. -/
abbrev Memory := Nat → UInt8

/-- The bytes of `[offset, offset + width)`. -/
def bytesAt (memory : Memory) (offset width : Nat) : List UInt8 :=
  (List.range' offset width).map memory

/-- The number that a list of bytes spells, the least significant first. -/
def leNat : List UInt8 → Nat
  | [] => 0
  | b :: bs => b.toNat + 256 * leNat bs

def u8At (memory : Memory) (offset : Nat) : UInt8 := memory offset

def u32At (memory : Memory) (offset : Nat) : UInt32 := .ofNat (leNat (bytesAt memory offset 4))

def u64At (memory : Memory) (offset : Nat) : UInt64 := .ofNat (leNat (bytesAt memory offset 8))

@[simp] theorem length_bytesAt (memory : Memory) (offset width : Nat) :
    (bytesAt memory offset width).length = width := by
  rw [bytesAt, List.length_map, List.length_range']

/-- Two memories hold the same bytes at `[offset, offset + width)`. -/
def SameAt (memory memory' : Memory) (offset width : Nat) : Prop :=
  ∀ i, offset ≤ i → i < offset + width → memory i = memory' i

theorem SameAt.mono {memory memory' : Memory} {offset width offset' width' : Nat}
    (h : SameAt memory memory' offset width) (hstart : offset ≤ offset')
    (hstop : offset' + width' ≤ offset + width) : SameAt memory memory' offset' width' :=
  fun i hi hlt => h i (hstart.trans hi) (Nat.lt_of_lt_of_le hlt hstop)

theorem bytesAt_congr {memory memory' : Memory} {offset width : Nat}
    (h : SameAt memory memory' offset width) :
    bytesAt memory offset width = bytesAt memory' offset width := by
  apply List.map_congr_left
  intro i hi
  rw [List.mem_range'_1] at hi
  exact h i hi.1 hi.2

theorem u32At_congr {memory memory' : Memory} {offset : Nat} (h : SameAt memory memory' offset 4) :
    u32At memory offset = u32At memory' offset := by
  rw [u32At, u32At, bytesAt_congr h]

theorem u64At_congr {memory memory' : Memory} {offset : Nat} (h : SameAt memory memory' offset 8) :
    u64At memory offset = u64At memory' offset := by
  rw [u64At, u64At, bytesAt_congr h]

theorem u8At_congr {memory memory' : Memory} {offset : Nat} (h : SameAt memory memory' offset 1) :
    u8At memory offset = u8At memory' offset :=
  h offset le_rfl (Nat.lt_succ_self offset)

end Fields
