import Mathlib.Data.List.Basic
import Mathlib.Tactic.IntervalCases

/-!
# Hexadecimal digits and byte strings

`lower` and `upper` print a nibble, `lowerValue?` and `value?` read one: the first takes
lowercase digits only, the second both cases.  `encode` prints a byte string with lowercase digits
and `decode` reads it back.

* `decode_encode`: every byte string comes back.
* `decode_eq_some`: what `decode` accepts is exactly the encoding of its result.
-/

namespace Hex

/-! ### Digits -/

/-- `0123456789abcdef`. -/
def lowerDigits : List UInt8 :=
  [0x30, 0x31, 0x32, 0x33, 0x34, 0x35, 0x36, 0x37, 0x38, 0x39, 0x61, 0x62, 0x63, 0x64, 0x65, 0x66]

/-- `0123456789ABCDEF`. -/
def upperDigits : List UInt8 :=
  [0x30, 0x31, 0x32, 0x33, 0x34, 0x35, 0x36, 0x37, 0x38, 0x39, 0x41, 0x42, 0x43, 0x44, 0x45, 0x46]

def lower (n : Nat) : UInt8 := lowerDigits.getD n 0

def upper (n : Nat) : UInt8 := upperDigits.getD n 0

def lowerValue? (b : UInt8) : Option Nat :=
  if 0x30 ≤ b.toNat ∧ b.toNat ≤ 0x39 then some (b.toNat - 0x30)
  else if 0x61 ≤ b.toNat ∧ b.toNat ≤ 0x66 then some (b.toNat - 0x61 + 10)
  else none

def value? (b : UInt8) : Option Nat :=
  if 0x30 ≤ b.toNat ∧ b.toNat ≤ 0x39 then some (b.toNat - 0x30)
  else if 0x61 ≤ b.toNat ∧ b.toNat ≤ 0x66 then some (b.toNat - 0x61 + 10)
  else if 0x41 ≤ b.toNat ∧ b.toNat ≤ 0x46 then some (b.toNat - 0x41 + 10)
  else none

theorem lowerValue?_lower {n : Nat} (h : n < 16) : lowerValue? (lower n) = some n := by
  interval_cases n <;> rfl

theorem value?_upper {n : Nat} (h : n < 16) : value? (upper n) = some n := by
  interval_cases n <;> rfl

theorem lowerValue?_eq_some {b : UInt8} {n : Nat} :
    lowerValue? b = some n ↔ n < 16 ∧ b = lower n := by
  constructor
  · intro h
    have hn : n < 16 ∧ b.toNat = if n < 10 then 0x30 + n else 0x57 + n := by
      unfold lowerValue? at h
      split_ifs at h <;> simp only [Option.some.injEq] at h <;> split_ifs <;> omega
    refine ⟨hn.1, UInt8.toNat_inj.mp ?_⟩
    rw [hn.2]
    have := hn.1
    interval_cases n <;> rfl
  · rintro ⟨hn, rfl⟩
    exact lowerValue?_lower hn

theorem lower_toNat_range {n : Nat} (h : n < 16) : 0x30 ≤ (lower n).toNat ∧ (lower n).toNat ≤ 0x66 := by
  interval_cases n <;> decide

theorem upper_toNat_range {n : Nat} (h : n < 16) :
    0x30 ≤ (upper n).toNat ∧ (upper n).toNat ≤ 0x39 ∨
      0x41 ≤ (upper n).toNat ∧ (upper n).toNat ≤ 0x46 := by
  interval_cases n <;> decide

/-! ### Bytes of two digits -/

/-- The byte of a high and a low nibble. -/
def byte (hi lo : Nat) : UInt8 := UInt8.ofNat (hi * 16 + lo)

theorem byte_toNat {hi lo : Nat} (hhi : hi < 16) (hlo : lo < 16) :
    (byte hi lo).toNat = hi * 16 + lo := by
  rw [byte, UInt8.toNat_ofNat']
  omega

@[simp] theorem byte_div_mod (b : UInt8) : byte (b.toNat / 16) (b.toNat % 16) = b := by
  rw [byte, Nat.div_add_mod', UInt8.ofNat_toNat]

theorem div_lt (b : UInt8) : b.toNat / 16 < 16 := by
  have := b.toNat_lt
  omega

theorem mod_lt (b : UInt8) : b.toNat % 16 < 16 := by omega

/-! ### Byte strings -/

def encode (bytes : List UInt8) : List UInt8 :=
  bytes.flatMap fun b => [lower (b.toNat / 16), lower (b.toNat % 16)]

def decode : List UInt8 → Option (List UInt8)
  | [] => some []
  | [_] => none
  | hi :: lo :: rest => do
    let h ← lowerValue? hi
    let l ← lowerValue? lo
    let bytes ← decode rest
    some (byte h l :: bytes)

@[simp] theorem length_encode (bytes : List UInt8) :
    (encode bytes).length = 2 * bytes.length := by
  simp [encode, List.length_flatMap, Nat.mul_comm]

theorem decode_encode (bytes : List UInt8) : decode (encode bytes) = some bytes := by
  induction bytes with
  | nil => rfl
  | cons b bytes ih =>
    have h : encode (b :: bytes) =
        lower (b.toNat / 16) :: lower (b.toNat % 16) :: encode bytes := rfl
    rw [h, decode, lowerValue?_lower (div_lt b), lowerValue?_lower (mod_lt b), ih]
    simp

/-- The reader accepts nothing but what the printer writes. -/
theorem decode_eq_some {l bytes : List UInt8} : decode l = some bytes ↔ l = encode bytes := by
  constructor
  · intro h
    induction l using decode.induct generalizing bytes with
    | case1 =>
      obtain rfl : bytes = [] := by simpa [decode, eq_comm] using h
      rfl
    | case2 _ => simp [decode] at h
    | case3 hi lo rest ih =>
      rw [decode] at h
      simp only [Option.bind_eq_bind, Option.bind_eq_some_iff, Option.some.injEq] at h
      obtain ⟨a, ha, b, hb, tail, htail, rfl⟩ := h
      obtain ⟨ha16, rfl⟩ := lowerValue?_eq_some.mp ha
      obtain ⟨hb16, rfl⟩ := lowerValue?_eq_some.mp hb
      have hbyte := byte_toNat ha16 hb16
      have hdiv : (byte a b).toNat / 16 = a := by omega
      have hmod : (byte a b).toNat % 16 = b := by omega
      rw [ih htail]
      simp [encode, hdiv, hmod]
  · rintro rfl
    exact decode_encode bytes

end Hex
