import OtelC.Abi

/-!
# Attributes crossing to the SDK

The typed attributes callers hand over and the owned key-value pairs the SDK keeps.  The payload of
an attribute is a C union; the model carries all its members and the tag selects the one that is
read.  Floating-point numbers are their 64 bits, since they are only ever copied.

* `toKeyValue_iff`: an attribute is accepted just when it stands for the pair that is kept.
* `collectUniqueKeyValues_iff`: so is an array of them, when besides no key repeats.
-/

namespace OtelC.Sdk

/-- The bits of an IEEE 754 double. -/
abbrev F64Bits := UInt64

/-- The payload union of an attribute, one field for each member. -/
structure OtelAttributeValue where
  stringValue : OtelStringView
  boolValue : UInt32
  int64Value : Int64
  doubleValue : F64Bits

structure OtelKeyValue where
  key : OtelStringView
  valueType : UInt32
  value : OtelAttributeValue

/-! ### Owned attributes -/

/-- An array attribute; only resource detectors produce them. -/
inductive ArrayValue where
  | bool (values : List Bool)
  | i64 (values : List Int64)
  | f64 (values : List F64Bits)
  | string (values : List Str)
  deriving DecidableEq

inductive Value where
  | bool (b : Bool)
  | i64 (n : Int64)
  | f64 (x : F64Bits)
  | string (s : Str)
  | array (values : ArrayValue)
  deriving DecidableEq

structure KeyValue where
  key : Str
  value : Value
  deriving DecidableEq

/-- `MAX_ATTRIBUTES`. -/
def maxAttributes : Nat := 1048576

/-- `size_of::<OtelKeyValue>()` on a 64-bit target. -/
def sizeOfKeyValue : Nat := 40

/-- `to_key_value`. -/
def toKeyValue (kv : OtelKeyValue) : Except Fail KeyValue := do
  let key ← asStr kv.key
  if key.isEmpty then fail .invalidArgument "attribute key must not be empty"
  else match kv.valueType.toNat with
    | 0 => do
      let s ← asStr kv.value.stringValue
      .ok ⟨key, .string s⟩
    | 1 => .ok ⟨key, .bool (kv.value.boolValue ≠ 0)⟩
    | 2 => .ok ⟨key, .i64 kv.value.int64Value⟩
    | 3 => .ok ⟨key, .f64 kv.value.doubleValue⟩
    | _ => fail .invalidArgument "attribute value_type is not a valid OtelAttributeType tag"

/-- `collect_key_values`. -/
def collectKeyValues (attributes : CSlice OtelKeyValue) : Except Fail (List KeyValue) :=
  if attributes.len = 0 then .ok []
  else if attributes.isNull then
    fail .invalidArgument "attribute array is NULL with non-zero count"
  else if attributes.len > maxAttributes then
    fail .invalidArgument "attribute count exceeds the maximum supported value"
  else if attributes.len * sizeOfKeyValue > isizeMax then
    fail .invalidArgument "attribute array exceeds the maximum supported size"
  else attributes.read.mapM toKeyValue

/-- `collect_unique_key_values`, for attributes that are part of an identity. -/
def collectUniqueKeyValues (attributes : CSlice OtelKeyValue) : Except Fail (List KeyValue) := do
  let values ← collectKeyValues attributes
  if (values.map KeyValue.key).Nodup then .ok values
  else fail .invalidArgument "duplicate scope attribute key"

/-! ### What the caller's attributes stand for -/

/-- The value of an attribute, by its tag. -/
def taggedValue (kv : OtelKeyValue) : Except Fail Value :=
  match kv.valueType.toNat with
  | 0 => do
    let s ← asStr kv.value.stringValue
    .ok (.string s)
  | 1 => .ok (.bool (kv.value.boolValue ≠ 0))
  | 2 => .ok (.i64 kv.value.int64Value)
  | 3 => .ok (.f64 kv.value.doubleValue)
  | _ => fail .invalidArgument "attribute value_type is not a valid OtelAttributeType tag"

/-- An attribute with a key, which is not empty, and the value that its tag selects. -/
structure StandsFor (kv : OtelKeyValue) (out : KeyValue) : Prop where
  key : asStr kv.key = .ok out.key
  key_ne : out.key ≠ []
  value : taggedValue kv = .ok out.value

/-- Attributes of distinct keys, all of them there and no more than the maximum. -/
structure StandForUnique (attributes : CSlice OtelKeyValue) (values : List KeyValue) : Prop where
  length : attributes.read.length = attributes.len
  count : attributes.len ≤ maxAttributes
  each : List.Forall₂ StandsFor attributes.read values
  keys : (values.map KeyValue.key).Nodup

theorem toKeyValue_iff {kv : OtelKeyValue} {out : KeyValue} :
    toKeyValue kv = .ok out ↔ StandsFor kv out := by
  obtain ⟨key, value⟩ := out
  rw [toKeyValue, Checked.bind_eq_ok]
  constructor
  · rintro ⟨key', hkey, h⟩
    obtain ⟨hne, h⟩ := Checked.guard_eq_ok.mp h
    rw [List.isEmpty_iff] at hne
    have hvalue : key' = key ∧ taggedValue kv = .ok value := by
      rw [taggedValue]
      rcases htag : kv.valueType.toNat with _ | _ | _ | _ | n <;> rw [htag] at h
      · obtain ⟨s, hs, h⟩ := Checked.bind_eq_ok.mp h
        cases h
        exact ⟨rfl, Checked.bind_eq_ok.mpr ⟨s, hs, rfl⟩⟩
      · cases h
        exact ⟨rfl, rfl⟩
      · cases h
        exact ⟨rfl, rfl⟩
      · cases h
        exact ⟨rfl, rfl⟩
      · cases h
    obtain ⟨rfl, hvalue⟩ := hvalue
    exact ⟨hkey, hne, hvalue⟩
  · rintro ⟨hkey, hne, h⟩
    refine ⟨key, hkey, Checked.guard_eq_ok.mpr ⟨fun hempty => hne (List.isEmpty_iff.mp hempty), ?_⟩⟩
    rw [taggedValue] at h
    rcases htag : kv.valueType.toNat with _ | _ | _ | _ | n <;> rw [htag] at h
    · obtain ⟨s, hs, h⟩ := Checked.bind_eq_ok.mp h
      cases h
      exact Checked.bind_eq_ok.mpr ⟨s, hs, rfl⟩
    · cases h
      rfl
    · cases h
      rfl
    · cases h
      rfl
    · cases h

theorem mapM_toKeyValue_iff {kvs : List OtelKeyValue} {values : List KeyValue} :
    kvs.mapM toKeyValue = .ok values ↔ List.Forall₂ StandsFor kvs values := by
  rw [Checked.mapM_eq_ok]
  simp only [toKeyValue_iff]

/-- What the checks before the pass come to: the bound on the number covers the one on the bytes. -/
theorem readable_iff {attributes : CSlice OtelKeyValue} :
    attributes.len = 0 ∨ ¬attributes.isNull ∧ ¬attributes.len > maxAttributes ∧
        ¬attributes.len * sizeOfKeyValue > isizeMax ↔
      attributes.read.length = attributes.len ∧ attributes.len ≤ maxAttributes := by
  have hbytes : attributes.len ≤ maxAttributes → ¬attributes.len * sizeOfKeyValue > isizeMax := by
    intro h
    rw [maxAttributes] at h
    rw [sizeOfKeyValue, isizeMax]
    omega
  cases attributes with
  | null n =>
    simp only [CSlice.len, CSlice.isNull, CSlice.read, List.length_nil, not_true_eq_false, false_and,
      or_false]
    constructor
    · rintro rfl
      exact ⟨rfl, Nat.zero_le _⟩
    · rintro ⟨h, -⟩
      exact h.symm
  | elems xs =>
    constructor
    · rintro (h | ⟨-, h, -⟩)
      · exact ⟨rfl, h ▸ Nat.zero_le _⟩
      · exact ⟨rfl, Nat.not_lt.mp h⟩
    · rintro ⟨-, h⟩
      exact .inr ⟨Bool.false_ne_true, Nat.not_lt.mpr h, hbytes h⟩

theorem collectKeyValues_iff {attributes : CSlice OtelKeyValue} {values : List KeyValue} :
    collectKeyValues attributes = .ok values ↔
      (attributes.read.length = attributes.len ∧ attributes.len ≤ maxAttributes) ∧
        List.Forall₂ StandsFor attributes.read values := by
  rw [← mapM_toKeyValue_iff, ← readable_iff, collectKeyValues]
  by_cases hlen : attributes.len = 0
  · rw [if_pos hlen, CSlice.read_eq_nil hlen, and_iff_right (.inl hlen)]
    rfl
  · rw [if_neg hlen, or_iff_right hlen]
    simp only [fail, Checked.guard_eq_ok, and_assoc]

theorem collectUniqueKeyValues_iff {attributes : CSlice OtelKeyValue} {values : List KeyValue} :
    collectUniqueKeyValues attributes = .ok values ↔ StandForUnique attributes values := by
  rw [collectUniqueKeyValues, Checked.bind_eq_ok]
  constructor
  · rintro ⟨out, hout, h⟩
    obtain ⟨⟨hlength, hcount⟩, heach⟩ := collectKeyValues_iff.mp hout
    by_cases hnodup : (out.map KeyValue.key).Nodup
    · rw [if_pos hnodup] at h
      obtain rfl := Except.ok.inj h
      exact ⟨hlength, hcount, heach, hnodup⟩
    · rw [if_neg hnodup] at h
      cases h
  · intro h
    exact ⟨values, collectKeyValues_iff.mpr ⟨⟨h.length, h.count⟩, h.each⟩, if_pos h.keys⟩

end OtelC.Sdk
