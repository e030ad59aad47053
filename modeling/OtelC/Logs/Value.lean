import OtelC.Sdk.Attributes
import OtelC.Lib.Forest

/-!
# Log values at the boundary

A structured value crosses the boundary as a pool of nodes in which a container addresses its
children by a range of indices, and lives in the SDK as a tree.  `readValue` is what a pool means: the
tree a reader finds who follows the ranges down to a given number of levels.
-/

namespace OtelC.Logs

open OtelC.Sdk (F64Bits)

/-! ### Limits -/

/-- `OTEL_LOG_MAX_ATTRIBUTES`. -/
def maxAttributes : Nat := 256

/-- `OTEL_LOG_MAX_VALUE_NODES`. -/
def maxValueNodes : Nat := 1024

/-- `OTEL_LOG_MAX_VALUE_DEPTH`. -/
def maxValueDepth : Nat := 16

/-- `OTEL_LOG_MAX_STRING_LEN`. -/
def maxStringLen : Nat := 1048576

/-- `OTEL_LOG_MAX_BYTES_LEN`. -/
def maxBytesLen : Nat := 1048576

/-- `OTEL_LOG_MAX_MAP_ENTRIES`. -/
def maxMapEntries : Nat := 256

/-- `OTEL_LOG_MAX_ARRAY_ELEMENTS`. -/
def maxArrayElements : Nat := 256

/-! ### Values and nodes of the ABI -/

inductive OtelLogValueType where
  | empty
  | string
  | bool
  | int64
  | double
  | bytes
  | array
  | map
  deriving DecidableEq, Repr

/-- `OtelLogValueType::from_u32`. -/
def OtelLogValueType.fromU32 (value : UInt32) : Option OtelLogValueType :=
  match value.toNat with
  | 0 => some .empty
  | 1 => some .string
  | 2 => some .bool
  | 3 => some .int64
  | 4 => some .double
  | 5 => some .bytes
  | 6 => some .array
  | 7 => some .map
  | _ => none

/-- `tag as u32`. -/
def OtelLogValueType.toU32 : OtelLogValueType → UInt32
  | .empty => 0
  | .string => 1
  | .bool => 2
  | .int64 => 3
  | .double => 4
  | .bytes => 5
  | .array => 6
  | .map => 7

@[simp] theorem fromU32_toU32 (tag : OtelLogValueType) :
    OtelLogValueType.fromU32 tag.toU32 = some tag := by
  cases tag <;> rfl

def OtelLogValueType.IsContainer (tag : OtelLogValueType) : Prop := tag = .array ∨ tag = .map

instance (tag : OtelLogValueType) : Decidable tag.IsContainer :=
  inferInstanceAs (Decidable (_ ∨ _))

abbrev OtelLogBytesView := CSlice UInt8

/-- `OtelLogBytesView::as_slice`. -/
def asSlice (view : OtelLogBytesView) : Except Fail (List UInt8) :=
  if view.len = 0 then .ok []
  else if view.isNull then fail .invalidArgument "bytes view has NULL ptr with non-zero len"
  else if view.len > isizeMax then
    fail .invalidArgument "bytes view len exceeds the maximum supported size"
  else .ok view.read

/-- `[first, first + count)` in the pool. -/
structure OtelLogValueRange where
  first : UInt32
  count : UInt32

/-- The pool indices of a range. -/
def OtelLogValueRange.indices (range : OtelLogValueRange) : List Nat :=
  List.range' range.first.toNat range.count.toNat

/-- The payload union of a log value, one field for each member. -/
structure OtelLogValuePayload where
  stringValue : OtelStringView := .null 0
  boolValue : UInt32 := 0
  int64Value : Int64 := 0
  doubleValue : F64Bits := 0
  bytesValue : OtelLogBytesView := .null 0
  children : OtelLogValueRange := ⟨0, 0⟩

structure OtelLogValue where
  valueType : UInt32
  reserved : UInt32
  value : OtelLogValuePayload

structure OtelLogValueNode where
  key : OtelStringView
  value : OtelLogValue

/-- The tag of a value, if it is a known one. -/
def OtelLogValue.tag (value : OtelLogValue) : Option OtelLogValueType :=
  OtelLogValueType.fromU32 value.valueType

/-- The pool indices a value addresses: those of its range if it is a container. -/
def OtelLogValue.kids (value : OtelLogValue) : List Nat :=
  if value.tag = some .array ∨ value.tag = some .map then value.value.children.indices else []

/-- The values a value addresses in a pool. -/
def childValues (nodes : List OtelLogValueNode) (value : OtelLogValue) : List OtelLogValue :=
  value.kids.filterMap fun j => nodes[j]?.map OtelLogValueNode.value

/-! ### Values of the SDK -/

/-- `opentelemetry::logs::AnyValue`.  A map is a hash map; its entries stand in the order in which
they were inserted, and nothing reads that order. -/
inductive AnyValue where
  | int (n : Int64)
  | double (x : F64Bits)
  | string (s : Str)
  | boolean (b : Bool)
  | bytes (bytes : List UInt8)
  | listAny (values : List AnyValue)
  | map (entries : List (Str × AnyValue))

/-! ### What a pool means -/

/-- One child of a container. -/
def readChild {α : Type} (nodes : List OtelLogValueNode) (read : OtelLogValueNode → Option α)
    (j : Nat) : Option α :=
  nodes[j]?.bind read

/-- The tree a reader of the pool finds who goes down at most this many levels. -/
def readValue (nodes : List OtelLogValueNode) : Nat → OtelLogValue → Option AnyValue
  | 0, _ => none
  | levels + 1, value =>
    match value.tag with
    | some .string => (asStr value.value.stringValue).toOption.map .string
    | some .bool => some (.boolean (value.value.boolValue ≠ 0))
    | some .int64 => some (.int value.value.int64Value)
    | some .double => some (.double value.value.doubleValue)
    | some .bytes => (asSlice value.value.bytesValue).toOption.map .bytes
    | some .array =>
      (value.value.children.indices.mapM <| readChild nodes fun node =>
        readValue nodes levels node.value).map .listAny
    | some .map =>
      (value.value.children.indices.mapM <| readChild nodes fun node => do
        let key ← (asStr node.key).toOption
        let child ← readValue nodes levels node.value
        some (key, child)).map .map
    | some .empty => none
    | none => none

end OtelC.Logs
