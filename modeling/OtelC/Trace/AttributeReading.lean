import OtelC.Trace.SpanExport

/-!
# Reading exported attributes

What a callback in C makes of the attributes that it is shown: the tag says which member of the union
holds the value, or of which element type the array is.  Whatever is exported is read back as it was.
-/

namespace OtelC.Trace

open Sdk Logs

/-- The text of a string view. -/
def textOf (view : OtelStringView) : Option Str := Utf8.fromUtf8 view.read

/-- A text that the view has no absence for. -/
def SpellsOptional (view : OtelStringView) (text : Option Str) : Prop :=
  textOf view = some (text.getD [])

/-- A Boolean of the C interface. -/
def boolOf (value : UInt32) : Bool := value ≠ 0

/-- The value behind a tag. -/
def readValue (valueType : UInt32) (value : OtelSpanAttributeValue) : Option Value :=
  match valueType.toNat with
  | 0 => (textOf value.scalar.stringValue).map Value.string
  | 1 => some (.bool (boolOf value.scalar.boolValue))
  | 2 => some (.i64 value.scalar.int64Value)
  | 3 => some (.f64 value.scalar.doubleValue)
  | 4 => (value.array.strings.read.mapM textOf).map fun values => .array (.string values)
  | 5 => some (.array (.bool (value.array.bools.read.map boolOf)))
  | 6 => some (.array (.i64 value.array.ints.read))
  | 7 => some (.array (.f64 value.array.doubles.read))
  | _ => none

def readAttribute (shown : OtelSpanAttribute) : Option KeyValue := do
  let key ← textOf shown.key
  let value ← readValue shown.valueType shown.value
  some ⟨key, value⟩

def readAttributesOf (shown : List OtelSpanAttribute) : Option (List KeyValue) :=
  shown.mapM readAttribute

@[simp] theorem textOf_viewOf (s : Str) : textOf (viewOf s) = some s := Utf8.fromUtf8_encode s

@[simp] theorem textOf_emptyView : textOf emptyView = some [] := rfl

theorem textOf_optionalView (value : Option Str) :
    textOf (optionalView value) = some (value.getD []) := by
  cases value with
  | none => rfl
  | some value => exact textOf_viewOf value

@[simp] theorem boolOf_boolToU32 (b : Bool) : boolOf (boolToU32 b) = b := by
  cases b <;> decide

/-- Reading every element of a list that was written by `f` gives the list. -/
theorem mapM_map_some {α β : Type} {f : α → β} {g : β → Option α} (h : ∀ a, g (f a) = some a)
    (l : List α) : (l.map f).mapM g = some l := by
  induction l with
  | nil => rfl
  | cons a l ih => rw [List.map_cons, List.mapM_cons, h, ih]; rfl

theorem readValue_convert (value : Value) :
    readValue (convertAttributeParts value).1 (convertAttributeParts value).2 = some value := by
  cases value with
  | bool b =>
    show some (Value.bool (boolOf (boolToU32 b))) = _
    rw [boolOf_boolToU32]
  | i64 n => rfl
  | f64 x => rfl
  | string s =>
    show (textOf (viewOf s)).map Value.string = _
    rw [textOf_viewOf]
    rfl
  | array values =>
    cases values with
    | bool values =>
      show some (Value.array (.bool ((values.map boolToU32).map boolOf))) = _
      rw [List.map_map, funext (f := boolOf ∘ boolToU32) boolOf_boolToU32]
      simp
    | i64 values => rfl
    | f64 values => rfl
    | string values =>
      show (((values.map viewOf).mapM textOf).map fun values => Value.array (.string values)) = _
      rw [mapM_map_some textOf_viewOf]
      rfl

/-- **What is exported is read back**, of every type and every element type. -/
theorem readAttributesOf_convert (attributes : List KeyValue) :
    readAttributesOf (convertKeyValues attributes) = some attributes := by
  refine mapM_map_some (fun kv => ?_) attributes
  simp only [readAttribute, textOf_viewOf, readValue_convert]
  rfl

end OtelC.Trace
