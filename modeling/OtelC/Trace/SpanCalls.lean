import OtelC.Lib.Boxes
import OtelC.Lib.Simulation
import OtelC.Trace.Parenting

/-!
# The calls on a span

An application starts spans, sets them up, ends and destroys them through the API.  Behind each span
there is a box of the SDK with a span of opentelemetry-sdk in it, which is known here by what it was
started from, by the context it was given and by what it was told.

The API keeps with each handle whether the span was ended.  It uses the context of a handle without
looking at it: where the box behind it is missing the behaviour is undefined.
-/

namespace OtelC.Trace.Spans

open OtelC.Context (ContextData)
open OtelC.Sdk (F64Bits KeyValue OtelKeyValue Value collectKeyValues)
open Boxes

/-! ### The SDK -/

/-- `opentelemetry::trace::Status`. -/
inductive Status where
  | unset
  | ok
  | error (description : Str)
  deriving DecidableEq

/-- What a span of opentelemetry-sdk is told. -/
inductive SpanOp where
  | setAttribute (kv : KeyValue)
  | addEvent (name : Str) (attributes : List KeyValue)
  | setStatus (status : Status)
  | updateName (name : Str)
  | ended
  deriving DecidableEq

/-- `SdkSpan`. -/
structure SdkSpan (TraceState : Type) where
  start : SpanStart TraceState
  context : SdkSpanContext TraceState
  told : List SpanOp

variable {TraceState : Type}

def SdkSpan.tell (span : SdkSpan TraceState) (op : SpanOp) : SdkSpan TraceState :=
  { span with told := span.told ++ [op] }

/-- `vt_tracer_start_span`. -/
def vtTracerStartSpan (name : OtelStringView) (kind : UInt32)
    (parent : Option (SdkSpanContext TraceState)) : Except Fail (SpanStart TraceState) := do
  let name ← asStr name
  .ok ⟨name, spanKindFromU32 kind, [], [], none, parent⟩

/-- The key of an attribute. -/
def readKey (key : OtelStringView) : Except Fail Str := do
  let key ← asStr key
  if key.isEmpty then fail .invalidArgument "attribute key must not be empty" else .ok key

section Vtable

variable (span : SdkSpan TraceState)

/-- `vt_span_set_string`. -/
def vtSpanSetString (key value : OtelStringView) : Except Fail (SdkSpan TraceState) := do
  let key ← readKey key
  let value ← asStr value
  .ok (span.tell (.setAttribute ⟨key, .string value⟩))

/-- What the entries for the other types of attributes do. -/
def setScalar (key : OtelStringView) (value : Value) : Except Fail (SdkSpan TraceState) := do
  let key ← readKey key
  .ok (span.tell (.setAttribute ⟨key, value⟩))

def vtSpanSetBool (key : OtelStringView) (value : UInt32) : Except Fail (SdkSpan TraceState) :=
  setScalar span key (.bool (value ≠ 0))

def vtSpanSetI64 (key : OtelStringView) (value : Int64) : Except Fail (SdkSpan TraceState) :=
  setScalar span key (.i64 value)

def vtSpanSetF64 (key : OtelStringView) (value : F64Bits) : Except Fail (SdkSpan TraceState) :=
  setScalar span key (.f64 value)

def vtSpanAddEvent (name : OtelStringView) (attributes : CSlice OtelKeyValue) :
    Except Fail (SdkSpan TraceState) := do
  let name ← asStr name
  let attributes ← collectKeyValues attributes
  .ok (span.tell (.addEvent name attributes))

/-- `vt_span_set_status`; only an error has a description. -/
def vtSpanSetStatus (code : UInt32) (description : OtelStringView) :
    Except Fail (SdkSpan TraceState) :=
  match code.toNat with
  | 0 => .ok (span.tell (.setStatus .unset))
  | 1 => .ok (span.tell (.setStatus .ok))
  | 2 => do
    let description ← asStr description
    .ok (span.tell (.setStatus (.error description)))
  | _ => fail .invalidArgument "status code is not a valid OtelSpanStatusCode value"

def vtSpanUpdateName (name : OtelStringView) : Except Fail (SdkSpan TraceState) := do
  let name ← asStr name
  .ok (span.tell (.updateName name))

def vtSpanEnd : SdkSpan TraceState := span.tell .ended

end Vtable

/-! ### Starting a span -/

/-- The parent in the options of `otel_tracer_start_span`; a span of another implementation is
none. -/
def localParent (options : Option (OtelSpanStartOptions TraceState)) :
    Except Fail (Option (SdkSpanContext TraceState)) :=
  match options with
  | none => .ok none
  | some options =>
    if argIsNull options.parent then .ok none
    else do
      let parent ← checkedRef options.parent
      .ok (if parent.sameVtable then some parent.context else none)

/-- `otel_tracer_start_span`. -/
def otelTracerStartSpan (tracer : HandleArg OtelTracer) (name : OtelStringView)
    (options : Option (OtelSpanStartOptions TraceState)) : StartCall TraceState :=
  match checkedRef tracer with
  | .error e => .refused (some e)
  | .ok .noop => .noopSpan
  | .ok .backed =>
    match localParent options with
    | .error e => .refused (some e)
    | .ok parent =>
      .ofExcept (vtTracerStartSpan name ((options.map OtelSpanStartOptions.kind).getD 0) parent)

/-- The entries that start a span, with what they are handed besides a parent. -/
inductive StartEntry (TraceState : Type) where
  | startSpan (kind : Option UInt32)
  | startSpanWithContext (kind : Option UInt32) (parent : HandleArg SpanContextData)
  | startSpanEx (options : Option (OtelSpanStartOptionsEx TraceState))
      (current : Option ContextData)

def StartEntry.run (fromStr : Str → Option TraceState) (tracer : HandleArg OtelTracer)
    (name : OtelStringView) (parent : HandleArg (LocalParent TraceState)) :
    StartEntry TraceState → StartCall TraceState
  | .startSpan kind => otelTracerStartSpan tracer name (kind.map (⟨·, parent⟩))
  | .startSpanWithContext kind context =>
    otelTracerStartSpanWithContext fromStr tracer name (kind.map (⟨·, parent⟩)) context
  | .startSpanEx options current =>
    otelTracerStartSpanEx fromStr tracer name
      (options.map fun options => { options with parent := parent }) current

/-! ### The API -/

/-- A pointer to a span: NULL, a handle of another kind, the no-op span, or one of the SDK. -/
inductive SpanPtr where
  | null
  | otherKind
  | noop
  | handle (h : Nat)
  deriving DecidableEq

/-- The parent in the options of a start.  Neither a span of another implementation nor the no-op
span has the vtable of the SDK. -/
inductive ParentPtr (TraceState : Type) where
  | null
  | otherKind
  | foreign (context : SdkSpanContext TraceState)
  | handle (h : Nat)

def ParentPtr.arg (contexts : Nat → Option (SdkSpanContext TraceState)) :
    ParentPtr TraceState → HandleArg (LocalParent TraceState)
  | .null => .null
  | .otherKind => .wrongKind
  | .foreign context => .live ⟨false, context⟩
  | .handle h =>
    match contexts h with
    | none => .dead
    | some context => .live ⟨true, context⟩

/-- The calls that `dispatch_span` hands on. -/
inductive SpanCall where
  | setStringAttribute (key value : OtelStringView)
  | setBoolAttribute (key : OtelStringView) (value : UInt32)
  | setInt64Attribute (key : OtelStringView) (value : Int64)
  | setDoubleAttribute (key : OtelStringView) (value : F64Bits)
  | setAttribute (kv : OtelKeyValue)
  | addEvent (name : OtelStringView) (attributes : CSlice OtelKeyValue)
  | setStatus (code : UInt32) (description : OtelStringView)
  | updateName (name : OtelStringView)

/-- The closure of `otel_span_set_attribute`. -/
def otelSpanSetAttribute (kv : OtelKeyValue) (span : SdkSpan TraceState) :
    Except Fail (SdkSpan TraceState) :=
  match kv.valueType.toNat with
  | 0 => vtSpanSetString span kv.key kv.value.stringValue
  | 1 => vtSpanSetBool span kv.key kv.value.boolValue
  | 2 => vtSpanSetI64 span kv.key kv.value.int64Value
  | 3 => vtSpanSetF64 span kv.key kv.value.doubleValue
  | _ => fail .invalidArgument "attribute value_type is not a valid OtelAttributeType tag"

/-- The closure of `otel_span_set_status`. -/
def otelSpanSetStatus (code : UInt32) (description : OtelStringView) (span : SdkSpan TraceState) :
    Except Fail (SdkSpan TraceState) :=
  if code.toNat > 2 then
    fail .invalidArgument "status code is not a valid OtelSpanStatusCode value"
  else vtSpanSetStatus span code description

/-- The closures that the entries hand to `dispatch_span`. -/
def SpanCall.dispatch : SpanCall → SdkSpan TraceState → Except Fail (SdkSpan TraceState)
  | .setStringAttribute key value, span => vtSpanSetString span key value
  | .setBoolAttribute key value, span => vtSpanSetBool span key value
  | .setInt64Attribute key value, span => vtSpanSetI64 span key value
  | .setDoubleAttribute key value, span => vtSpanSetF64 span key value
  | .setAttribute kv, span => otelSpanSetAttribute kv span
  | .addEvent name attributes, span => vtSpanAddEvent span name attributes
  | .setStatus code description, span => otelSpanSetStatus code description span
  | .updateName name, span => vtSpanUpdateName span name

/-- What a call answers: a span or NULL, with what the last error says, or a status. -/
inductive Reply where
  | noopSpan
  | span (h : Nat)
  | null (e : Option Fail)
  | status (result : Except Fail Unit)
  | destroyed
  | undefined

/-- The handles, tagged with `ended`, over the boxes of the SDK, and the spans that were dropped. -/
structure State (TraceState : Type) where
  store : Store Bool (SdkSpan TraceState)
  dropped : List (SdkSpan TraceState)

namespace State

def initial : State TraceState := ⟨.empty, []⟩

variable (s : State TraceState)

/-- The contexts of the live spans. -/
def contexts (h : Nat) : Option (SdkSpanContext TraceState) :=
  (s.store.view h).bind fun x => x.2.map SdkSpan.context

/-- A span with its handle, its flag and the context behind it; the no-op span has none. -/
def asSpan : SpanPtr → HandleArg (Option (Nat × Bool × Nat))
  | .null => .null
  | .otherKind => .wrongKind
  | .noop => .live none
  | .handle h =>
    match s.store.handles h with
    | none => .dead
    | some (ended, ctx) => .live (ctx.map fun c => (h, ended, c))

/-- A start of a span, which the SDK gives this context. -/
def start (fromStr : Str → Option TraceState) (tracer : HandleArg OtelTracer)
    (name : OtelStringView) (entry : StartEntry TraceState) (parent : ParentPtr TraceState)
    (context : SdkSpanContext TraceState) : Reply × State TraceState :=
  match entry.run fromStr tracer name (parent.arg s.contexts) with
  | .noopSpan => (.noopSpan, s)
  | .refused e => (.null e, s)
  | .started start =>
    (.span s.store.nextHandle,
      { s with store := s.store.create false (some ⟨start, context, []⟩) })

/-- `dispatch_span`. -/
def dispatchSpan (ptr : SpanPtr)
    (f : SdkSpan TraceState → Except Fail (SdkSpan TraceState)) : Reply × State TraceState :=
  match checkedRef (s.asSpan ptr) with
  | .error e => (.status (.error e), s)
  | .ok none => (.status (.ok ()), s)
  | .ok (some (h, _, c)) =>
    match s.store.boxes c with
    | none => (.undefined, s)
    | some span =>
      match f span with
      | .error e => (.status (.error e), s)
      | .ok span' =>
        (.status (.ok ()), { s with store := s.store.modify h id fun _ => span' })

/-- `otel_span_end`. -/
def endSpan (ptr : SpanPtr) : Reply × State TraceState :=
  match checkedRef (s.asSpan ptr) with
  | .error e => (.status (.error e), s)
  | .ok none => (.status (.ok ()), s)
  | .ok (some (_, true, _)) => (.status (.ok ()), s)
  | .ok (some (h, false, c)) =>
    match s.store.boxes c with
    | none => (.undefined, s)
    | some span =>
      (.status (.ok ()),
        { s with store := s.store.modify h (fun _ => true) fun _ => vtSpanEnd span })

/-- `otel_span_destroy`. -/
def destroy (ptr : SpanPtr) : Reply × State TraceState :=
  match s.asSpan ptr with
  | .live (some (h, ended, c)) =>
    match s.store.boxes c with
    | none => (.undefined, s)
    | some span =>
      let span := if ended then span else vtSpanEnd span
      (.destroyed, ⟨s.store.destroy h, s.dropped ++ [span]⟩)
  | _ => (.destroyed, s)

end State

inductive Call (TraceState : Type) where
  | start (tracer : HandleArg OtelTracer) (name : OtelStringView) (entry : StartEntry TraceState)
      (parent : ParentPtr TraceState) (context : SdkSpanContext TraceState)
  | span (ptr : SpanPtr) (call : SpanCall)
  | endSpan (ptr : SpanPtr)
  | destroy (ptr : SpanPtr)

def State.step (fromStr : Str → Option TraceState) (s : State TraceState) :
    Call TraceState → Reply × State TraceState
  | .start tracer name entry parent context => s.start fromStr tracer name entry parent context
  | .span ptr call => s.dispatchSpan ptr call.dispatch
  | .endSpan ptr => s.endSpan ptr
  | .destroy ptr => s.destroy ptr

end OtelC.Trace.Spans
