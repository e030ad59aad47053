import OtelC.Sdk.Attributes
import OtelC.Trace.SpanContext

/-!
# Starting a span in the SDK

The three vtable entries that take a span context: as the parent of `start_span_with_context`, as
parent or link of `start_span_ex`, and as the ambient context of the variant that wraps it.  All of
them rebuild an SDK span context from the borrowed view, and for that they parse its trace state
again with the SDK's own parser.  That parser, `fromStr`, belongs to another package and is a
parameter here; what an entry hands to the tracer is a `SpanStart`.
-/

namespace OtelC.Trace

open OtelC.Sdk

/-- `opentelemetry::trace::SpanKind`. -/
inductive SpanKind where
  | internal
  | server
  | client
  | producer
  | consumer
  deriving DecidableEq, Repr

/-- `span_kind_from_u32`; an unknown value is an internal span. -/
def spanKindFromU32 (kind : UInt32) : SpanKind :=
  match kind.toNat with
  | 1 => .server
  | 2 => .client
  | 3 => .producer
  | 4 => .consumer
  | _ => .internal

/-- The SDK's span context over its own trace states. -/
structure SdkSpanContext (TraceState : Type) where
  traceId : Bytes 16
  spanId : Bytes 8
  traceFlags : UInt8
  isRemote : Bool
  traceState : TraceState

def SdkSpanContext.isValid {TraceState : Type} (context : SdkSpanContext TraceState) : Bool :=
  context.traceId ≠ Bytes.zero 16 && context.spanId ≠ Bytes.zero 8

structure OtelSpanLinkView where
  context : OtelSpanContextView
  attributes : CSlice OtelKeyValue

/-- `OtelSpanStartConfig`; a live local parent is given by its span context. -/
structure OtelSpanStartConfig (TraceState : Type) where
  kind : UInt32
  reserved : UInt32
  parentSpanCtx : Option (SdkSpanContext TraceState)
  parentContext : Option OtelSpanContextView
  startTimeUnixNanos : UInt64
  attributes : CSlice OtelKeyValue
  links : CSlice OtelSpanLinkView

structure OtelContextView where
  structSize : Nat
  spanContext : Option OtelSpanContextView
  flags : UInt32
  reserved : UInt32

/-- `size_of::<OtelContextView>()` on a 64-bit target. -/
def sizeOfContextView : Nat := 24

structure SpanLink (TraceState : Type) where
  context : SdkSpanContext TraceState
  attributes : List KeyValue

/-- What is handed to `build_with_context`. -/
structure SpanStart (TraceState : Type) where
  name : Str
  kind : SpanKind
  attributes : List KeyValue
  links : List (SpanLink TraceState)
  startTime : Option UInt64
  parent : Option (SdkSpanContext TraceState)

variable {TraceState : Type} (fromStr : Str → Option TraceState)

/-- The refusal of a trace state the SDK's parser rejects. -/
def traceStateInvalid : Fail := ⟨.invalidConfig, "span context trace state is invalid"⟩

/-- `span_context_from_view`. -/
def spanContextFromView (view : OtelSpanContextView) : Except Fail (SdkSpanContext TraceState) :=
  if view.reserved ≠ Bytes.zero 3 then
    fail .invalidArgument "span context reserved bytes must be zero"
  else match (asStr view.traceState).toOption.bind fromStr with
    | some traceState =>
      .ok ⟨view.traceId, view.spanId, view.traceFlags, view.isRemote ≠ 0, traceState⟩
    | none => .error traceStateInvalid

/-- A context from a view that is refused unless its ids are non-zero. -/
def validContextFromView (view : OtelSpanContextView) (message : String) :
    Except Fail (SdkSpanContext TraceState) := do
  let context ← spanContextFromView fromStr view
  if context.isValid then .ok context else fail .invalidArgument message

/-- `vt_tracer_start_span_with_context`; `none` is NULL without a diagnostic. -/
def vtTracerStartSpanWithContext (ctxIsNull : Bool) (name : OtelStringView) (kind : UInt32)
    (parent : Option OtelSpanContextView) : Option (Except Fail (SpanStart TraceState)) :=
  match ctxIsNull, parent with
  | false, some view => some do
    let parent ← validContextFromView fromStr view "parent span context is invalid"
    let name ← asStr name
    .ok ⟨name, spanKindFromU32 kind, [], [], none, some parent⟩
  | _, _ => none

/-- One link of `vt_tracer_start_span_ex`. -/
def convertLink (link : OtelSpanLinkView) : Except Fail (SpanLink TraceState) := do
  let context ← validContextFromView fromStr link.context "link span context is invalid"
  let attributes ← collectKeyValues link.attributes
  .ok ⟨context, attributes⟩

def convertLinks (links : CSlice OtelSpanLinkView) : Except Fail (List (SpanLink TraceState)) :=
  if links.len = 0 then .ok []
  else if links.isNull then fail .invalidArgument "link array is NULL with a non-zero count"
  else links.read.mapM (convertLink fromStr)

/-- The single parenting source of a span. -/
def resolveParent (config : OtelSpanStartConfig TraceState) :
    Except Fail (Option (SdkSpanContext TraceState)) :=
  match config.parentSpanCtx, config.parentContext with
  | some parent, _ => .ok (some parent)
  | none, some view => do
    let parent ← validContextFromView fromStr view "parent span context is invalid"
    .ok (some parent)
  | none, none => .ok none

/-- `vt_tracer_start_span_ex`; a NULL config is `none`. -/
def vtTracerStartSpanEx (ctxIsNull : Bool) (name : OtelStringView)
    (config : Option (OtelSpanStartConfig TraceState)) : Except Fail (SpanStart TraceState) :=
  match ctxIsNull, config with
  | false, some config =>
    if config.reserved ≠ 0 then
      fail .invalidArgument "reserved field in span-start config must be zero"
    else if config.parentSpanCtx.isSome ∧ config.parentContext.isSome then
      fail .invalidArgument "live parent and context parent are mutually exclusive"
    else do
      let name ← asStr name
      let attributes ← collectKeyValues config.attributes
      let links ← convertLinks fromStr config.links
      let startTime := if config.startTimeUnixNanos ≠ 0 then some config.startTimeUnixNanos else none
      let parent ← resolveParent fromStr config
      .ok ⟨name, spanKindFromU32 config.kind, attributes, links, startTime, parent⟩
  | _, _ => fail .invalidArgument "tracer context and config must not be NULL"

/-- `vt_tracer_start_span_ex_with_context`, which supplies the ambient context as the parent. No
context flag is supported yet. -/
def vtTracerStartSpanExWithContext (ctxIsNull : Bool) (name : OtelStringView)
    (config : Option (OtelSpanStartConfig TraceState)) (context : Option OtelContextView) :
    Except Fail (SpanStart TraceState) :=
  match config, context with
  | some config, some context =>
    if context.structSize < sizeOfContextView then
      fail .invalidConfig "context view is incompatible"
    else if context.reserved ≠ 0 ∨ context.flags ≠ 0 then
      fail .invalidConfig "context view is incompatible"
    else if config.parentSpanCtx.isSome ∨ config.parentContext.isSome then
      fail .invalidArgument "general context cannot be combined with an explicit parent"
    else
      vtTracerStartSpanEx fromStr ctxIsNull name
        (some { config with parentContext := context.spanContext })
  | _, _ => fail .invalidArgument "span config or context view is NULL"

end OtelC.Trace
