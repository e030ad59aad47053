import OtelC.Lib.Ledger
import OtelC.Lib.Run
import OtelC.Sdk.Attributes

/-!
# Handles of the trace API

Provider, tracer and span handles, and the global slot, stand for contexts that belong to an
implementation behind a vtable.  A call may ask the implementation for another context, which may
fail, and hands every context back through the vtable it came from.  The calls that the
implementation receives are logged as they are made.
-/

namespace OtelC.Trace.Handles

open OtelC.Sdk (OtelKeyValue)

/-! ### Implementations -/

/-- `OtelImplVtable`, whose header the API reads. -/
structure Vtable where
  address : Nat
  abiVersion : Nat
  structSize : Nat
  deriving DecidableEq

/-- `OTEL_TRACE_IMPL_ABI_VERSION`. -/
def otelTraceImplAbiVersion : Nat := 1

/-- `trace_vtable_compatible`, on a 64-bit target like the three that follow. -/
def Vtable.compatible (vtable : Vtable) : Bool :=
  vtable.abiVersion = otelTraceImplAbiVersion && vtable.structSize ≥ 128

/-- `trace_vtable_supports_span_context`. -/
def Vtable.hasSpanContext (vtable : Vtable) : Bool :=
  vtable.abiVersion = otelTraceImplAbiVersion && vtable.structSize ≥ 144

/-- `trace_vtable_supports_span_start_ex`. -/
def Vtable.hasSpanStartEx (vtable : Vtable) : Bool :=
  vtable.abiVersion = otelTraceImplAbiVersion && vtable.structSize ≥ 152

/-- `trace_vtable_supports_context`. -/
def Vtable.hasContext (vtable : Vtable) : Bool :=
  vtable.abiVersion = otelTraceImplAbiVersion && vtable.structSize ≥ 160

inductive Kind where
  | provider
  | tracer
  | span
  deriving DecidableEq

/-- A context that an implementation handed out.  It is used and freed through its own vtable, and
freed by the function for its kind. -/
structure Ref where
  vtable : Vtable
  kind : Kind
  ctx : Nat
  deriving DecidableEq

/-- Who owns a context: the global slot, a handle, or the call that runs, for a provider it retained
and for what it was given. -/
inductive Holder where
  | slot
  | handle (h : Nat)
  | retained
  | returned
  deriving DecidableEq

/-- What an implementation gets to see of its contexts. -/
inductive ImplCall where
  | entry (event : Ledger.Event Ref Holder)
  | spanEnd (span : Ref)
  deriving DecidableEq

/-- Ending a span uses its context. -/
def ImplCall.event : ImplCall → Ledger.Event Ref Holder
  | .entry event => event
  | .spanEnd span => .use span

/-! ### Handles -/

inductive ProviderInner where
  | global
  | backed (vtable : Vtable) (ctx : Nat)

/-- What stands behind a handle.  A tracer without backing has the NULL vtable; a span without
backing is the no-op sentinel and not in this table. -/
inductive Handle where
  | provider (inner : ProviderInner)
  | tracer (backing : Option (Vtable × Nat))
  | span (vtable : Vtable) (ctx : Nat) (ended : Bool)
  | spanContext (isValid : Bool)

/-- The context a handle owns. -/
def Handle.ref : Handle → Option Ref
  | .provider .global => none
  | .provider (.backed vtable ctx) => some ⟨vtable, .provider, ctx⟩
  | .tracer none => none
  | .tracer (some (vtable, ctx)) => some ⟨vtable, .tracer, ctx⟩
  | .span vtable ctx _ => some ⟨vtable, .span, ctx⟩
  | .spanContext _ => none

inductive Ptr where
  | null
  | noopSpan
  | handle (h : Nat)
  deriving DecidableEq

structure State where
  /-- `GLOBAL`; its vtable is NULL while there is none. -/
  slot : Option (Vtable × Nat)
  handles : Nat → Option Handle
  next : Nat
  calls : List ImplCall

def State.initial : State := ⟨none, fun _ => none, 0, []⟩

def State.ledger (s : State) : List (Ledger.Event Ref Holder) := s.calls.map ImplCall.event

def State.life (s : State) : Ref → Ledger.Life Holder := Ledger.lives s.ledger

/-! `checked_ref`, for the handle kinds of this module.  A handle that was destroyed, which callers
must not pass, is found dead. -/

def State.asProvider (s : State) : Ptr → HandleArg ProviderInner
  | .null => .null
  | .noopSpan => .wrongKind
  | .handle h =>
    match s.handles h with
    | some (.provider inner) => .live inner
    | some _ => .wrongKind
    | none => .dead

def State.asTracer (s : State) : Ptr → HandleArg (Option (Vtable × Nat))
  | .null => .null
  | .noopSpan => .wrongKind
  | .handle h =>
    match s.handles h with
    | some (.tracer backing) => .live backing
    | some _ => .wrongKind
    | none => .dead

/-- A span by its table entry, or the sentinel. -/
def State.asSpan (s : State) : Ptr → HandleArg (Option (Nat × Vtable × Nat × Bool))
  | .null => .null
  | .noopSpan => .live none
  | .handle h =>
    match s.handles h with
    | some (.span vtable ctx ended) => .live (some (h, vtable, ctx, ended))
    | some _ => .wrongKind
    | none => .dead

def State.asSpanContext (s : State) : Ptr → HandleArg Bool
  | .null => .null
  | .noopSpan => .wrongKind
  | .handle h =>
    match s.handles h with
    | some (.spanContext isValid) => .live isValid
    | some _ => .wrongKind
    | none => .dead

/-! ### What a call does -/

def State.call (s : State) (c : ImplCall) : State := { s with calls := s.calls ++ [c] }

def State.use (s : State) (ref : Ref) : State := s.call (.entry (.use ref))

def State.free (s : State) (ref : Ref) : State := s.call (.entry (.release ref))

def State.move (s : State) (ref : Ref) (holder : Holder) : State :=
  s.call (.entry (.move ref holder))

def State.setHandle (s : State) (h : Nat) (handle : Option Handle) : State :=
  { s with handles := Function.update s.handles h handle }

/-- The implementation hands out a context; it is a new one. -/
def State.receive (s : State) (ref : Ref) (holder : Holder) : Option State :=
  if s.life ref = .unborn then some (s.call (.entry (.acquire ref holder))) else none

/-- What the implementation returns: NULL, or a new context. -/
def State.returns (s : State) : Option Ref → Option State
  | none => some s
  | some ref => s.receive ref .returned

/-- What a call of the API returns: a pointer, NULL with the last error, NULL with the last error as
the implementation left it, or a status. -/
inductive Result where
  | ptr (p : Ptr)
  | failed (e : Fail)
  | refused
  | status (result : Except Fail Unit)

/-- A new handle in the table. -/
def State.alloc (s : State) (handle : Handle) : State :=
  { s with handles := Function.update s.handles s.next (some handle), next := s.next + 1 }

/-- `into_raw` of a new handle, which takes over what the call was given. -/
def State.intoRaw (s : State) (handle : Handle) : State × Result :=
  match handle.ref with
  | none => (s.alloc handle, .ptr (.handle s.next))
  | some ref => ((s.alloc handle).move ref (.handle s.next), .ptr (.handle s.next))

/-! ### The global slot -/

/-- The checks of `otel_api_register_global_provider` and `otel_api_provider_new`. -/
def checkVtable (nullMessage incompatibleMessage : String) : Option Vtable → Except Fail Vtable
  | none => fail .invalidArgument nullMessage
  | some vtable =>
    if vtable.compatible then .ok vtable else fail .invalidConfig incompatibleMessage

def registerNull : String := "register_global_provider: vtable must not be NULL"

def registerIncompatible : String :=
  "register_global_provider: incompatible trace implementation ABI (expected kind/version 1)"

def newNull : String := "provider_new: vtable must not be NULL"

def newIncompatible : String := "provider_new: incompatible trace implementation ABI"

/-- `otel_api_register_global_provider`; the context is the implementation's until the slot has
it. -/
def State.registerGlobalProvider (s : State) (vtable : Option Vtable) (ctx : Nat) :
    Option (State × Result) :=
  match checkVtable registerNull registerIncompatible vtable with
  | .error e => some (s, .status (.error e))
  | .ok vtable => do
    let s' ← s.receive ⟨vtable, .provider, ctx⟩ .returned
    let swapped := { s' with slot := some (vtable, ctx) }
    match s.slot with
    | none => some (swapped.move ⟨vtable, .provider, ctx⟩ .slot, .status (.ok ()))
    | some (oldVtable, old) =>
      let taken := swapped.move ⟨oldVtable, .provider, old⟩ .retained
      some ((taken.move ⟨vtable, .provider, ctx⟩ .slot).free ⟨oldVtable, .provider, old⟩,
        .status (.ok ()))

/-- `otel_api_provider_new`. -/
def State.providerNew (s : State) (vtable : Option Vtable) (ctx : Nat) : Option (State × Result) :=
  match checkVtable newNull newIncompatible vtable with
  | .error e => some (s, .failed e)
  | .ok vtable => do
    let s ← s.receive ⟨vtable, .provider, ctx⟩ .returned
    some (s.intoRaw (.provider (.backed vtable ctx)))

/-- `GlobalRetain`. -/
inductive GlobalRetain where
  | noProvider
  | retained (vtable : Vtable) (ctx : Nat)
  | retainFailed

/-- `retain_global`, with what `provider_retain` returns. -/
def State.retainGlobal (s : State) (retained : Option Nat) : Option (State × GlobalRetain) :=
  match s.slot with
  | none => some (s, .noProvider)
  | some (vtable, ctx) =>
    let s := s.use ⟨vtable, .provider, ctx⟩
    match retained with
    | none => some (s, .retainFailed)
    | some ctx => do
      let s ← s.receive ⟨vtable, .provider, ctx⟩ .retained
      some (s, .retained vtable ctx)

/-! ### Tracers -/

/-- `provider_get_tracer` of an implementation, after which a retained provider is freed. -/
def State.getTracerFrom (s : State) (vtable : Vtable) (ctx : Nat) (owned : Bool)
    (made : Option Nat) : Option (State × Result) := do
  let s := s.use ⟨vtable, .provider, ctx⟩
  let s ← s.returns (made.map (⟨vtable, .tracer, ·⟩))
  let s := if owned then s.free ⟨vtable, .provider, ctx⟩ else s
  match made with
  | none => some (s, .refused)
  | some tracer => some (s.intoRaw (.tracer (some (vtable, tracer))))

/-- `otel_tracer_provider_get_tracer`, with what `provider_retain` and `provider_get_tracer`
return. -/
def State.getTracer (s : State) (provider : Ptr) (retained made : Option Nat) :
    Option (State × Result) :=
  match checkedRef (s.asProvider provider) with
  | .error e => some (s, .failed e)
  | .ok .global => do
    match ← s.retainGlobal retained with
    | (s, .noProvider) => some (s.intoRaw (.tracer none))
    | (s, .retainFailed) => some (s, .refused)
    | (s, .retained vtable ctx) => s.getTracerFrom vtable ctx true made
  | .ok (.backed vtable ctx) => s.getTracerFrom vtable ctx false made

/-! ### Spans -/

/-- `new_span` of a backed tracer, or NULL, with what the implementation returns.  It uses the tracer
and the parent. -/
def State.startSpanFrom (s : State) (vtable : Vtable) (tracer : Nat) (parent : Option Ref)
    (made : Option Nat) : Option (State × Result) := do
  let s := s.use ⟨vtable, .tracer, tracer⟩
  let s := parent.elim s s.use
  let s ← s.returns (made.map (⟨vtable, .span, ·⟩))
  match made with
  | none => some (s, .refused)
  | some span => some (s.intoRaw (.span vtable span false))

/-- The context of a parent span; one of another implementation is no parent. -/
def State.liveParent (s : State) (vtable : Vtable) (parent : Ptr) : Except Fail (Option Ref) :=
  match checkedRef (s.asSpan parent) with
  | .error e => .error e
  | .ok (some (_, parentVtable, ctx, _)) =>
    if parentVtable.address = vtable.address then .ok (some ⟨parentVtable, .span, ctx⟩) else .ok none
  | .ok none => .ok none

/-- `otel_tracer_start_span`; without options there is no parent. -/
def State.startSpan (s : State) (tracer : Ptr) (options : Option Ptr) (made : Option Nat) :
    Option (State × Result) :=
  match checkedRef (s.asTracer tracer) with
  | .error e => some (s, .failed e)
  | .ok none => some (s, .ptr .noopSpan)
  | .ok (some (vtable, ctx)) =>
    match options.getD .null with
    | .null => s.startSpanFrom vtable ctx none made
    | parent =>
      match s.liveParent vtable parent with
      | .error e => some (s, .failed e)
      | .ok parent => s.startSpanFrom vtable ctx parent made

def parentInvalid : Fail := ⟨.invalidArgument, "parent span context is invalid"⟩

def parentsExclusive : Fail :=
  ⟨.invalidArgument, "parent span handle and parent span context are mutually exclusive"⟩

/-- `otel_tracer_start_span_with_context`. -/
def State.startSpanWithContext (s : State) (tracer : Ptr) (options : Option Ptr)
    (parent : Ptr) (made : Option Nat) : Option (State × Result) :=
  match checkedRef (s.asTracer tracer), checkedRef (s.asSpanContext parent) with
  | .error e, _ => some (s, .failed e)
  | .ok _, .error e => some (s, .failed e)
  | .ok backing, .ok isValid =>
    if !isValid then some (s, .failed parentInvalid)
    else if options.getD .null ≠ .null then some (s, .failed parentsExclusive)
    else
      match backing with
      | none => some (s, .ptr .noopSpan)
      | some (vtable, ctx) =>
        if vtable.hasSpanContext then s.startSpanFrom vtable ctx none made
        else some (s, .failed ⟨.invalidConfig,
          "installed trace implementation does not support context parenting"⟩)

/-- `OtelSpanLink`. -/
structure SpanLink where
  context : Ptr
  attributes : CSlice OtelKeyValue

/-- `OtelSpanStartOptionsEx`, up to what is only passed on. -/
structure SpanStartOptionsEx where
  structSize : Nat
  reserved : UInt32
  parent : Ptr
  parentContext : Ptr
  attributes : CSlice OtelKeyValue
  links : CSlice SpanLink
  parentMode : UInt32
  reserved2 : UInt32

/-- The fields that `struct_size` covers, with what is taken for the others. -/
def SpanStartOptionsEx.covered (options : SpanStartOptionsEx) : SpanStartOptionsEx :=
  { options with
    attributes := if options.structSize ≥ 56 then options.attributes else .null 0
    links := if options.structSize ≥ 72 then options.links else .null 0
    parentMode := if options.structSize ≥ 80 then options.parentMode else 0
    reserved2 := if options.structSize ≥ 80 then options.reserved2 else 0 }

/-- `OTEL_PARENT_AMBIENT`. -/
def otelParentAmbient : UInt32 := 1

/-- `OTEL_PARENT_ROOT`. -/
def otelParentRoot : UInt32 := 2

/-- `OTEL_SPAN_START_MAX_LINKS`. -/
def otelSpanStartMaxLinks : Nat := 1 <<< 16

/-- The checks of `otel_tracer_start_span_ex` before the tracer is looked at. -/
def SpanStartOptionsEx.check (options : SpanStartOptionsEx) : Except Fail SpanStartOptionsEx :=
  if options.structSize < 40 then
    fail .invalidConfig "options struct_size is smaller than the required minimum"
  else if options.reserved ≠ 0 then
    fail .invalidArgument "reserved field in span-start options must be zero"
  else if options.parent ≠ .null ∧ options.parentContext ≠ .null then .error parentsExclusive
  else
    let options := options.covered
    if options.reserved2 ≠ 0 ∨ options.parentMode > otelParentRoot then
      fail .invalidArgument "parent mode or its reserved field is invalid"
    else if options.parentMode ≠ 0 ∧ (options.parent ≠ .null ∨ options.parentContext ≠ .null) then
      fail .invalidArgument "ambient/root parent mode cannot include an explicit parent"
    else if options.attributes.isNull ∧ options.attributes.len ≠ 0 then
      fail .invalidArgument "attribute array is NULL with a non-zero count"
    else if options.links.isNull ∧ options.links.len ≠ 0 then
      fail .invalidArgument "link array is NULL with a non-zero count"
    else if options.links.len > otelSpanStartMaxLinks then
      fail .invalidArgument "link count exceeds the maximum supported value"
    else .ok options

/-- The one parent of `otel_tracer_start_span_ex`: of an explicit span the context is used, and an
explicit span context is only looked at. -/
def State.parentEx (s : State) (vtable : Vtable) (options : SpanStartOptionsEx) :
    Except Fail (Option Ref) :=
  if options.parent ≠ .null then s.liveParent vtable options.parent
  else if options.parentContext ≠ .null then
    match checkedRef (s.asSpanContext options.parentContext) with
    | .error e => .error e
    | .ok isValid => if isValid then .ok none else .error parentInvalid
  else .ok none

/-- One link of `otel_tracer_start_span_ex`. -/
def State.checkLink (s : State) (link : SpanLink) : Except Fail Unit :=
  match s.asSpanContext link.context with
  | .live isValid =>
    if !isValid then fail .invalidArgument "link span context is invalid"
    else if link.attributes.isNull ∧ link.attributes.len ≠ 0 then
      fail .invalidArgument "link attribute array is NULL with a non-zero count"
    else .ok ()
  | _ => fail .invalidArgument "link span context is NULL or not a span-context handle"

/-- `otel_tracer_start_span_ex`. -/
def State.startSpanEx (s : State) (tracer : Ptr) (options : Option SpanStartOptionsEx)
    (made : Option Nat) : Option (State × Result) :=
  match checkedRef (s.asTracer tracer), options with
  | .error e, _ => some (s, .failed e)
  | .ok _, none => some (s, .failed ⟨.invalidArgument, "options must not be NULL"⟩)
  | .ok backing, some options =>
    match options.check, backing with
    | .error e, _ => some (s, .failed e)
    | .ok _, none => some (s, .ptr .noopSpan)
    | .ok options, some (vtable, ctx) =>
      if !vtable.hasSpanStartEx then
        some (s, .failed ⟨.invalidConfig,
          "installed trace implementation does not support extended span start"⟩)
      else
        match s.parentEx vtable options, options.links.read.forM s.checkLink with
        | .error e, _ => some (s, .failed e)
        | .ok _, .error e => some (s, .failed e)
        | .ok parent, .ok () =>
          if options.parentMode = otelParentAmbient ∧ !vtable.hasContext then
            some (s, .failed ⟨.invalidConfig,
              "installed trace implementation does not support ambient context"⟩)
          else s.startSpanFrom vtable ctx parent made

/-- `OtelSpan::end`. -/
def State.endSpan (s : State) (h : Nat) (vtable : Vtable) (ctx : Nat) (ended : Bool) : State :=
  if ended then s
  else (s.setHandle h (some (.span vtable ctx true))).call (.spanEnd ⟨vtable, .span, ctx⟩)

/-- `otel_span_end`. -/
def State.spanEnd (s : State) (span : Ptr) : State × Result :=
  match checkedRef (s.asSpan span) with
  | .error e => (s, .status (.error e))
  | .ok none => (s, .status (.ok ()))
  | .ok (some (h, vtable, ctx, ended)) => (s.endSpan h vtable ctx ended, .status (.ok ()))

/-- `dispatch_span`, for a call that gets as far as the implementation, and its result. -/
def State.dispatchSpan (s : State) (span : Ptr) (result : Except Fail Unit) : State × Result :=
  match checkedRef (s.asSpan span) with
  | .error e => (s, .status (.error e))
  | .ok none => (s, .status (.ok ()))
  | .ok (some (_, vtable, ctx, _)) => (s.use ⟨vtable, .span, ctx⟩, .status result)

/-! ### Destroying handles -/

/-- The live handle of a pointer, when it is of the kind that is destroyed. -/
def State.destroyed (s : State) (isKind : Handle → Bool) : Ptr → Option (Nat × Handle)
  | .handle h => ((s.handles h).filter isKind).map (h, ·)
  | _ => none

def Handle.isProvider : Handle → Bool
  | .provider _ => true
  | _ => false

def Handle.isTracer : Handle → Bool
  | .tracer _ => true
  | _ => false

def Handle.isSpan : Handle → Bool
  | .span _ _ _ => true
  | _ => false

def Handle.isSpanContext : Handle → Bool
  | .spanContext _ => true
  | _ => false

/-- `destroy` of a handle, after its context is freed. -/
def State.destroyHandle (s : State) (h : Nat) (handle : Handle) : State :=
  match handle.ref with
  | none => s.setHandle h none
  | some ref => (s.free ref).setHandle h none

/-- `otel_tracer_provider_destroy`, `otel_tracer_destroy` and `otel_span_context_destroy`. -/
def State.destroy (s : State) (isKind : Handle → Bool) (p : Ptr) : State :=
  match s.destroyed isKind p with
  | none => s
  | some (h, handle) => s.destroyHandle h handle

/-- `otel_span_destroy`, which ends the span first when nobody did. -/
def State.spanDestroy (s : State) (span : Ptr) : State :=
  match s.destroyed Handle.isSpan span with
  | some (h, .span vtable ctx ended) =>
    (s.endSpan h vtable ctx ended).destroyHandle h (.span vtable ctx true)
  | _ => s

/-! ### Sequences of calls -/

inductive Action where
  | registerGlobalProvider (vtable : Option Vtable) (ctx : Nat)
  | providerNew (vtable : Option Vtable) (ctx : Nat)
  | globalTracerProvider
  | spanContextCreate (isValid : Bool)
  | getTracer (provider : Ptr) (retained made : Option Nat)
  | startSpan (tracer : Ptr) (options : Option Ptr) (made : Option Nat)
  | startSpanWithContext (tracer : Ptr) (options : Option Ptr) (parent : Ptr) (made : Option Nat)
  | startSpanEx (tracer : Ptr) (options : Option SpanStartOptionsEx) (made : Option Nat)
  | dispatchSpan (span : Ptr) (result : Except Fail Unit)
  | spanEnd (span : Ptr)
  | spanDestroy (span : Ptr)
  | tracerDestroy (tracer : Ptr)
  | tracerProviderDestroy (provider : Ptr)
  | spanContextDestroy (context : Ptr)

/-- One call; `none` when the implementation would hand out a context twice. -/
def step (s : State) : Action → Option (State × Result)
  | .registerGlobalProvider vtable ctx => s.registerGlobalProvider vtable ctx
  | .providerNew vtable ctx => s.providerNew vtable ctx
  | .globalTracerProvider => some (s.intoRaw (.provider .global))
  | .spanContextCreate isValid => some (s.intoRaw (.spanContext isValid))
  | .getTracer provider retained made => s.getTracer provider retained made
  | .startSpan tracer options made => s.startSpan tracer options made
  | .startSpanWithContext tracer options parent made =>
    s.startSpanWithContext tracer options parent made
  | .startSpanEx tracer options made => s.startSpanEx tracer options made
  | .dispatchSpan span result => some (s.dispatchSpan span result)
  | .spanEnd span => some (s.spanEnd span)
  | .spanDestroy span => some (s.spanDestroy span, .status (.ok ()))
  | .tracerDestroy tracer => some (s.destroy Handle.isTracer tracer, .status (.ok ()))
  | .tracerProviderDestroy provider =>
    some (s.destroy Handle.isProvider provider, .status (.ok ()))
  | .spanContextDestroy context =>
    some (s.destroy Handle.isSpanContext context, .status (.ok ()))

def attempt (s : State) (action : Action) : Option State := (step s action).map Prod.fst

def run : State → List Action → Option State := Run.tryRun attempt

end OtelC.Trace.Handles
