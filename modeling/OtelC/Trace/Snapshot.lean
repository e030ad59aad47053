import OtelC.Trace.Agreement
import OtelC.Trace.Links
import OtelC.Trace.SpanCalls

/-!
# Snapshots of span contexts

An application asks a span for its context, reads it, makes another from what it has read, sends it
to another process, and starts spans below it there.  The implementation of the span shows its
context to a visitor of the API, which makes a copy.

* `context_rebuilt_iff`: a context that was read is made again, unless its trace state is too long.
* `snapshot_names_its_span`: a span and its context name the same parent.
* `remote_child`: what the parent of a span is that is started in another process.
-/

namespace OtelC.Trace

open OtelC.Context OtelC.Sdk

/-! ### The context of a span -/

/-- `receive_span_context`; a NULL view is `none`. -/
def receiveSpanContext : Option OtelSpanContextView → Except Fail SpanContextData
  | none => fail .internalError "span context visitor received a NULL pointer"
  | some view =>
    if view.reserved ≠ Bytes.zero 3 ∨ view.traceId = Bytes.zero 16 ∨ view.spanId = Bytes.zero 8 then
      fail .internalError "SDK returned an invalid span context"
    else do
      let traceState ← asStr view.traceState
      .ok ⟨view.traceId, view.spanId, view.traceFlags, view.isRemote ≠ 0, traceState⟩

/-- What an implementation does with a visitor: it may show it views and look at what it returns,
and in the end it returns a status, with what it says of a failure. -/
inductive Visit where
  | done (status : OtelStatus) (message : Option String)
  | present (view : Option OtelSpanContextView) (next : OtelStatus → Visit)

/-- `SnapshotReceiver`, with the last error. -/
structure SnapshotReceiver where
  context : Option SpanContextData
  lastError : Option String

def Visit.run : Visit → SnapshotReceiver → OtelStatus × SnapshotReceiver
  | .done status message, receiver => (status, ⟨receiver.context, message.or receiver.lastError⟩)
  | .present view next, receiver =>
    match receiveSpanContext view with
    | .error e => (next e.status).run ⟨receiver.context, some e.message⟩
    | .ok context => (next .ok).run ⟨some context, receiver.lastError⟩

/-- A span: the no-op span, or one of an implementation, which may be too old for the entry. -/
inductive SpanBacking where
  | noop
  | backed (hasSpanContext : Bool) (visit : Visit)

/-- `otel_span_get_context`. -/
def otelSpanGetContext (span : HandleArg SpanBacking) (outIsNull : Bool) :
    OutCall SpanContextData :=
  if outIsNull then ⟨.invalidArgument, some "span context output pointer is NULL", none⟩
  else match checkedRef span with
    | .error e => ⟨e.status, some e.message, some none⟩
    | .ok .noop =>
      ⟨.invalidConfig, some "a no-op span has no valid span context", some none⟩
    | .ok (.backed false _) =>
      ⟨.invalidConfig,
        some "installed trace implementation does not support span-context snapshots", some none⟩
    | .ok (.backed true visit) =>
      match visit.run ⟨none, none⟩ with
      | (.ok, ⟨some context, lastError⟩) => ⟨.ok, lastError, some (some context)⟩
      | (.ok, ⟨none, _⟩) =>
        ⟨.internalError, some "trace implementation did not return a span context", some none⟩
      | (status, ⟨_, lastError⟩) => ⟨status, lastError, some none⟩

section Sdk

variable {TraceState : Type} (header : TraceState → Str)

/-- The view of `vt_span_context_visit`. -/
def SdkSpanContext.view (context : SdkSpanContext TraceState) : OtelSpanContextView where
  traceId := context.traceId
  spanId := context.spanId
  traceFlags := context.traceFlags
  reserved := Bytes.zero 3
  isRemote := if context.isRemote then 1 else 0
  traceState := viewOf (header context.traceState)

/-- `vt_span_context_visit`. -/
def vtSpanContextVisit (ctx : Option (SdkSpanContext TraceState)) (visitorIsNull : Bool) : Visit :=
  match ctx with
  | none => .done .invalidArgument (some "span context is NULL")
  | some context =>
    if visitorIsNull then .done .invalidArgument (some "span context visitor is NULL")
    else .present (some (context.view header)) fun status => .done status none

/-- A span of the SDK. -/
def sdkSpan (context : SdkSpanContext TraceState) : SpanBacking :=
  .backed true (vtSpanContextVisit header (some context) false)

end Sdk

/-! ### Reading a context -/

/-- `otel_span_context_clone`. -/
def otelSpanContextClone (context : HandleArg SpanContextData) : Except Fail SpanContextData := do
  let context ← checkedRef context
  .ok ⟨context.traceId, context.spanId, context.traceFlags, context.isRemote, context.traceState⟩

/-- `otel_span_context_is_valid`; a failure reads 0. -/
def otelSpanContextIsValid (context : HandleArg SpanContextData) : Except Fail UInt32 := do
  let context ← checkedRef context
  .ok (if context.isValid then 1 else 0)

/-- `otel_span_context_is_remote`; a failure reads 0. -/
def otelSpanContextIsRemote (context : HandleArg SpanContextData) : Except Fail UInt32 := do
  let context ← checkedRef context
  .ok (if context.isRemote then 1 else 0)

/-- The entries that write a part of a context to a buffer. -/
def readPart {α : Type} (nullMessage : String) (part : SpanContextData → α)
    (context : HandleArg SpanContextData) (outIsNull : Bool) : Except Fail α :=
  if outIsNull then fail .invalidArgument nullMessage
  else do
    let context ← checkedRef context
    .ok (part context)

/-- `otel_span_context_trace_id`. -/
def otelSpanContextTraceId : HandleArg SpanContextData → Bool → Except Fail (Bytes 16) :=
  readPart "trace id output buffer is NULL" SpanContextData.traceId

/-- `otel_span_context_span_id`. -/
def otelSpanContextSpanId : HandleArg SpanContextData → Bool → Except Fail (Bytes 8) :=
  readPart "span id output buffer is NULL" SpanContextData.spanId

/-- `otel_span_context_trace_flags`. -/
def otelSpanContextTraceFlags : HandleArg SpanContextData → Bool → Except Fail UInt8 :=
  readPart "trace flags output pointer is NULL" SpanContextData.traceFlags

/-- `otel_span_context_tracestate`; a failure reads an empty view, like an empty trace state. -/
def otelSpanContextTracestate (context : HandleArg SpanContextData) :
    Except Fail OtelStringView := do
  let context ← checkedRef context
  .ok (if context.traceState.isEmpty then .null 0 else viewOf context.traceState)

/-- A context is read part by part, and made again from its parts. -/
def rebuild (context : HandleArg SpanContextData) : Except Fail SpanContextData := do
  let traceId ← otelSpanContextTraceId context false
  let spanId ← otelSpanContextSpanId context false
  let traceFlags ← otelSpanContextTraceFlags context false
  let isRemote ← otelSpanContextIsRemote context
  let traceState ← otelSpanContextTracestate context
  otelSpanContextCreate (some traceId) (some spanId) traceFlags isRemote traceState

/-! ### What is received -/

theorem receiveSpanContext_ok {view : Option OtelSpanContextView} {context : SpanContextData}
    (h : receiveSpanContext view = .ok context) :
    context.isValid = true ∧ context.traceState.len ≤ isizeMax := by
  cases view with
  | none => cases h
  | some view =>
    obtain ⟨hids, h⟩ := Checked.guard_eq_ok.mp h
    obtain ⟨traceState, hstate, h⟩ := Checked.bind_eq_ok.mp h
    obtain rfl := Except.ok.inj h
    rw [not_or, not_or] at hids
    refine ⟨?_, (asStr_ok_iff.mp hstate).2.2⟩
    simp [SpanContextData.isValid, hids.2.1, hids.2.2]

/-- Whatever an implementation does, the receiver has no context but such that it accepted. -/
theorem Visit.run_invariant {p : SpanContextData → Prop}
    (hp : ∀ view context, receiveSpanContext view = .ok context → p context) (visit : Visit)
    {receiver : SnapshotReceiver} (h : ∀ context, receiver.context = some context → p context) :
    ∀ context, (visit.run receiver).2.context = some context → p context := by
  induction visit generalizing receiver with
  | done status message => exact h
  | present view next ih =>
    rw [Visit.run]
    cases hview : receiveSpanContext view with
    | error e => exact ih e.status h
    | ok context =>
      refine ih .ok fun context' hcontext' => ?_
      obtain rfl := Option.some.inj hcontext'
      exact hp view _ hview

theorem otelSpanGetContext_out {span : HandleArg SpanBacking} {outIsNull : Bool}
    {context : SpanContextData}
    (h : (otelSpanGetContext span outIsNull).out = some (some context)) :
    ∃ visit, span = .live (.backed true visit) ∧
      (visit.run ⟨none, none⟩).2.context = some context := by
  unfold otelSpanGetContext at h
  split at h
  · cases h
  · split at h
    · cases h
    · cases h
    · cases h
    · rename_i visit hspan
      refine ⟨visit, live_of_checkedRef hspan, ?_⟩
      split at h
      · rename_i context' lastError hrun
        obtain rfl := Option.some.inj (Option.some.inj h)
        rw [hrun]
      · cases h
      · cases h

theorem received_ok {span : HandleArg SpanBacking} {outIsNull : Bool} {context : SpanContextData}
    (h : (otelSpanGetContext span outIsNull).out = some (some context)) :
    context.isValid = true ∧ context.traceState.len ≤ isizeMax := by
  obtain ⟨visit, -, hrun⟩ := otelSpanGetContext_out h
  exact visit.run_invariant (fun _ _ => receiveSpanContext_ok) (fun _ h => by cases h) context hrun

/-- A context from any call that gives one. -/
inductive Made : SpanContextData → Prop
  | obtained {context : SpanContextData} (h : Obtained context) : Made context
  | received {span : HandleArg SpanBacking} {outIsNull : Bool} {context : SpanContextData}
      (h : (otelSpanGetContext span outIsNull).out = some (some context)) : Made context
  | cloned {source context : SpanContextData} (hsource : Made source)
      (h : otelSpanContextClone (.live source) = .ok context) : Made context

theorem Made.valid {context : SpanContextData} (h : Made context) :
    context.isValid = true ∧ context.traceState.len ≤ isizeMax := by
  induction h with
  | obtained h => exact ⟨h.isValid, h.traceState_len.trans (by decide)⟩
  | received h => exact received_ok h
  | cloned _ h ih =>
    obtain rfl := Except.ok.inj h
    exact ih

/-! ### Making a context again -/

theorem asStr_tracestate {s : Str} (h : s.len ≤ isizeMax) :
    asStr (if s.isEmpty then .null 0 else viewOf s) = .ok s := by
  split
  · rename_i hempty
    obtain rfl := List.isEmpty_iff.mp hempty
    rfl
  · exact asStr_viewOf h

theorem len_tracestate (s : Str) :
    (if s.isEmpty then .null 0 else viewOf s : OtelStringView).len = s.len := by
  split
  · rename_i hempty
    obtain rfl := List.isEmpty_iff.mp hempty
    rfl
  · rfl

theorem rebuild_eq {context : SpanContextData} (hvalid : context.isValid = true)
    (hlen : context.traceState.len ≤ isizeMax) :
    rebuild (.live context) =
      if context.traceState.len > maxSpanContextTraceState then
        fail .invalidArgument "tracestate exceeds the maximum supported length"
      else .ok context := by
  have hids : ¬(context.traceId = Bytes.zero 16 ∨ context.spanId = Bytes.zero 8) := by
    simpa [SpanContextData.isValid, not_or] using hvalid
  have hremote : decide ((if context.isRemote then 1 else 0 : UInt32) ≠ 0) = context.isRemote := by
    cases context.isRemote with
    | true => rfl
    | false => rfl
  show otelSpanContextCreate (some context.traceId) (some context.spanId) context.traceFlags
    (if context.isRemote then 1 else 0)
    (if context.traceState.isEmpty then .null 0 else viewOf context.traceState) = _
  rw [otelSpanContextCreate, if_neg hids, len_tracestate, asStr_tracestate hlen, hremote]
  rfl

/-- **A context that was read is made again.**  Whichever call it came from, and whatever the
implementation behind that call does, a context is valid, and making it again from what is read of
it gives the same context, just when its trace state is within the bound of raw construction; only
a context that an implementation has given may be beyond it. -/
theorem context_rebuilt_iff (context : SpanContextData) (h : Made context) :
    otelSpanContextIsValid (.live context) = .ok 1 ∧
    (rebuild (.live context) = .ok context ↔ context.traceState.len ≤ maxSpanContextTraceState) ∧
    (∀ e, rebuild (.live context) = .error e →
      e = ⟨.invalidArgument, "tracestate exceeds the maximum supported length"⟩) ∧
    (Obtained context → rebuild (.live context) = .ok context) := by
  obtain ⟨hvalid, hlen⟩ := h.valid
  have hiff : rebuild (.live context) = .ok context ↔
      context.traceState.len ≤ maxSpanContextTraceState := by
    rw [rebuild_eq hvalid hlen, fail, Checked.guard_eq_ok, Nat.not_lt]
    exact and_iff_left rfl
  refine ⟨?_, hiff, fun e herror => ?_, fun hobtained => hiff.mpr hobtained.traceState_len⟩
  · show Except.ok (if context.isValid then 1 else 0 : UInt32) = .ok 1
    rw [if_pos hvalid]
  · rw [rebuild_eq hvalid hlen, fail, Checked.guard_eq_error] at herror
    rcases herror with ⟨-, rfl⟩ | ⟨-, herror⟩
    · rfl
    · cases herror

/-! ### A span and its context -/

/-- What is relied on of the trace states of another package: their header is a string of Rust, and
is read back; and there is an empty one. -/
structure TraceStates (TraceState : Type) where
  fromStr : Str → Option TraceState
  header : TraceState → Str
  empty : TraceState
  fromStr_header : ∀ ts, fromStr (header ts) = some ts
  fromStr_nil : fromStr [] = some empty
  len_header : ∀ ts, (header ts).len ≤ isizeMax

section

variable {TraceState : Type}

/-- The options with a live span as the parent. -/
def OtelSpanStartOptionsEx.childOf (options : OtelSpanStartOptionsEx TraceState)
    (span : SdkSpanContext TraceState) : OtelSpanStartOptionsEx TraceState :=
  { options with parent := .live ⟨true, span⟩, parentContext := .null }

/-- The options with a span context as the parent. -/
def OtelSpanStartOptionsEx.childOfContext (options : OtelSpanStartOptionsEx TraceState)
    (context : SpanContextData) : OtelSpanStartOptionsEx TraceState :=
  { options with parent := .null, parentContext := .live context }

/-- The context that the SDK makes of one of the API. -/
def SpanContextData.sdk (context : SpanContextData) (traceState : TraceState) :
    SdkSpanContext TraceState :=
  ⟨context.traceId, context.spanId, context.traceFlags, context.isRemote, traceState⟩

variable {fromStr : Str → Option TraceState} {context : SpanContextData} {ts : TraceState}

theorem checkStartOptions_childOfContext (options : OtelSpanStartOptionsEx TraceState)
    (context : SpanContextData) (span : SdkSpanContext TraceState) :
    checkStartOptions (options.childOfContext context) =
      checkStartOptions (options.childOf span) := rfl

/-- The SDK makes its own context again from the view of a snapshot. -/
theorem validContextFromView_sdk (hvalid : context.isValid = true)
    (hlen : context.traceState.len ≤ isizeMax) (hts : fromStr context.traceState = some ts)
    (message : String) :
    validContextFromView fromStr context.view message = .ok (context.sdk ts) := by
  rw [validContextFromView_view hvalid hlen message, hts]
  rfl

/-- The SDK resolves both to the same parent. -/
theorem vtTracerStartSpanEx_childOfContext (hvalid : context.isValid = true)
    (hlen : context.traceState.len ≤ isizeMax) (hts : fromStr context.traceState = some ts)
    (name : OtelStringView) (config : OtelSpanStartConfig TraceState) :
    vtTracerStartSpanEx fromStr false name
        (some { config with parentSpanCtx := none, parentContext := some context.view }) =
      vtTracerStartSpanEx fromStr false name
        (some { config with parentSpanCtx := some (context.sdk ts), parentContext := none }) := by
  have hview := validContextFromView_sdk hvalid hlen hts "parent span context is invalid"
  have hresolve : resolveParent fromStr
      { config with parentSpanCtx := none, parentContext := some context.view } =
      resolveParent fromStr
        { config with parentSpanCtx := some (context.sdk ts), parentContext := none } := by
    show (do
      let parent ← validContextFromView fromStr context.view "parent span context is invalid"
      .ok (some parent)) = _
    rw [hview]
    rfl
  rw [vtTracerStartSpanEx, vtTracerStartSpanEx, hresolve]
  rfl

theorem startSpanExBacked_childOfContext (hvalid : context.isValid = true)
    (hlen : context.traceState.len ≤ isizeMax) (hts : fromStr context.traceState = some ts)
    (name : OtelStringView) (options : OtelSpanStartOptionsEx TraceState)
    (current : Option ContextData) :
    startSpanExBacked fromStr name (options.childOfContext context) current =
      startSpanExBacked fromStr name (options.childOf (context.sdk ts)) current := by
  have hparent : explicitParent (options.childOfContext context) = .ok (none, some context.view) :=
    if_pos hvalid
  have hparent' : explicitParent (options.childOf (context.sdk ts)) =
      .ok (some (context.sdk ts), none) := rfl
  rw [startSpanExBacked, startSpanExBacked, hparent, hparent', Checked.ok_bind, Checked.ok_bind]
  refine congrArg _ (funext fun views => ?_)
  by_cases hmode : options.readParentMode = parentAmbient
  · exact (if_pos hmode).trans (if_pos hmode).symm
  · refine (if_neg hmode).trans (Eq.trans ?_ (if_neg hmode).symm)
    exact vtTracerStartSpanEx_childOfContext hvalid hlen hts name ⟨options.kind, 0, none, none,
      options.startTimeUnixNanos, options.readAttributes, viewsOf views⟩

theorem startSpanEx_childOfContext (hvalid : context.isValid = true)
    (hlen : context.traceState.len ≤ isizeMax) (hts : fromStr context.traceState = some ts)
    (tracer : HandleArg OtelTracer) (name : OtelStringView)
    (options : OtelSpanStartOptionsEx TraceState) (current : Option ContextData) :
    otelTracerStartSpanEx fromStr tracer name (some (options.childOfContext context)) current =
      otelTracerStartSpanEx fromStr tracer name (some (options.childOf (context.sdk ts))) current :=
  otelTracerStartSpanEx_congr tracer name (checkStartOptions_childOfContext options context _)
    (startSpanExBacked_childOfContext hvalid hlen hts name options current)

/-- So do the older entries. -/
theorem startSpanWithContext_childOf (hvalid : context.isValid = true)
    (hlen : context.traceState.len ≤ isizeMax) (hts : fromStr context.traceState = some ts)
    (tracer : HandleArg OtelTracer) (name : OtelStringView) (kind : UInt32) :
    otelTracerStartSpanWithContext fromStr tracer name (some ⟨kind, .null⟩) (.live context) =
      Spans.otelTracerStartSpan tracer name (some ⟨kind, .live ⟨true, context.sdk ts⟩⟩) := by
  have hview := validContextFromView_sdk hvalid hlen hts "parent span context is invalid"
  have hstart : vtTracerStartSpanWithContext fromStr false name kind (some context.view) =
      some (Spans.vtTracerStartSpan name kind (some (context.sdk ts))) := by
    rw [vtTracerStartSpanWithContext, hview]
    rfl
  have hnoParent : ((some ⟨kind, .null⟩ : Option (OtelSpanStartOptions TraceState)).any
      fun options => !argIsNull options.parent) = false := rfl
  unfold otelTracerStartSpanWithContext Spans.otelTracerStartSpan
  cases checkedRef tracer with
  | error e => rfl
  | ok tracer =>
    simp only [checkedRef_live, hvalid, hnoParent, Bool.not_true, Bool.false_eq_true, if_false]
    cases tracer with
    | noop => rfl
    | backed =>
      simp only [Option.map_some, Option.getD_some, hstart]
      rfl

/-- A link to a span, which only its attributes can make malformed. -/
def linkTo (span : SdkSpanContext TraceState) (attributes : CSlice OtelKeyValue) :
    Except Fail (SpanLink TraceState) :=
  if attributes.isNull && attributes.len ≠ 0 then
    fail .invalidArgument "link attribute array is NULL with a non-zero count"
  else (collectKeyValues attributes).map fun attributes => ⟨span, attributes⟩

/-- A link to a context is a link to the span. -/
theorem passLink_context (hvalid : context.isValid = true)
    (hlen : context.traceState.len ≤ isizeMax) (hts : fromStr context.traceState = some ts)
    (attributes : CSlice OtelKeyValue) :
    passLink fromStr ⟨.live context, attributes⟩ = linkTo (context.sdk ts) attributes := by
  have hview := validContextFromView_sdk hvalid hlen hts "link span context is invalid"
  have hlink : linkView ⟨.live context, attributes⟩ =
      if attributes.isNull && attributes.len ≠ 0 then
        fail .invalidArgument "link attribute array is NULL with a non-zero count"
      else .ok ⟨context.view, attributes⟩ := by
    show (if !context.isValid then _ else _) = _
    rw [hvalid]
    rfl
  rw [passLink, hlink, linkTo]
  split
  · rfl
  · rw [Checked.ok_bind, convertLink, hview, Checked.ok_bind]
    cases collectKeyValues attributes with
    | error e => rfl
    | ok attributes => rfl

/-- What the visitor is shown, as the API keeps it. -/
def SdkSpanContext.data (header : TraceState → Str) (span : SdkSpanContext TraceState) :
    SpanContextData :=
  ⟨span.traceId, span.spanId, span.traceFlags, span.isRemote, header span.traceState⟩

theorem receiveSpanContext_view {header : TraceState → Str} {span : SdkSpanContext TraceState}
    (hvalid : span.isValid = true) (hlen : (header span.traceState).len ≤ isizeMax) :
    receiveSpanContext (some (span.view header)) = .ok (span.data header) := by
  have hids : ¬(Bytes.zero 3 ≠ Bytes.zero 3 ∨ span.traceId = Bytes.zero 16 ∨
      span.spanId = Bytes.zero 8) := by
    simpa [SdkSpanContext.isValid, not_or] using hvalid
  have hstate : asStr (span.view header).traceState = .ok (header span.traceState) :=
    asStr_viewOf hlen
  have hremote : decide ((span.view header).isRemote ≠ 0) = span.isRemote := by
    rw [SdkSpanContext.view]
    cases span.isRemote with
    | true => rfl
    | false => rfl
  refine (if_neg hids).trans ?_
  rw [hstate, Checked.ok_bind, hremote]
  rfl

/-- An application gets the context of a span that has one. -/
theorem getContext_sdkSpan (states : TraceStates TraceState) (span : SdkSpanContext TraceState) :
    otelSpanGetContext (.live (sdkSpan states.header span)) false =
      if span.isValid then ⟨.ok, none, some (some (span.data states.header))⟩
      else ⟨.internalError, some "SDK returned an invalid span context", some none⟩ := by
  have hrun : (vtSpanContextVisit states.header (some span) false).run ⟨none, none⟩ =
      match receiveSpanContext (some (span.view states.header)) with
      | .error e => (e.status, ⟨none, some e.message⟩)
      | .ok context => (.ok, ⟨some context, none⟩) := by
    rw [vtSpanContextVisit, if_neg Bool.false_ne_true, Visit.run]
    cases receiveSpanContext (some (span.view states.header)) with
    | error e => rfl
    | ok context => rfl
  unfold otelSpanGetContext sdkSpan
  simp only [Bool.false_eq_true, if_false, checkedRef_live, hrun]
  by_cases hvalid : span.isValid = true
  · rw [if_pos hvalid, receiveSpanContext_view hvalid (states.len_header _)]
  · have hids : span.traceId = Bytes.zero 16 ∨ span.spanId = Bytes.zero 8 := by
      simpa [SdkSpanContext.isValid, -not_and, not_and_or] using hvalid
    have hreceive : receiveSpanContext (some (span.view states.header)) =
        fail .internalError "SDK returned an invalid span context" := if_pos (.inr hids)
    rw [if_neg hvalid, hreceive]
    rfl

/-- **A span and its context name the same parent.**  An application gets the context of a span just
when that is valid, and below the context, wherever it is named, the SDK starts the spans that it
starts below the span itself.  Among the links of a start, the context gives a link to the span,
unless its attributes are malformed. -/
theorem snapshot_names_its_span (states : TraceStates TraceState)
    (span : SdkSpanContext TraceState) :
    (∀ context, (otelSpanGetContext (.live (sdkSpan states.header span)) false).out =
        some (some context) ↔ span.isValid = true ∧ context = span.data states.header) ∧
    (span.isValid = true →
      (∀ tracer name (options : OtelSpanStartOptionsEx TraceState) current,
        otelTracerStartSpanEx states.fromStr tracer name
            (some (options.childOfContext (span.data states.header))) current =
          otelTracerStartSpanEx states.fromStr tracer name (some (options.childOf span)) current) ∧
      (∀ tracer name kind,
        otelTracerStartSpanWithContext states.fromStr tracer name (some ⟨kind, .null⟩)
            (.live (span.data states.header)) =
          Spans.otelTracerStartSpan tracer name (some ⟨kind, .live ⟨true, span⟩⟩)) ∧
      (∀ attributes, passLink states.fromStr ⟨.live (span.data states.header), attributes⟩ =
        linkTo span attributes) ∧
      ∀ tracer name (options : OtelSpanStartOptionsEx TraceState) before attributes after current
          start, startOptionsExV1Size ≤ options.structSize →
        before.length + after.length < spanStartMaxLinks →
        (otelTracerStartSpanEx states.fromStr tracer name (some (options.withLinks
            (before ++ ⟨.live (span.data states.header), attributes⟩ :: after))) current =
              .started start ↔
          ∃ plain first link last, otelTracerStartSpanEx states.fromStr tracer name
              (some (options.withLinks [])) current = .started plain ∧
            before.mapM (passLink states.fromStr) = .ok first ∧
            linkTo span attributes = .ok link ∧
            after.mapM (passLink states.fromStr) = .ok last ∧
            start = { plain with links := first ++ link :: last })) := by
  refine ⟨fun context => ?_, fun hvalid => ?_⟩
  · rw [getContext_sdkSpan]
    by_cases hvalid : span.isValid = true
    · rw [if_pos hvalid]
      constructor
      · intro h
        exact ⟨hvalid, (Option.some.inj (Option.some.inj h)).symm⟩
      · rintro ⟨-, rfl⟩
        rfl
    · rw [if_neg hvalid]
      exact iff_of_false (fun h => by cases h) fun h => hvalid h.1
  · have hdata : (span.data states.header).isValid = true := hvalid
    have hlen : (span.data states.header).traceState.len ≤ isizeMax := states.len_header _
    have hts : states.fromStr (span.data states.header).traceState = some span.traceState :=
      states.fromStr_header _
    have hlink (attributes : CSlice OtelKeyValue) :
        passLink states.fromStr ⟨.live (span.data states.header), attributes⟩ =
          linkTo span attributes := passLink_context hdata hlen hts attributes
    refine ⟨startSpanEx_childOfContext hdata hlen hts, startSpanWithContext_childOf hdata hlen hts,
      hlink, ?_⟩
    intro tracer name options before attributes after current start hsize hcount
    rw [startSpanEx_link hsize hcount, hlink]

/-! ### Another process -/

/-- The context that another process extracts. -/
def SdkSpanContext.remote (states : TraceStates TraceState) (span : SdkSpanContext TraceState) :
    SdkSpanContext TraceState :=
  { span with
    isRemote := true
    traceState := if validateTracestate (states.header span.traceState) then span.traceState
      else states.empty }

/-- **What the parent is of a span in another process.**  The two headers of a span that is valid
are written to buffers that are long enough, another process extracts a context from them, and
below that its SDK starts the spans that it would start below the span itself, had that been its
own: with the same ids and flags, marked as remote, and with its trace state if that is in the
grammar of the header, and with none if not. -/
theorem remote_child (states : TraceStates TraceState) (span : SdkSpanContext TraceState)
    (hvalid : span.isValid = true) (capacity : Nat)
    (hcapacity : (states.header span.traceState).len ≤ capacity) :
    ∃ context traceparent remote,
      otelSpanGetContext (.live (sdkSpan states.header span)) false =
        ⟨.ok, none, some (some context)⟩ ∧
      otelTracePropagationInjectTraceparent (.live context) false traceparentLen false =
        ⟨.ok, none, some traceparentLen, some (Utf8.encode traceparent)⟩ ∧
      otelTracePropagationInjectTracestate (.live context) false capacity false =
        ⟨.ok, none, some (states.header span.traceState).len,
          some (Utf8.encode (states.header span.traceState))⟩ ∧
      otelTracePropagationExtract (viewOf traceparent) (viewOf (states.header span.traceState))
        false = ⟨.ok, none, some (some remote)⟩ ∧
      ∀ tracer name (options : OtelSpanStartOptionsEx TraceState) current,
        otelTracerStartSpanEx states.fromStr tracer name
            (some (options.childOfContext remote)) current =
          otelTracerStartSpanEx states.fromStr tracer name
            (some (options.childOf (span.remote states))) current := by
  have hdata : (span.data states.header).isValid = true := hvalid
  have hlen := states.len_header span.traceState
  obtain ⟨text, hrender, htext, -⟩ := renderTraceparent_ok (span.data states.header)
  have hview : asStr (viewOf text) = .ok text := asStr_viewOf (by rw [htext]; decide)
  have hstate : renderTracestate (span.data states.header) = .ok (states.header span.traceState) :=
    asStr_viewOf hlen
  refine ⟨span.data states.header, text, ⟨span.traceId, span.spanId, span.traceFlags, true,
    if validateTracestate (states.header span.traceState) then states.header span.traceState
    else []⟩, ?_, ?_, ?_, ?_, ?_⟩
  · rw [getContext_sdkSpan, if_pos hvalid]
  · rw [otelTracePropagationInjectTraceparent, inject_live hdata hrender htext.le, htext]
  · rw [otelTracePropagationInjectTracestate, inject_live hdata hstate hcapacity]
  · rw [otelTracePropagationExtract, extractBody_eq hview (asStr_viewOf hlen),
      parseTraceparent_render hdata hrender]
    rfl
  · by_cases hgrammar : validateTracestate (states.header span.traceState) = true
    · have hremote : span.remote states = { span with isRemote := true } := by
        rw [SdkSpanContext.remote, if_pos hgrammar]
      rw [if_pos hgrammar, hremote]
      have hvalid' : (SpanContextData.mk span.traceId span.spanId span.traceFlags true
        (states.header span.traceState)).isValid = true := hvalid
      exact startSpanEx_childOfContext hvalid' hlen (states.fromStr_header _)
    · have hremote : span.remote states =
          { span with isRemote := true, traceState := states.empty } := by
        rw [SdkSpanContext.remote, if_neg hgrammar]
      rw [if_neg hgrammar, hremote]
      have hvalid' : (SpanContextData.mk span.traceId span.spanId span.traceFlags true
        []).isValid = true := hvalid
      exact startSpanEx_childOfContext hvalid' (Nat.zero_le _) states.fromStr_nil

end

/-! ### A span with a trace state -/

/-- Trace states that are kept as they are spelled. -/
abbrev ListedState := {s : Str // s.len ≤ isizeMax ∧ (parseListMembers s).isSome = true}

def listedStates : TraceStates ListedState where
  fromStr s :=
    if h : s.len ≤ isizeMax ∧ (parseListMembers s).isSome = true then some ⟨s, h⟩ else none
  header := Subtype.val
  empty := ⟨[], by decide⟩
  fromStr_header ts := dif_pos ts.2
  fromStr_nil := rfl
  len_header ts := ts.2.1

def listedSpan : SdkSpanContext ListedState where
  traceId := Bytes.replicate 16 1
  spanId := Bytes.replicate 8 2
  traceFlags := 1
  isRemote := false
  traceState := ⟨lit "a=1", by decide⟩

theorem context_rebuilt_listed : rebuild (.live (listedSpan.data listedStates.header)) =
    .ok (listedSpan.data listedStates.header) :=
  (context_rebuilt_iff _ (.received (congrArg OutCall.out
    (getContext_sdkSpan listedStates listedSpan)))).2.1.mpr (by decide)

theorem remote_child_listed : ∃ traceparent remote,
    otelTracePropagationExtract (viewOf traceparent) (viewOf (lit "a=1")) false =
      ⟨.ok, none, some (some remote)⟩ ∧
    ∀ tracer name (options : OtelSpanStartOptionsEx ListedState) current,
      otelTracerStartSpanEx listedStates.fromStr tracer name (some (options.childOfContext remote))
          current =
        otelTracerStartSpanEx listedStates.fromStr tracer name
          (some (options.childOf { listedSpan with isRemote := true })) current := by
  obtain ⟨-, traceparent, remote, -, -, -, hextract, hstart⟩ :=
    remote_child listedStates listedSpan (by decide) 3 (by decide)
  have hgrammar : validateTracestate (lit "a=1") = true := by decide
  have hremote : listedSpan.remote listedStates = { listedSpan with isRemote := true } := by
    rw [SdkSpanContext.remote]
    exact congrArg _ (if_pos hgrammar)
  rw [hremote] at hstart
  exact ⟨traceparent, remote, hextract, hstart⟩

end OtelC.Trace
