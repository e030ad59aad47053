import OtelC.Context.Stack
import OtelC.Trace.StartSpan

/-!
# Naming the parent of a span

A parent is named by its span context, by the ambient context of the thread, or not at all, and there
are two entries of the API for it with options of their own.  They reach three entries of the SDK.

* `ambient_eq_explicit`: the ambient context names a parent like a span context does.
* `ambient_eq_root`: an ambient context without a span context names none.
* `startSpanWithContext_agrees`: the older entry starts the same spans.
-/

namespace OtelC.Trace

open OtelC.Context (ContextData Built)
open OtelC.Sdk (OtelKeyValue)

/-! ### The entries of the API -/

/-- `otel_tracer_t`, with the NULL vtable or with that of the SDK, which has every extension that the
entries ask for. -/
inductive OtelTracer where
  | noop
  | backed

/-- A live local parent: whether its vtable is that of the tracer, and its span context. -/
structure LocalParent (TraceState : Type) where
  sameVtable : Bool
  context : SdkSpanContext TraceState

structure OtelSpanStartOptions (TraceState : Type) where
  kind : UInt32
  parent : HandleArg (LocalParent TraceState)

structure OtelSpanLink where
  context : HandleArg SpanContextData
  attributes : CSlice OtelKeyValue

structure OtelSpanStartOptionsEx (TraceState : Type) where
  structSize : Nat
  kind : UInt32
  reserved : UInt32
  parent : HandleArg (LocalParent TraceState)
  parentContext : HandleArg SpanContextData
  startTimeUnixNanos : UInt64
  attributes : CSlice OtelKeyValue
  links : CSlice OtelSpanLink
  parentMode : UInt32
  reserved2 : UInt32

/-- `OTEL_SPAN_START_OPTIONS_EX_REQUIRED_SIZE`, on a 64-bit target like the sizes that follow. -/
def startOptionsExRequiredSize : Nat := 40

/-- `offset_of!(OtelSpanStartOptionsEx, links)`. -/
def startOptionsExLinksOffset : Nat := 56

/-- `OTEL_SPAN_START_OPTIONS_EX_V1_SIZE`. -/
def startOptionsExV1Size : Nat := 72

/-- `size_of::<OtelSpanStartOptionsEx>()`. -/
def startOptionsExSize : Nat := 80

/-- `OTEL_PARENT_EXPLICIT`. -/
def parentExplicit : UInt32 := 0

/-- `OTEL_PARENT_AMBIENT`. -/
def parentAmbient : UInt32 := 1

/-- `OTEL_PARENT_ROOT`. -/
def parentRoot : UInt32 := 2

/-- `OTEL_SPAN_START_MAX_LINKS`. -/
def spanStartMaxLinks : Nat := 65536

/-- What a start of a span comes to: the shared no-op span, a span that the SDK builds, or NULL. -/
inductive StartCall (TraceState : Type) where
  | noopSpan
  | started (start : SpanStart TraceState)
  | refused (e : Option Fail)

namespace OtelSpanStartOptionsEx

variable {TraceState : Type} (options : OtelSpanStartOptionsEx TraceState)

/-! The fields at the end are read only when `struct_size` covers them. -/

def readAttributes : CSlice OtelKeyValue :=
  if options.structSize ≥ startOptionsExLinksOffset then options.attributes else .null 0

def readLinks : CSlice OtelSpanLink :=
  if options.structSize ≥ startOptionsExV1Size then options.links else .null 0

def readParentMode : UInt32 :=
  if options.structSize ≥ startOptionsExSize then options.parentMode else parentExplicit

def readReserved2 : UInt32 :=
  if options.structSize ≥ startOptionsExSize then options.reserved2 else 0

end OtelSpanStartOptionsEx

/-- `is_null`. -/
def argIsNull {α : Type} : HandleArg α → Bool
  | .null => true
  | _ => false

/-- The checks of `otel_tracer_start_span_ex` before the tracer's vtable is looked at. -/
def checkStartOptions {TraceState : Type} (options : OtelSpanStartOptionsEx TraceState) :
    Except Fail Unit :=
  if options.structSize < startOptionsExRequiredSize then
    fail .invalidConfig "options struct_size is smaller than the required minimum"
  else if options.reserved ≠ 0 then
    fail .invalidArgument "reserved field in span-start options must be zero"
  else if !argIsNull options.parent && !argIsNull options.parentContext then
    fail .invalidArgument "parent span handle and parent span context are mutually exclusive"
  else if options.readReserved2 ≠ 0 ∨ options.readParentMode > parentRoot then
    fail .invalidArgument "parent mode or its reserved field is invalid"
  else if options.readParentMode ≠ parentExplicit &&
      (!argIsNull options.parent || !argIsNull options.parentContext) then
    fail .invalidArgument "ambient/root parent mode cannot include an explicit parent"
  else if options.readAttributes.isNull && options.readAttributes.len ≠ 0 then
    fail .invalidArgument "attribute array is NULL with a non-zero count"
  else if options.readLinks.isNull && options.readLinks.len ≠ 0 then
    fail .invalidArgument "link array is NULL with a non-zero count"
  else if options.readLinks.len > spanStartMaxLinks then
    fail .invalidArgument "link count exceeds the maximum supported value"
  else .ok ()

/-- The parent that is named by a handle: a live span of the same implementation, or the snapshot of a
span context. -/
def explicitParent {TraceState : Type} (options : OtelSpanStartOptionsEx TraceState) :
    Except Fail (Option (SdkSpanContext TraceState) × Option OtelSpanContextView) :=
  if !argIsNull options.parent then do
    let parent ← checkedRef options.parent
    .ok (if parent.sameVtable then some parent.context else none, none)
  else if !argIsNull options.parentContext then do
    let parent ← checkedRef options.parentContext
    if parent.isValid then .ok (none, some parent.view)
    else fail .invalidArgument "parent span context is invalid"
  else .ok (none, none)

/-- The borrowed view of one link. -/
def linkView (link : OtelSpanLink) : Except Fail OtelSpanLinkView :=
  match checkedRef link.context with
  | .error _ =>
    fail .invalidArgument "link span context is NULL or not a span-context handle"
  | .ok context =>
    if !context.isValid then fail .invalidArgument "link span context is invalid"
    else if link.attributes.isNull && link.attributes.len ≠ 0 then
      fail .invalidArgument "link attribute array is NULL with a non-zero count"
    else .ok ⟨context.view, link.attributes⟩

/-- The views of the links, NULL if there are none. -/
def viewsOf (views : List OtelSpanLinkView) : CSlice OtelSpanLinkView :=
  if views.isEmpty then .null 0 else .elems views

/-- The ambient context as it crosses to the implementation. -/
def ambientView (current : Option ContextData) : OtelContextView where
  structSize := sizeOfContextView
  spanContext := (current.bind ContextData.spanContext).map SpanContextData.view
  flags := (current.map ContextData.flags).getD 0
  reserved := 0

section Entries

variable {TraceState : Type} (fromStr : Str → Option TraceState)

/-- What the SDK was asked for, or refused. -/
def StartCall.ofExcept : Except Fail (SpanStart TraceState) → StartCall TraceState
  | .error e => .refused (some e)
  | .ok start => .started start

/-- The part of `otel_tracer_start_span_ex` for a backed tracer. -/
def startSpanExBacked (name : OtelStringView) (options : OtelSpanStartOptionsEx TraceState)
    (current : Option ContextData) : Except Fail (SpanStart TraceState) := do
  let parent ← explicitParent options
  let views ← options.readLinks.read.mapM linkView
  let config : OtelSpanStartConfig TraceState :=
    { kind := options.kind
      reserved := 0
      parentSpanCtx := parent.1
      parentContext := parent.2
      startTimeUnixNanos := options.startTimeUnixNanos
      attributes := options.readAttributes
      links := viewsOf views }
  if options.readParentMode = parentAmbient then
    vtTracerStartSpanExWithContext fromStr false name (some config) (some (ambientView current))
  else vtTracerStartSpanEx fromStr false name (some config)

/-- `otel_tracer_start_span_ex`, on a thread with this current context. -/
def otelTracerStartSpanEx (tracer : HandleArg OtelTracer) (name : OtelStringView)
    (options : Option (OtelSpanStartOptionsEx TraceState)) (current : Option ContextData) :
    StartCall TraceState :=
  match checkedRef tracer with
  | .error e => .refused (some e)
  | .ok tracer =>
    match options with
    | none => .refused (some ⟨.invalidArgument, "options must not be NULL"⟩)
    | some options =>
      match checkStartOptions options with
      | .error e => .refused (some e)
      | .ok () =>
        match tracer with
        | .noop => .noopSpan
        | .backed => .ofExcept (startSpanExBacked fromStr name options current)

/-- `otel_tracer_start_span_with_context`. -/
def otelTracerStartSpanWithContext (tracer : HandleArg OtelTracer) (name : OtelStringView)
    (options : Option (OtelSpanStartOptions TraceState)) (parent : HandleArg SpanContextData) :
    StartCall TraceState :=
  match checkedRef tracer with
  | .error e => .refused (some e)
  | .ok tracer =>
    match checkedRef parent with
    | .error e => .refused (some e)
    | .ok parent =>
      if !parent.isValid then
        .refused (some ⟨.invalidArgument, "parent span context is invalid"⟩)
      else if options.any fun options => !argIsNull options.parent then
        .refused (some ⟨.invalidArgument,
          "parent span handle and parent span context are mutually exclusive"⟩)
      else
        match tracer with
        | .noop => .noopSpan
        | .backed =>
          match vtTracerStartSpanWithContext fromStr false name
              ((options.map OtelSpanStartOptions.kind).getD 0) (some parent.view) with
          | none => .refused none
          | some start => .ofExcept start

end Entries

/-! ### The ambient context -/

section Ambient

variable {TraceState : Type} {fromStr : Str → Option TraceState}
  {options options' : OtelSpanStartOptionsEx TraceState}

/-- Two options that say the same of everything but the parent. -/
structure SameStart (options options' : OtelSpanStartOptionsEx TraceState) : Prop where
  size : options.structSize < startOptionsExRequiredSize ↔
    options'.structSize < startOptionsExRequiredSize
  kind : options.kind = options'.kind
  reserved : options.reserved = options'.reserved
  startTime : options.startTimeUnixNanos = options'.startTimeUnixNanos
  attributes : options.readAttributes = options'.readAttributes
  links : options.readLinks = options'.readLinks
  reserved2 : options.readReserved2 = options'.readReserved2

/-- Options that name no parent by a handle. -/
structure NoHandles (options : OtelSpanStartOptionsEx TraceState) : Prop where
  parent : options.parent = .null
  parentContext : options.parentContext = .null

/-- Options that name a span context as the parent. -/
structure NamesContext (options : OtelSpanStartOptionsEx TraceState) (p : SpanContextData) : Prop where
  parent : options.parent = .null
  parentContext : options.parentContext = .live p
  mode : options.readParentMode = parentExplicit

theorem checkStartOptions_congr (h : SameStart options options')
    (hmode : options.readParentMode > parentRoot ↔ options'.readParentMode > parentRoot)
    (hboth : (!argIsNull options.parent && !argIsNull options.parentContext) = false)
    (hboth' : (!argIsNull options'.parent && !argIsNull options'.parentContext) = false)
    (hexplicit : (options.readParentMode ≠ parentExplicit &&
      (!argIsNull options.parent || !argIsNull options.parentContext)) = false)
    (hexplicit' : (options'.readParentMode ≠ parentExplicit &&
      (!argIsNull options'.parent || !argIsNull options'.parentContext)) = false) :
    checkStartOptions options = checkStartOptions options' := by
  unfold checkStartOptions
  simp only [h.size, h.reserved, h.reserved2, h.attributes, h.links, hmode, hboth, hboth', hexplicit,
    hexplicit']

theorem explicitParent_noHandles (h : NoHandles options) :
    explicitParent options = .ok (none, none) := by
  rw [explicitParent, h.parent, h.parentContext]
  rfl

theorem explicitParent_namesContext {p : SpanContextData} (h : NamesContext options p)
    (hp : p.isValid = true) : explicitParent options = .ok (none, some p.view) := by
  rw [explicitParent, h.parent, h.parentContext]
  exact if_pos hp

/-- The ambient context of a thread crosses as the parent of the span. -/
theorem vtTracerStartSpanExWithContext_ambient (name : OtelStringView)
    (config : OtelSpanStartConfig TraceState) (hparent : config.parentSpanCtx = none)
    (hcontext : config.parentContext = none) {current : Option ContextData}
    (hflags : ∀ c ∈ current, c.flags = 0) :
    vtTracerStartSpanExWithContext fromStr false name (some config) (some (ambientView current)) =
      vtTracerStartSpanEx fromStr false name (some { config with
        parentContext := (current.bind ContextData.spanContext).map SpanContextData.view }) := by
  have hzero : (ambientView current).flags = 0 := by
    cases current with
    | none => rfl
    | some c => exact hflags c rfl
  have hsize : ¬(ambientView current).structSize < sizeOfContextView := Nat.lt_irrefl _
  unfold vtTracerStartSpanExWithContext
  dsimp only
  rw [if_neg hsize, hzero, if_neg (by simp [ambientView]), if_neg (by simp [hparent, hcontext])]
  rfl

theorem startSpanExBacked_ambient (name : OtelStringView) (h : NoHandles options)
    (hmode : options.readParentMode = parentAmbient) {current : Option ContextData}
    (hflags : ∀ c ∈ current, c.flags = 0) :
    startSpanExBacked fromStr name options current = (do
      let views ← options.readLinks.read.mapM linkView
      vtTracerStartSpanEx fromStr false name (some {
        kind := options.kind
        reserved := 0
        parentSpanCtx := none
        parentContext := (current.bind ContextData.spanContext).map SpanContextData.view
        startTimeUnixNanos := options.startTimeUnixNanos
        attributes := options.readAttributes
        links := viewsOf views })) := by
  rw [startSpanExBacked, explicitParent_noHandles h, Checked.ok_bind]
  refine congrArg (_ >>= ·) (funext fun views => ?_)
  rw [if_pos hmode]
  exact vtTracerStartSpanExWithContext_ambient name _ rfl rfl hflags

theorem startSpanExBacked_explicit (name : OtelStringView) {parent : Option OtelSpanContextView}
    (hparent : explicitParent options = .ok (none, parent))
    (hmode : options.readParentMode ≠ parentAmbient) (current : Option ContextData) :
    startSpanExBacked fromStr name options current = (do
      let views ← options.readLinks.read.mapM linkView
      vtTracerStartSpanEx fromStr false name (some {
        kind := options.kind
        reserved := 0
        parentSpanCtx := none
        parentContext := parent
        startTimeUnixNanos := options.startTimeUnixNanos
        attributes := options.readAttributes
        links := viewsOf views })) := by
  rw [startSpanExBacked, hparent, Checked.ok_bind]
  refine congrArg (_ >>= ·) (funext fun views => ?_)
  rw [if_neg hmode]

/-- Starts that pass the same checks and ask the SDK for the same. -/
theorem otelTracerStartSpanEx_congr (tracer : HandleArg OtelTracer) (name : OtelStringView)
    {current current' : Option ContextData}
    (hchecks : checkStartOptions options = checkStartOptions options')
    (hbacked : startSpanExBacked fromStr name options current =
      startSpanExBacked fromStr name options' current') :
    otelTracerStartSpanEx fromStr tracer name (some options) current =
      otelTracerStartSpanEx fromStr tracer name (some options') current' := by
  unfold otelTracerStartSpanEx
  simp only [hchecks, hbacked]

/-- **The ambient context names a parent like a span context does.** -/
theorem ambient_eq_explicit (tracer : HandleArg OtelTracer) (name : OtelStringView)
    (h : SameStart options options') (hnone : NoHandles options)
    (hambient : options.readParentMode = parentAmbient) {p : SpanContextData}
    (hnames : NamesContext options' p) {context : ContextData} (hbuilt : Built context)
    (hcarries : context.spanContext = some p) (current' : Option ContextData) :
    otelTracerStartSpanEx fromStr tracer name (some options) (some context) =
      otelTracerStartSpanEx fromStr tracer name (some options') current' := by
  obtain ⟨hflags, hvalid⟩ := hbuilt.spec
  apply otelTracerStartSpanEx_congr
  · apply checkStartOptions_congr h
    · rw [hambient, hnames.mode]
      decide
    · rw [hnone.parent]
      rfl
    · rw [hnames.parent]
      rfl
    · rw [hnone.parent, hnone.parentContext]
      simp [argIsNull]
    · rw [hnames.mode]
      rfl
  · rw [startSpanExBacked_ambient name hnone hambient fun c hc => by cases hc; exact hflags,
      startSpanExBacked_explicit name (explicitParent_namesContext hnames (hvalid p hcarries))
        (by rw [hnames.mode]; decide) current',
      h.kind, h.startTime, h.attributes, h.links, Option.bind_some, hcarries]
    rfl

/-- **An ambient context without a span context names no parent.** -/
theorem ambient_eq_root (tracer : HandleArg OtelTracer) (name : OtelStringView)
    (h : SameStart options options') (hnone : NoHandles options) (hnone' : NoHandles options')
    (hambient : options.readParentMode = parentAmbient)
    (hroot : options'.readParentMode = parentRoot) {current : Option ContextData}
    (hbuilt : ∀ c ∈ current, Built c) (hcarries : current.bind ContextData.spanContext = none)
    (current' : Option ContextData) :
    otelTracerStartSpanEx fromStr tracer name (some options) current =
      otelTracerStartSpanEx fromStr tracer name (some options') current' := by
  apply otelTracerStartSpanEx_congr
  · apply checkStartOptions_congr h
    · rw [hambient, hroot]
      decide
    · rw [hnone.parent]
      rfl
    · rw [hnone'.parent]
      rfl
    · rw [hnone.parent, hnone.parentContext]
      simp [argIsNull]
    · rw [hnone'.parent, hnone'.parentContext]
      simp [argIsNull]
  · rw [startSpanExBacked_ambient name hnone hambient fun c hc => (hbuilt c hc).spec.1,
      startSpanExBacked_explicit name (explicitParent_noHandles hnone') (by rw [hroot]; decide)
        current', h.kind, h.startTime, h.attributes, h.links, hcarries]
    rfl

end Ambient

/-! ### The older entry -/

section Older

variable {TraceState : Type} {fromStr : Str → Option TraceState}

/-- The span that a call starts, if it starts one with the SDK. -/
def StartCall.span : StartCall TraceState → Option (SpanStart TraceState)
  | .started start => some start
  | _ => none

/-- A call that returns NULL. -/
def StartCall.IsRefused : StartCall TraceState → Prop
  | .refused _ => True
  | _ => False

/-- Options of the two entries that say the same, besides naming a span context. -/
structure SameOptions (options : Option (OtelSpanStartOptions TraceState))
    (options' : OtelSpanStartOptionsEx TraceState) : Prop where
  size : startOptionsExRequiredSize ≤ options'.structSize
  kind : options'.kind = (options.map OtelSpanStartOptions.kind).getD 0
  parent : options'.parent = (options.map OtelSpanStartOptions.parent).getD .null
  reserved : options'.reserved = 0
  startTime : options'.startTimeUnixNanos = 0
  attributes : options'.readAttributes.len = 0
  links : options'.readLinks.len = 0
  mode : options'.readParentMode = parentExplicit
  reserved2 : options'.readReserved2 = 0

variable {options : Option (OtelSpanStartOptions TraceState)}
  {options' : OtelSpanStartOptionsEx TraceState}

theorem SameOptions.named (h : SameOptions options options') :
    options.any (fun options => !argIsNull options.parent) = !argIsNull options'.parent := by
  rw [h.parent]
  cases options <;> rfl

/-- Only a second parent is refused. -/
theorem SameOptions.check (h : SameOptions options options') :
    checkStartOptions options' =
      if !argIsNull options'.parent && !argIsNull options'.parentContext then
        fail .invalidArgument
          "parent span handle and parent span context are mutually exclusive"
      else .ok () := by
  have hsize : ¬options'.structSize < startOptionsExRequiredSize := Nat.not_lt.mpr h.size
  have hlinks : ¬options'.readLinks.len > spanStartMaxLinks := by
    rw [h.links]
    exact Nat.not_lt_zero _
  have hmode : ¬parentExplicit > parentRoot := by decide
  rw [checkStartOptions, if_neg hsize, if_neg (not_not_intro h.reserved)]
  refine ite_congr rfl (fun _ => rfl) fun _ => ?_
  rw [h.mode, h.reserved2, if_neg (by simp [hmode]), if_neg (by simp), if_neg (by simp [h.attributes]),
    if_neg (by simp [h.links]), if_neg hlinks]

theorem collectKeyValues_of_len_eq_zero {xs : CSlice OtelKeyValue} (h : xs.len = 0) :
    Sdk.collectKeyValues xs = .ok [] := by
  unfold Sdk.collectKeyValues
  rw [if_pos h]

/-- What the SDK is asked for when a span context alone is named. -/
theorem startSpanExBacked_context (name : OtelStringView) (h : SameOptions options options')
    {p : SpanContextData} (hparent : options'.parent = .null)
    (hcontext : options'.parentContext = .live p) (hp : p.isValid = true)
    (current : Option ContextData) :
    startSpanExBacked fromStr name options' current = (do
      let name ← asStr name
      let parent ← validContextFromView fromStr p.view "parent span context is invalid"
      .ok ⟨name, spanKindFromU32 options'.kind, [], [], none, some parent⟩) := by
  have hexplicit := explicitParent_namesContext ⟨hparent, hcontext, h.mode⟩ hp
  rw [startSpanExBacked_explicit name hexplicit (by rw [h.mode]; decide), CSlice.read_eq_nil h.links,
    Checked.mapM_nil, Checked.ok_bind]
  unfold vtTracerStartSpanEx
  dsimp only
  rw [if_neg (not_not_intro rfl), if_neg (by simp), collectKeyValues_of_len_eq_zero h.attributes,
    h.startTime]
  cases asStr name with
  | error e => rfl
  | ok name =>
    simp only [Checked.ok_bind, convertLinks, viewsOf, resolveParent]
    cases validContextFromView fromStr p.view "parent span context is invalid" <;> rfl

/-- The order of two checks does not decide whether both are passed. -/
theorem toOption_swap {α β γ : Type} (a : Except Fail α) (b : Except Fail β) (f : α → β → γ) :
    (do let x ← a; let y ← b; .ok (f x y) : Except Fail γ).toOption =
      (do let y ← b; let x ← a; .ok (f x y) : Except Fail γ).toOption := by
  cases a <;> cases b <;> rfl

theorem span_ofExcept (r : Except Fail (SpanStart TraceState)) :
    (StartCall.ofExcept r).span = r.toOption := by
  cases r <;> rfl

theorem isRefused_ofExcept (r : Except Fail (SpanStart TraceState)) :
    (StartCall.ofExcept r).IsRefused ↔ (StartCall.ofExcept r).span = none := by
  cases r with
  | error e => exact iff_of_true trivial rfl
  | ok start => exact iff_of_false id nofun

theorem startSpanEx_live (t : OtelTracer) (name : OtelStringView) (current : Option ContextData) :
    otelTracerStartSpanEx fromStr (.live t) name (some options') current =
      match checkStartOptions options' with
      | .error e => .refused (some e)
      | .ok () =>
        match t with
        | .noop => .noopSpan
        | .backed => .ofExcept (startSpanExBacked fromStr name options' current) := rfl

theorem startSpanWithContext_live (t : OtelTracer) (name : OtelStringView) (p : SpanContextData) :
    otelTracerStartSpanWithContext fromStr (.live t) name options (.live p) =
      if !p.isValid then .refused (some ⟨.invalidArgument, "parent span context is invalid"⟩)
      else if options.any fun options => !argIsNull options.parent then
        .refused (some ⟨.invalidArgument,
          "parent span handle and parent span context are mutually exclusive"⟩)
      else
        match t with
        | .noop => .noopSpan
        | .backed => .ofExcept (do
          let parent ← validContextFromView fromStr p.view "parent span context is invalid"
          let name ← asStr name
          .ok ⟨name, spanKindFromU32 ((options.map OtelSpanStartOptions.kind).getD 0), [], [], none,
            some parent⟩) := rfl

theorem startSpanWithContext_badParent {parent : HandleArg SpanContextData} {e : Fail}
    (h : checkedRef parent = .error e) (t : OtelTracer) (name : OtelStringView) :
    otelTracerStartSpanWithContext fromStr (.live t) name options parent = .refused (some e) := by
  unfold otelTracerStartSpanWithContext
  rw [h]
  rfl

/-- With the SDK a call is refused or starts a span. -/
theorem isRefused_startSpanEx {tracer : HandleArg OtelTracer} (htracer : tracer ≠ .live .noop)
    (name : OtelStringView) (current : Option ContextData) :
    (otelTracerStartSpanEx fromStr tracer name (some options') current).IsRefused ↔
      (otelTracerStartSpanEx fromStr tracer name (some options') current).span = none := by
  cases tracer with
  | null => exact iff_of_true trivial rfl
  | dead => exact iff_of_true trivial rfl
  | wrongKind => exact iff_of_true trivial rfl
  | live t =>
    rw [startSpanEx_live]
    cases t with
    | noop => exact absurd rfl htracer
    | backed =>
      cases checkStartOptions options' with
      | error e => exact iff_of_true trivial rfl
      | ok _ => exact isRefused_ofExcept _

theorem isRefused_startSpanWithContext {tracer : HandleArg OtelTracer}
    (htracer : tracer ≠ .live .noop) (name : OtelStringView) (parent : HandleArg SpanContextData) :
    (otelTracerStartSpanWithContext fromStr tracer name options parent).IsRefused ↔
      (otelTracerStartSpanWithContext fromStr tracer name options parent).span = none := by
  cases tracer with
  | null => exact iff_of_true trivial rfl
  | dead => exact iff_of_true trivial rfl
  | wrongKind => exact iff_of_true trivial rfl
  | live t =>
    cases hparent : checkedRef parent with
    | error e =>
      rw [startSpanWithContext_badParent hparent]
      exact iff_of_true trivial rfl
    | ok p =>
      rw [live_of_checkedRef hparent, startSpanWithContext_live]
      cases t with
      | noop => exact absurd rfl htracer
      | backed =>
        split
        · exact iff_of_true trivial rfl
        · split
          · exact iff_of_true trivial rfl
          · exact isRefused_ofExcept _

/-- What the older entry asks the SDK for. -/
theorem span_startSpanWithContext (name : OtelStringView) (p : SpanContextData) :
    (otelTracerStartSpanWithContext fromStr (.live .backed) name options (.live p)).span =
      if p.isValid && !options.any (fun options => !argIsNull options.parent) then
        (do
          let parent ← validContextFromView fromStr p.view "parent span context is invalid"
          let name ← asStr name
          .ok ⟨name, spanKindFromU32 ((options.map OtelSpanStartOptions.kind).getD 0), [], [], none,
            some parent⟩ : Except Fail (SpanStart TraceState)).toOption
      else none := by
  rw [startSpanWithContext_live]
  cases p.isValid with
  | false => rfl
  | true =>
    cases options.any (fun options => !argIsNull options.parent) with
    | true => rfl
    | false => exact span_ofExcept _

/-- Without the SDK no span is started. -/
theorem span_startSpanWithContext_noop (name : OtelStringView) (parent : HandleArg SpanContextData) :
    (otelTracerStartSpanWithContext fromStr (.live .noop) name options parent).span = none := by
  cases hparent : checkedRef parent with
  | error e =>
    rw [startSpanWithContext_badParent hparent]
    rfl
  | ok p =>
    rw [live_of_checkedRef hparent, startSpanWithContext_live]
    split
    · rfl
    · split <;> rfl

theorem span_startSpanEx_noop (name : OtelStringView) (current : Option ContextData) :
    (otelTracerStartSpanEx fromStr (.live .noop) name (some options') current).span = none := by
  rw [startSpanEx_live]
  cases checkStartOptions options' <;> rfl

/-- What the newer entry asks the SDK for when a span context is named. -/
theorem span_startSpanEx (name : OtelStringView) (h : SameOptions options options')
    {p : SpanContextData} (hcontext : options'.parentContext = .live p)
    (current : Option ContextData) :
    (otelTracerStartSpanEx fromStr (.live .backed) name (some options') current).span =
      if p.isValid && argIsNull options'.parent then
        (do
          let name ← asStr name
          let parent ← validContextFromView fromStr p.view "parent span context is invalid"
          .ok ⟨name, spanKindFromU32 options'.kind, [], [], none, some parent⟩ :
            Except Fail (SpanStart TraceState)).toOption
      else none := by
  rw [startSpanEx_live, h.check, hcontext]
  cases hnull : argIsNull options'.parent with
  | false =>
    rw [Bool.and_false]
    rfl
  | true =>
    have hparent : options'.parent = .null := by
      cases hp : options'.parent with
      | null => rfl
      | _ => rw [hp] at hnull; cases hnull
    show (StartCall.ofExcept (startSpanExBacked fromStr name options' current)).span = _
    rw [span_ofExcept]
    cases hp : p.isValid with
    | true =>
      rw [startSpanExBacked_context name h hparent hcontext hp current]
      rfl
    | false =>
      have hrefused : explicitParent options' =
          fail .invalidArgument "parent span context is invalid" := by
        have hinvalid : ¬p.isValid = true := by
          rw [hp]
          exact Bool.false_ne_true
        rw [explicitParent, hparent, hcontext]
        exact if_neg hinvalid
      rw [startSpanExBacked, hrefused]
      rfl

/-- A parent that is no span context is refused by both entries. -/
theorem span_of_badParent (name : OtelStringView) (h : SameOptions options options')
    {e : Fail} (hbad : checkedRef options'.parentContext = .error e)
    (hnull : argIsNull options'.parentContext = false) (current : Option ContextData) :
    (otelTracerStartSpanWithContext fromStr (.live .backed) name options
      options'.parentContext).span = none ∧
    (otelTracerStartSpanEx fromStr (.live .backed) name (some options') current).span = none := by
  constructor
  · rw [startSpanWithContext_badParent hbad]
    rfl
  · rw [startSpanEx_live, h.check, hnull]
    cases hparent : argIsNull options'.parent with
    | false => rfl
    | true =>
      have hrefused : explicitParent options' = .error e := by
        rw [explicitParent, hparent, hnull, hbad]
        rfl
      show (StartCall.ofExcept (startSpanExBacked fromStr name options' current)).span = none
      rw [startSpanExBacked, hrefused]
      rfl

/-- **The older entry starts the same spans**, and with the SDK it refuses the same inputs. -/
theorem startSpanWithContext_agrees (tracer : HandleArg OtelTracer) (name : OtelStringView)
    (h : SameOptions options options') (hnull : argIsNull options'.parentContext = false)
    (current : Option ContextData) :
    (otelTracerStartSpanWithContext fromStr tracer name options options'.parentContext).span =
        (otelTracerStartSpanEx fromStr tracer name (some options') current).span ∧
      (tracer ≠ .live .noop →
        ((otelTracerStartSpanWithContext fromStr tracer name options
            options'.parentContext).IsRefused ↔
          (otelTracerStartSpanEx fromStr tracer name (some options') current).IsRefused)) := by
  have hspan : (otelTracerStartSpanWithContext fromStr tracer name options
      options'.parentContext).span =
        (otelTracerStartSpanEx fromStr tracer name (some options') current).span := by
    cases tracer with
    | null => rfl
    | dead => rfl
    | wrongKind => rfl
    | live t =>
      cases t with
      | noop => rw [span_startSpanWithContext_noop, span_startSpanEx_noop]
      | backed =>
        cases hcontext : checkedRef options'.parentContext with
        | error e =>
          obtain ⟨hold, hnew⟩ := span_of_badParent name h hcontext hnull current
          rw [hold, hnew]
        | ok p =>
          have hlive := live_of_checkedRef hcontext
          rw [span_startSpanEx name h hlive current, hlive, span_startSpanWithContext, h.named, h.kind,
            Bool.not_not, toOption_swap]
  refine ⟨hspan, fun htracer => ?_⟩
  rw [isRefused_startSpanEx htracer, isRefused_startSpanWithContext htracer, hspan]

end Older

/-! ### All ways of naming a parent -/

/-- **All ways of naming a parent agree.**  The ambient context names its span context like the options
do, an ambient context without one is a forced root, and the older entry starts the spans that the
newer one starts for the same context without links, attributes and start time, and refuses what that
one refuses. -/
theorem parents_agree {TraceState : Type} (fromStr : Str → Option TraceState)
    (tracer : HandleArg OtelTracer) (name : OtelStringView) :
    (∀ (options options' : OtelSpanStartOptionsEx TraceState) (p : SpanContextData)
        (context : ContextData) (current' : Option ContextData), SameStart options options' →
      NoHandles options → options.readParentMode = parentAmbient → NamesContext options' p →
      Built context → context.spanContext = some p →
      otelTracerStartSpanEx fromStr tracer name (some options) (some context) =
        otelTracerStartSpanEx fromStr tracer name (some options') current') ∧
    (∀ (options options' : OtelSpanStartOptionsEx TraceState) (current current' : Option ContextData),
      SameStart options options' → NoHandles options → NoHandles options' →
      options.readParentMode = parentAmbient → options'.readParentMode = parentRoot →
      (∀ c ∈ current, Built c) → current.bind ContextData.spanContext = none →
      otelTracerStartSpanEx fromStr tracer name (some options) current =
        otelTracerStartSpanEx fromStr tracer name (some options') current') ∧
    (∀ (options : Option (OtelSpanStartOptions TraceState))
        (options' : OtelSpanStartOptionsEx TraceState) (current : Option ContextData),
      SameOptions options options' → argIsNull options'.parentContext = false →
      (otelTracerStartSpanWithContext fromStr tracer name options options'.parentContext).span =
          (otelTracerStartSpanEx fromStr tracer name (some options') current).span ∧
        (tracer ≠ .live .noop →
          ((otelTracerStartSpanWithContext fromStr tracer name options
              options'.parentContext).IsRefused ↔
            (otelTracerStartSpanEx fromStr tracer name (some options') current).IsRefused))) :=
  ⟨fun _ _ _ _ current' h hnone hambient hnames hbuilt hcarries =>
      ambient_eq_explicit tracer name h hnone hambient hnames hbuilt hcarries current',
    fun _ _ _ current' h hnone hnone' hambient hroot hbuilt hcarries =>
      ambient_eq_root tracer name h hnone hnone' hambient hroot hbuilt hcarries current',
    fun _ _ current h hnull => startSpanWithContext_agrees tracer name h hnull current⟩

/-- Options of full size for an internal span. -/
def plainOptions (parentContext : HandleArg SpanContextData) (parentMode : UInt32) :
    OtelSpanStartOptionsEx Str where
  structSize := startOptionsExSize
  kind := 0
  reserved := 0
  parent := .null
  parentContext := parentContext
  startTimeUnixNanos := 0
  attributes := .null 0
  links := .null 0
  parentMode := parentMode
  reserved2 := 0

/-- A remote context with a sampled flag. -/
def plainParent : SpanContextData where
  traceId := ⟨List.replicate 16 0x11, rfl⟩
  spanId := ⟨List.replicate 8 0x22, rfl⟩
  traceFlags := 0x01
  isRemote := true
  traceState := []

theorem built_plainParent : Built ⟨some plainParent, none, 0⟩ :=
  Built.create (show Context.otelContextCreate (.live plainParent) = .ok ⟨some plainParent, none, 0⟩
    by rfl)

theorem parents_agree_plain :
    otelTracerStartSpanEx some (.live .backed) (viewOf (lit "s"))
        (some (plainOptions .null parentAmbient)) (some ⟨some plainParent, none, 0⟩) =
      otelTracerStartSpanEx some (.live .backed) (viewOf (lit "s"))
        (some (plainOptions (.live plainParent) parentExplicit)) none ∧
    (otelTracerStartSpanWithContext some (.live .backed) (viewOf (lit "s")) none
        (.live plainParent)).span =
      (otelTracerStartSpanEx some (.live .backed) (viewOf (lit "s"))
        (some (plainOptions (.live plainParent) parentExplicit)) none).span := by
  obtain ⟨hambient, -, holder⟩ := parents_agree some (.live .backed) (viewOf (lit "s"))
  constructor
  · exact hambient (plainOptions .null parentAmbient) (plainOptions (.live plainParent) parentExplicit)
      plainParent ⟨some plainParent, none, 0⟩ none ⟨Iff.rfl, rfl, rfl, rfl, rfl, rfl, rfl⟩ ⟨rfl, rfl⟩
      rfl ⟨rfl, rfl, rfl⟩ built_plainParent rfl
  · exact (holder none (plainOptions (.live plainParent) parentExplicit) none
      ⟨by decide, rfl, rfl, rfl, rfl, rfl, rfl, rfl, rfl⟩ rfl).1

end OtelC.Trace
