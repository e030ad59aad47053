import OtelC.Context.Ambient
import OtelC.Logs.Loggers

/-!
# What becomes of a record

To an application there are logger providers and loggers under their handles; a logger knows the
scope that it was asked for, and hands on a record as it is or with the span context it is given.

* `loggers_are_a_table`: no calls on any threads tell the API over the boxes of the SDK from that
  table, and the loggers of the SDK are handed the same records.
* `emitted_as_requested`: what a logger hands over, whatever was called since it was acquired.
* `emitted_within`: a record that is emitted while a context is attached has that context.
-/

namespace OtelC.Logs.Loggers

open OtelC.Context OtelC.Trace
open OtelC.Sdk (InstrumentationScope)
open OtelC.Scopes (Backing ScopeOptions getLoggerWithOptions)
open Simulation Boxes

/-! ### The table -/

/-- What an application has under a handle: a provider, which may be the global one, or a logger,
which is nothing without an SDK. -/
inductive Object where
  | provider (sdk : Option Nat)
  | logger (logger : Option SdkLogger)

def Object.kind : Object → HandleKind
  | .provider _ => .loggerProvider
  | .logger _ => .logger

/-- The box behind an object. -/
def Object.box : Object → Option Box
  | .provider sdk => sdk.map .provider
  | .logger l => l.map .logger

def Object.asProvider : Object → Option (Option Nat)
  | .provider sdk => some sdk
  | .logger _ => none

def Object.asLogger : Object → Option (Option SdkLogger)
  | .provider _ => none
  | .logger l => some l

structure Table where
  objects : Nat → Option Object
  next : Nat
  installed : Option Nat
  process : Process
  emitted : List (SdkLogger × SdkLogRecord)

/-- The record of a view, with a span context if there is one: the context must be valid and have
only flags that a record has. -/
def traced (severityName : Severity → Str) (view : OtelLogRecordView) :
    Option SpanContextData → Except Fail SdkLogRecord
  | none => recordOfView severityName view
  | some context =>
    if ¬context.isValid then fail .invalidArgument "span context is invalid"
    else do
      let record ← recordOfView severityName view
      if context.traceFlags &&& ~~~traceFlagsSupportedMask ≠ 0 then
        fail .invalidConfig
          "log record trace context uses trace flags unknown to this library version"
      else
        .ok { record with
          traceContext := some ⟨context.traceId, context.spanId, some context.traceFlags⟩ }

/-- Without an SDK there is no record. -/
def hand (severityName : Severity → Str) (logger : Option SdkLogger) (view : OtelLogRecordView)
    (context : Option SpanContextData) : Except Fail (Option (SdkLogger × SdkLogRecord)) :=
  match logger with
  | none => .ok none
  | some l => (traced severityName view context).map fun record => some (l, record)

/-- A record that can be read. -/
def readable : Option OtelLogRecordView → Except Fail OtelLogRecordView
  | none => fail .invalidArgument "log record view must not be NULL"
  | some view =>
    if view.structSize.toNat < recordViewSize then
      fail .invalidArgument "log record view struct_size is smaller than the supported prefix"
    else .ok view

/-- The same, with what `otel_logger_emit_with_current_context` says of it. -/
def readableNow : Option OtelLogRecordView → Except Fail OtelLogRecordView
  | none => fail .invalidArgument "log record is NULL"
  | some view =>
    if view.structSize.toNat < recordViewSize then
      fail .invalidConfig "log record struct_size is too small"
    else .ok view

/-- The record has a trace context of its own. -/
def hasOwn (view : OtelLogRecordView) : Prop := view.presentFields &&& fieldTraceContext ≠ 0

instance (view : OtelLogRecordView) : Decidable (hasOwn view) := by
  unfold hasOwn
  infer_instance

/-- The span context that a record without one takes from the current context. -/
def ambient (view : OtelLogRecordView) (current : Option ContextData) : Option SpanContextData :=
  if hasOwn view then none else current.bind ContextData.spanContext

/-- The three ways to emit. -/
inductive Emission where
  | plain
  | given (context : HandleArg SpanContextData)
  | current (context : Option ContextData)

/-- What an emission comes to. -/
def Emission.result (severityName : Severity → Str) (emission : Emission)
    (logger : HandleArg (Option SdkLogger)) (record : Option OtelLogRecordView) :
    Except Fail (Option (SdkLogger × SdkLogRecord)) :=
  match emission with
  | .plain => do
    let logger ← checkedRef logger
    let view ← readable record
    hand severityName logger view none
  | .given context => do
    let context ← checkedRef context
    if ¬context.isValid then fail .invalidArgument "span context is invalid"
    else do
      let view ← readable record
      if hasOwn view then
        fail .invalidArgument "raw trace context and span-context handle are mutually exclusive"
      else do
        let logger ← checkedRef logger
        hand severityName logger view (some context)
  | .current context => do
    let logger ← checkedRef logger
    let view ← readableNow record
    hand severityName logger view (ambient view context)

namespace Table

def initial : Table := ⟨fun _ => none, 0, none, ⟨1, fun _ => .fresh⟩, []⟩

/-- The object under a handle, if it is one that `select` takes. -/
def arg {α : Type} (t : Table) (select : Object → Option α) : Option Nat → HandleArg α :=
  HandleArg.lookup t.objects select

def add (t : Table) (object : Object) : Table :=
  { t with objects := Function.update t.objects t.next (some object), next := t.next + 1 }

/-- The provider behind a handle: its own, or the one that is installed now. -/
def provider (t : Table) (handle : Option Nat) : HandleArg Backing :=
  t.arg (fun object => object.asProvider.map fun sdk => sdk.or t.installed) handle

def logger (t : Table) (handle : Option Nat) : HandleArg (Option SdkLogger) :=
  t.arg Object.asLogger handle

/-- A logger is what the provider was asked for. -/
def getLogger (t : Table) (provider : Option Nat) (options : Option ScopeOptions) : Reply × Table :=
  match getLoggerWithOptions (t.provider provider) options with
  | .error e => (.handle (.error e), t)
  | .ok backing => (.handle (.ok t.next), t.add (.logger (backing.map fun x => ⟨x.1, x.2⟩)))

/-- A refused emission hands over nothing. -/
def emits (t : Table) : Except Fail (Option (SdkLogger × SdkLogRecord)) → Reply × Table
  | .error e => (.status e.status (some e.message), t)
  | .ok out => (.status .ok none, { t with emitted := t.emitted ++ out.toList })

def destroy (t : Table) (kind : HandleKind) : Option Nat → Reply × Table
  | none => (.done, t)
  | some h =>
    if (t.objects h).map Object.kind = some kind then
      (.done, { t with objects := Function.update t.objects h none })
    else (.done, t)

/-- The calls, as an application sees them; a stack of contexts comes into being when a thread first
needs it. -/
def step (e : Elsewhere) (t : Table) : Nat × Call → Reply × Table
  | (_, .globalLoggerProvider) => (.handle (.ok t.next), t.add (.provider none))
  | (_, .loggerProviderNew provider) => (.handle (.ok t.next), t.add (.provider (some provider)))
  | (_, .install provider) => (.done, { t with installed := provider })
  | (_, .getLogger provider options) => t.getLogger provider options
  | (_, .emit logger record) =>
    t.emits (Emission.plain.result e.severityName (t.logger logger) record)
  | (_, .emitWithContext logger record context) =>
    t.emits ((Emission.given context).result e.severityName (t.logger logger) record)
  | (thread, .emitWithCurrentContext logger record) =>
    let (context, process) := currentOn t.process thread
    let process := if asksCurrent (apiLogger (t.logger logger)) record then process else t.process
    { t with process := process }.emits
      ((Emission.current context).result e.severityName (t.logger logger) record)
  | (_, .enabled logger severity) =>
    (otelLoggerEnabled e.eventEnabled (t.logger logger) severity, t)
  | (thread, .attach context scope) =>
    let (reply, process) := attachOn t.process thread context scope
    (.scope reply, { t with process := process })
  | (thread, .detach scope) =>
    let (reply, process) := detachOn t.process thread scope
    (.scope reply, { t with process := process })
  | (thread, .exit) => (.done, { t with process := exitThread t.process thread })
  | (_, .destroy kind handle) => t.destroy kind handle

end Table

/-! ### Emission -/

section Emission

variable {severityName : Severity → Str} {view : OtelLogRecordView} {context : SpanContextData}

/-- A valid context is refused for its flags only. -/
theorem checkTraceContext_of_valid (hvalid : context.isValid = true) (view : OtelLogRecordView) :
    checkTraceContext (correlated view context).traceContext =
      if context.traceFlags &&& ~~~traceFlagsSupportedMask ≠ 0 then
        fail .invalidConfig
          "log record trace context uses trace flags unknown to this library version"
      else .ok ⟨context.traceId, context.spanId, some context.traceFlags⟩ := by
  by_cases hflags : context.traceFlags &&& ~~~traceFlagsSupportedMask = 0
  · rw [if_neg (not_not.mpr hflags)]
    exact (checkTraceContext_correlated hvalid view).mpr ⟨hflags, rfl⟩
  · have hreserved : ¬(correlated view context).traceContext.reserved.1.any (· ≠ 0) = true := by
      show ¬(Bytes.zero 7).1.any (· ≠ 0) = true
      decide
    rw [if_pos hflags, checkTraceContext, if_neg hreserved]
    exact if_pos hflags

/-- **A correlated view becomes the record of the view with the context**, if that has only flags
that a record has. -/
theorem recordOfView_correlated (hvalid : context.isValid = true) (hown : ¬hasOwn view) :
    recordOfView severityName (correlated view context) =
      traced severityName view (some context) := by
  have hraw : view.presentFields &&& fieldTraceContext = 0 := not_not.mp hown
  have hplain : recordTraceContext view = .ok none := if_neg hown
  have hbodyRoots : bodyRoots (correlated view context) = bodyRoots view := rfl
  have hattributes : (correlated view context).attributes = view.attributes := rfl
  have hnodes : (correlated view context).valueNodes = view.valueNodes := rfl
  have hseverity : recordSeverity (correlated view context) = recordSeverity view := rfl
  have htime : (correlated view context).timestampUnixNanos = view.timestampUnixNanos := rfl
  have hobservedTime :
      (correlated view context).observedTimestampUnixNanos = view.observedTimestampUnixNanos := rfl
  have hmask : ∀ {mask : UInt64}, fieldTraceContext &&& mask = 0 →
      (correlated view context).presentFields &&& mask = view.presentFields &&& mask :=
    fun h => or_traceContext_of_disjoint view.presentFields h
  have htimestamp := hmask (show fieldTraceContext &&& fieldTimestamp = 0 by decide)
  have hobserved := hmask (show fieldTraceContext &&& fieldObservedTimestamp = 0 by decide)
  rw [traced, if_neg (not_not.mpr hvalid)]
  unfold recordOfView
  rw [checkRecordHeader_correlated, htimestamp, hobserved, recordTraceContext_correlated hraw,
    hplain, checkTraceContext_of_valid hvalid, hbodyRoots, hattributes, hnodes, hseverity, htime,
    hobservedTime]
  cases checkRecordHeader view with
  | error e => rfl
  | ok _ =>
    simp only [Checked.ok_bind]
    cases view.attributes.read.mapM attributeKey with
    | error e => rfl
    | ok keys =>
      simp only [Checked.ok_bind]
      cases hvalidate : validate view.valueNodes.read
          (bodyRoots view ++ view.attributes.read.map OtelLogValueNode.value) with
      | error e => rfl
      | ok info =>
        have hwf : WellFormed view.valueNodes.read (recordRoots view) :=
          validate_ok_iff.mp ⟨_, hvalidate⟩
        obtain ⟨slots, body, slots', values, slots'', hpool, hbody, hvalues, -, -⟩ :=
          convert_record hwf
        simp only [Checked.ok_bind, hpool, hbody, hvalues]
        cases optionalTime (view.presentFields &&& fieldTimestamp ≠ 0) view.timestampUnixNanos
            "log record timestamp" with
        | error e => rfl
        | ok timestamp =>
          simp only [Checked.ok_bind]
          cases optionalTime (view.presentFields &&& fieldObservedTimestamp ≠ 0)
              view.observedTimestampUnixNanos "log record observed timestamp" with
          | error e => rfl
          | ok observed =>
            simp only [Checked.ok_bind]
            cases recordSeverity view with
            | error e => rfl
            | ok severity =>
              by_cases hflags : context.traceFlags &&& ~~~traceFlagsSupportedMask ≠ 0
              · simp only [Checked.ok_bind, if_pos hflags]
                rfl
              · simp only [Checked.ok_bind, if_neg hflags]
                rfl

/-- The call did what this result says. -/
def Did (logger : HandleArg (Option SdkLogger)) (call : EmitCall) :
    Except Fail (Option (SdkLogger × SdkLogRecord)) → Prop
  | .error e => call = .failed e.status e.message
  | .ok none => call = ⟨.ok, none, none⟩
  | .ok (some (l, record)) => logger = .live (some l) ∧ call = ⟨.ok, none, some record⟩

theorem did_hand (hsize : recordViewSize ≤ view.structSize.toNat) (logger : Option SdkLogger) :
    Did (.live logger) (otelLoggerEmit severityName (apiLogger (.live logger)) (some view))
      (hand severityName logger view none) := by
  cases logger with
  | none =>
    show otelLoggerEmit severityName (.live .noop) (some view) = ⟨.ok, none, none⟩
    simp only [otelLoggerEmit, checkedRef_live, if_neg (Nat.not_lt.mpr hsize)]
  | some l =>
    have hcall : otelLoggerEmit severityName (apiLogger (.live (some l))) (some view) =
        emitRecord severityName view := otelLoggerEmit_eq hsize
    rw [hcall, emitRecord, hand, traced]
    cases recordOfView severityName view with
    | error e => rfl
    | ok record => exact ⟨rfl, rfl⟩

theorem did_hand_correlated (hvalid : context.isValid = true) (hown : ¬hasOwn view)
    (logger : Option SdkLogger) :
    Did (.live logger)
      (otelLoggerEmit severityName (apiLogger (.live logger)) (some (correlated view context)))
      (hand severityName logger view (some context)) := by
  have hhand : hand severityName logger (correlated view context) none =
      hand severityName logger view (some context) := by
    cases logger with
    | none => rfl
    | some l => rw [hand, hand, ← recordOfView_correlated hvalid hown, traced]
  rw [← hhand]
  exact did_hand (by show 160 ≤ (160 : UInt64).toNat; decide) logger

theorem did_plain (logger : HandleArg (Option SdkLogger)) (record : Option OtelLogRecordView) :
    Did logger (otelLoggerEmit severityName (apiLogger logger) record)
      (Emission.plain.result severityName logger record) := by
  cases logger with
  | null | dead | wrongKind => rfl
  | live logger =>
    cases record with
    | none => cases logger <;> rfl
    | some view =>
      by_cases hsize : view.structSize.toNat < recordViewSize
      · have hread : readable (some view) = _ := if_pos hsize
        simp only [Emission.result, checkedRef_live, Checked.ok_bind, hread]
        cases logger <;>
          simp only [apiLogger, otelLoggerEmit, checkedRef_live, if_pos hsize, fail,
            Checked.error_bind, Did]
      · have hread : readable (some view) = .ok view := if_neg hsize
        simp only [Emission.result, checkedRef_live, Checked.ok_bind, hread]
        exact did_hand (Nat.not_lt.mp hsize) logger

theorem did_given (logger : HandleArg (Option SdkLogger)) (record : Option OtelLogRecordView)
    (context : HandleArg SpanContextData) :
    Did logger (otelLoggerEmitWithContext severityName (apiLogger logger) record context)
      ((Emission.given context).result severityName logger record) := by
  cases context with
  | null | dead | wrongKind => rfl
  | live context =>
    simp only [otelLoggerEmitWithContext, Emission.result, checkedRef_live, Checked.ok_bind]
    by_cases hvalid : context.isValid = true
    · rw [if_neg (not_not.mpr hvalid), if_neg (not_not.mpr hvalid)]
      cases record with
      | none => rfl
      | some view =>
        dsimp only
        by_cases hsize : view.structSize.toNat < recordViewSize
        · have hread : readable (some view) = _ := if_pos hsize
          rw [if_pos hsize, hread]
          rfl
        · have hread : readable (some view) = .ok view := if_neg hsize
          rw [if_neg hsize, hread, Checked.ok_bind]
          by_cases hown : hasOwn view
          · rw [if_pos hown]
            exact if_pos hown
          · have hraw : ¬(view.presentFields &&& fieldTraceContext ≠ 0) := hown
            rw [if_neg hown, if_neg hraw]
            cases logger with
            | null | dead | wrongKind => rfl
            | live logger => exact did_hand_correlated hvalid hown logger
    · rw [if_pos hvalid, if_pos hvalid]
      rfl

theorem did_current (logger : HandleArg (Option SdkLogger)) (record : Option OtelLogRecordView)
    (stack : ContextStack) :
    Did logger (otelLoggerEmitWithCurrentContext severityName (apiLogger logger) record stack)
      ((Emission.current (currentData stack)).result severityName logger record) := by
  cases logger with
  | null | dead | wrongKind => rfl
  | live logger =>
    have hlogger : ∃ l, checkedRef (apiLogger (.live logger)) = .ok l ∧
        (l = .noop ↔ logger = none) := by
      cases logger with
      | none => exact ⟨.noop, rfl, iff_of_true rfl rfl⟩
      | some l => exact ⟨.backed, rfl, iff_of_false (by decide) (Option.some_ne_none l)⟩
    obtain ⟨l, hl, hnoop⟩ := hlogger
    simp only [otelLoggerEmitWithCurrentContext, Emission.result, hl, checkedRef_live,
      Checked.ok_bind, hnoop]
    cases record with
    | none => rfl
    | some view =>
      dsimp only
      by_cases hsize : view.structSize.toNat < recordViewSize
      · have hread : readableNow (some view) = _ := if_pos hsize
        rw [if_pos hsize, hread]
        rfl
      · have hread : readableNow (some view) = .ok view := if_neg hsize
        have hplain := @did_hand severityName view (Nat.not_lt.mp hsize) logger
        rw [if_neg hsize, hread, Checked.ok_bind, ambient]
        by_cases hown : hasOwn view
        · rw [if_pos hown, if_pos (.inr hown)]
          exact hplain
        · have hraw : ¬(view.presentFields &&& fieldTraceContext ≠ 0) := hown
          rw [if_neg hown]
          cases logger with
          | none =>
            rw [if_pos (.inl rfl)]
            exact hplain
          | some l =>
            rw [if_neg (not_or.mpr ⟨Option.some_ne_none l, hraw⟩)]
            cases (currentData stack).bind ContextData.spanContext with
            | none => exact hplain
            | some context =>
              have hgiven := @did_given severityName (.live (some l)) (some view) (.live context)
              have hread' : readable (some view) = .ok view := if_neg hsize
              simp only [Emission.result, checkedRef_live, Checked.ok_bind, hread', if_neg hown]
                at hgiven
              by_cases hvalid : context.isValid = true
              · rw [if_neg (not_not.mpr hvalid)] at hgiven
                exact hgiven
              · rw [if_pos hvalid] at hgiven
                have hhand : hand severityName (some l) view (some context) =
                    fail .invalidArgument "span context is invalid" := by
                  rw [hand, traced, if_pos hvalid]
                  rfl
                rw [hhand]
                exact hgiven

end Emission

/-! ### The two machines -/

/-- The handles and the boxes come to the objects of a table, and the rest is the same. -/
structure Represents (s : State) (t : Table) : Prop where
  tabulates : Tabulates Object.kind Object.box s.store t.objects
  next : s.store.nextHandle = t.next
  installed : s.installed = t.installed
  process : s.process = t.process
  emitted : s.emitted = t.emitted

variable {s : State} {t : Table}

theorem represents_initial : Represents .initial .initial :=
  ⟨tabulates_empty, rfl, rfl, rfl, rfl⟩

theorem Represents.add (h : Represents s t) (object : Object) :
    Represents (s.intoRaw object.kind object.box) (t.add object) where
  tabulates := by
    show Tabulates _ _ _ (Function.update t.objects t.next (some object))
    rw [← h.next]
    exact h.tabulates.create object
  next := congrArg (· + 1) h.next
  installed := h.installed
  process := h.process
  emitted := h.emitted

/-- No provider handle leads to another box. -/
theorem Represents.provider (h : Represents s t) (handle : Option Nat) :
    s.provider handle = some (t.provider handle) := by
  cases handle with
  | none => rfl
  | some x =>
    rw [State.provider, Table.provider, State.arg, Table.arg, HandleArg.lookup, HandleArg.lookup]
    cases hx : t.objects x with
    | none =>
      rw [h.tabulates.no_handle hx]
      rfl
    | some object =>
      obtain ⟨ctx, hh, hbacks⟩ := h.tabulates.handle hx
      rw [hh]
      cases object with
      | logger l => rfl
      | provider sdk =>
        cases sdk with
        | none =>
          cases ctx with
          | none => exact congrArg (fun x => some (HandleArg.live x)) h.installed
          | some c =>
            obtain ⟨b, -, hnone⟩ := hbacks
            cases hnone
        | some p =>
          cases ctx with
          | none => cases hbacks
          | some c =>
            obtain ⟨b, hb, hsome⟩ := hbacks
            obtain rfl := Option.some.inj hsome
            simp [resolve, Store.contextOf, Object.kind, Object.asProvider, hb]

/-- Nor does a logger handle. -/
theorem Represents.logger (h : Represents s t) (handle : Option Nat) :
    s.logger handle = some (t.logger handle) := by
  cases handle with
  | none => rfl
  | some x =>
    rw [State.logger, Table.logger, State.arg, Table.arg, HandleArg.lookup, HandleArg.lookup]
    cases hx : t.objects x with
    | none =>
      rw [h.tabulates.no_handle hx]
      rfl
    | some object =>
      obtain ⟨ctx, hh, hbacks⟩ := h.tabulates.handle hx
      rw [hh]
      cases object with
      | provider sdk => rfl
      | logger l =>
        cases l with
        | none =>
          cases ctx with
          | none => rfl
          | some c =>
            obtain ⟨b, -, hnone⟩ := hbacks
            cases hnone
        | some l =>
          cases ctx with
          | none => cases hbacks
          | some c =>
            obtain ⟨b, hb, hsome⟩ := hbacks
            obtain rfl := Option.some.inj hsome
            simp [resolve, Store.contextOf, Object.kind, Object.asLogger, hb]

theorem Represents.setProcess (h : Represents s t) (process : Process) :
    Represents { s with process := process } { t with process := process } :=
  ⟨h.tabulates, h.next, h.installed, rfl, h.emitted⟩

theorem Represents.emits (h : Represents s t) {logger : HandleArg (Option SdkLogger)}
    {call : EmitCall} {result : Except Fail (Option (SdkLogger × SdkLogRecord))}
    (hdid : Did logger call result) : Alike Represents (s.emits logger call) (t.emits result) := by
  cases result with
  | error e =>
    obtain rfl := hdid
    refine ⟨rfl, ?_⟩
    cases logger with
    | null | dead | wrongKind => exact h
    | live l => cases l <;> exact h
  | ok out =>
    cases out with
    | none =>
      obtain rfl := hdid
      have hsame : ({ t with emitted := t.emitted ++ [] } : Table) = t := by rw [List.append_nil]
      refine ⟨rfl, ?_⟩
      show Represents _ { t with emitted := t.emitted ++ [] }
      rw [hsame]
      cases logger with
      | null | dead | wrongKind => exact h
      | live l => cases l <;> exact h
    | some handed =>
      obtain ⟨l, record⟩ := handed
      obtain ⟨rfl, rfl⟩ := hdid
      exact ⟨rfl, h.tabulates, h.next, h.installed, h.process,
        congrArg (· ++ [(l, record)]) h.emitted⟩

theorem Represents.getLogger (h : Represents s t) (provider : Option Nat)
    (options : Option ScopeOptions) :
    Alike Represents (s.getLogger provider options) (t.getLogger provider options) := by
  rw [State.getLogger, h.provider, Table.getLogger]
  dsimp only
  cases getLoggerWithOptions (t.provider provider) options with
  | error e => exact .same h _
  | ok backing =>
    refine ⟨by rw [h.next], ?_⟩
    have hadd := h.add (.logger (backing.map fun x => ⟨x.1, x.2⟩))
    rw [Object.kind, Object.box, Option.map_map] at hadd
    exact hadd

theorem currentData_contextsOf (process : Process) (thread : Nat) :
    currentData (contextsOf process thread) = (currentOn process thread).1 := by
  rw [contextsOf, currentOn]
  cases (process.touch thread).slots thread <;> rfl

theorem Represents.emitWithCurrentContext (h : Represents s t) (severityName : Severity → Str)
    (thread : Nat) (logger : Option Nat) (record : Option OtelLogRecordView) :
    Alike Represents (s.emitWithCurrentContext severityName thread logger record)
      ({ t with process := if asksCurrent (apiLogger (t.logger logger)) record then
          (currentOn t.process thread).2 else t.process }.emits
        ((Emission.current (currentOn t.process thread).1).result severityName (t.logger logger)
          record)) := by
  rw [State.emitWithCurrentContext, h.logger, h.process]
  dsimp only
  have hdid := @did_current severityName (t.logger logger) record (contextsOf t.process thread)
  rw [currentData_contextsOf] at hdid
  exact (h.setProcess _).emits hdid

theorem Represents.destroy (h : Represents s t) (kind : HandleKind) (handle : Option Nat) :
    Alike Represents (s.destroy kind handle) (t.destroy kind handle) := by
  cases handle with
  | none => exact .same h _
  | some x =>
    have htable : t.destroy kind (some x) =
        if (t.objects x).map Object.kind = some kind then
          (.done, { t with objects := Function.update t.objects x none })
        else (.done, t) := rfl
    rw [htable]
    unfold State.destroy
    cases hx : t.objects x with
    | none =>
      have harg : s.arg kind (some x) = .dead := by
        rw [State.arg, HandleArg.lookup, h.tabulates.no_handle hx]
      rw [harg]
      exact .same h _
    | some object =>
      obtain ⟨ctx, hh, hbacks⟩ := h.tabulates.handle hx
      have harg : s.arg kind (some x) = if object.kind = kind then .live ctx else .wrongKind := by
        simp only [State.arg, HandleArg.lookup, hh, Store.contextOf]
        by_cases hkind : object.kind = kind
        · rw [if_pos hkind, if_pos hkind]
        · rw [if_neg hkind, if_neg hkind]
      rw [harg, Option.map_some]
      by_cases hkind : object.kind = kind
      · subst hkind
        have hgone : Represents { s with store := s.store.destroy x }
            { t with objects := Function.update t.objects x none } :=
          ⟨h.tabulates.destroy x, h.next, h.installed, h.process, h.emitted⟩
        rw [if_pos rfl, if_pos rfl]
        cases ctx with
        | none => exact ⟨rfl, hgone⟩
        | some c =>
          obtain ⟨b, hb, hbox⟩ := hbacks
          have hfrees : (s.store.boxes c).any object.kind.frees = true := by
            rw [hb]
            cases object with
            | provider sdk =>
              obtain ⟨p, -, rfl⟩ := Option.map_eq_some_iff.mp hbox
              rfl
            | logger l =>
              obtain ⟨l, -, rfl⟩ := Option.map_eq_some_iff.mp hbox
              rfl
          dsimp only
          rw [if_pos hfrees]
          exact ⟨rfl, hgone⟩
      · rw [if_neg hkind, if_neg fun heq => hkind (Option.some.inj heq)]
        exact .same h _

variable (e : Elsewhere)

/-- One call. -/
theorem Represents.step (h : Represents s t) (call : Nat × Call) :
    Alike Represents (s.step e call) (t.step e call) := by
  obtain ⟨thread, call⟩ := call
  cases call with
  | globalLoggerProvider =>
    exact ⟨congrArg (fun x => Reply.handle (.ok x)) h.next, h.add (.provider none)⟩
  | loggerProviderNew provider =>
    exact ⟨congrArg (fun x => Reply.handle (.ok x)) h.next, h.add (.provider (some provider))⟩
  | install provider => exact ⟨rfl, h.tabulates, h.next, rfl, h.process, h.emitted⟩
  | getLogger provider options => exact h.getLogger provider options
  | emit logger record =>
    rw [State.step, State.emit, h.logger]
    exact h.emits (did_plain _ _)
  | emitWithContext logger record context =>
    rw [State.step, State.emitWithContext, h.logger]
    exact h.emits (did_given _ _ _)
  | emitWithCurrentContext logger record =>
    exact h.emitWithCurrentContext e.severityName thread logger record
  | enabled logger severity =>
    rw [State.step, h.logger]
    exact .same h _
  | attach context scope =>
    rw [State.step, Table.step, h.process]
    exact ⟨rfl, h.setProcess _⟩
  | detach scope =>
    rw [State.step, Table.step, h.process]
    exact ⟨rfl, h.setProcess _⟩
  | exit =>
    rw [State.step, Table.step, h.process]
    exact ⟨rfl, h.setProcess _⟩
  | destroy kind handle => exact h.destroy kind handle

theorem simulates : Simulates (State.step e) (Table.step e) Represents :=
  simulates_of_alike fun _ _ call h => h.step e call

/-- The table has no behaviour that is undefined. -/
theorem Table.step_ne_undefined (t : Table) (call : Nat × Call) :
    (t.step e call).1 ≠ .undefined := by
  have hemits (t : Table) (result : Except Fail (Option (SdkLogger × SdkLogRecord))) :
      (t.emits result).1 ≠ .undefined := by
    cases result <;> exact Reply.noConfusion
  obtain ⟨thread, call⟩ := call
  cases call with
  | getLogger provider options =>
    rw [Table.step, Table.getLogger]
    split <;> exact Reply.noConfusion
  | emit logger record => exact hemits _ _
  | emitWithContext logger record context => exact hemits _ _
  | emitWithCurrentContext logger record => exact hemits _ _
  | enabled logger severity =>
    rw [Table.step, otelLoggerEnabled]
    split
    · exact Reply.noConfusion
    · split
      · exact Reply.noConfusion
      · split <;> exact Reply.noConfusion
  | destroy kind handle =>
    cases handle with
    | none => exact Reply.noConfusion
    | some x =>
      rw [Table.step, Table.destroy]
      split <;> exact Reply.noConfusion
  | globalLoggerProvider | loggerProviderNew | install | attach | detach | exit =>
    exact Reply.noConfusion

/-- **Loggers are a table**: whatever is called on whatever threads, no behaviour is undefined, the
replies are those of the table, and the loggers of the SDK were handed the same records. -/
theorem loggers_are_a_table (calls : List (Nat × Call)) :
    .undefined ∉ replies (State.step e) .initial calls ∧
      replies (State.step e) .initial calls = replies (Table.step e) .initial calls ∧
      (after (State.step e) .initial calls).emitted =
        (after (Table.step e) .initial calls).emitted := by
  have hreplies := (simulates e).replies_eq represents_initial calls
  refine ⟨fun hmem => ?_, hreplies, ((simulates e).related represents_initial calls).emitted⟩
  rw [hreplies] at hmem
  obtain ⟨t, call, hreply⟩ := exists_of_mem_replies hmem
  exact t.step_ne_undefined e call hreply

/-- When every handle is destroyed, the SDK keeps no box. -/
theorem no_box_left (calls : List (Nat × Call))
    (hnone : ∀ x, (after (State.step e) .initial calls).store.handles x = none) (c : Nat) :
    (after (State.step e) .initial calls).store.boxes c = none :=
  ((simulates e).related represents_initial calls).tabulates.owned.boxes_eq_none
    (fun x => view_eq_none.mpr (hnone x)) c

/-! ### What a logger hands over -/

theorem Table.objects_emits (t : Table)
    (result : Except Fail (Option (SdkLogger × SdkLogRecord))) :
    (t.emits result).2.objects = t.objects := by
  cases result <;> rfl

theorem Table.objects_destroy {x : Nat} {object : Object} (hx : t.objects x = some object)
    {kind : HandleKind} {handle : Option Nat} (h : kind = object.kind → handle ≠ some x) :
    (t.destroy kind handle).2.objects x = some object := by
  cases handle with
  | none => exact hx
  | some y =>
    rw [Table.destroy]
    split
    · rename_i hkind
      by_cases hy : x = y
      · subst hy
        rw [hx, Option.map_some, Option.some.injEq] at hkind
        exact absurd rfl (h hkind.symm)
      · exact (Function.update_of_ne hy _ _).trans hx
    · exact hx

/-- An object is there until its own destruction. -/
theorem Table.objects_step {x : Nat} {object : Object} (hx : t.objects x = some object)
    (hlt : x < t.next) {call : Nat × Call} (hcall : call.2 ≠ .destroy object.kind (some x)) :
    (t.step e call).2.objects x = some object := by
  obtain ⟨thread, call⟩ := call
  cases call with
  | globalLoggerProvider => exact (added_of_lt hlt _).trans hx
  | loggerProviderNew provider => exact (added_of_lt hlt _).trans hx
  | install provider => exact hx
  | getLogger provider options =>
    rw [Table.step, Table.getLogger]
    split
    · exact hx
    · exact (added_of_lt hlt _).trans hx
  | emit logger record =>
    rw [Table.step, Table.objects_emits]
    exact hx
  | emitWithContext logger record context =>
    rw [Table.step, Table.objects_emits]
    exact hx
  | emitWithCurrentContext logger record =>
    rw [Table.step, Table.objects_emits]
    exact hx
  | enabled logger severity => exact hx
  | attach context scope => exact hx
  | detach scope => exact hx
  | exit => exact hx
  | destroy kind handle =>
    refine Table.objects_destroy hx ?_
    rintro rfl rfl
    exact hcall rfl

theorem Represents.kept (h : Represents s t) {x : Nat} {object : Object}
    (hx : t.objects x = some object) {calls : List (Nat × Call)}
    (hcalls : ∀ thread, (thread, Call.destroy object.kind (some x)) ∉ calls) :
    (after (Table.step e) t calls).objects x = some object := by
  induction calls generalizing s t with
  | nil => exact hx
  | cons call calls ih =>
    obtain ⟨thread, call⟩ := call
    have hcall : call ≠ .destroy object.kind (some x) := by
      rintro rfl
      exact hcalls thread List.mem_cons_self
    have hlt := h.tabulates.lt_next h.next hx
    exact ih (h.step e (thread, call)).2 (Table.objects_step e hx hlt hcall)
      fun thread hmem => hcalls thread (List.mem_cons_of_mem _ hmem)

theorem Table.logger_of_objects {x : Nat} {l : Option SdkLogger}
    (hx : t.objects x = some (.logger l)) : t.logger (some x) = .live l := by
  rw [Table.logger, Table.arg, HandleArg.lookup, hx]
  rfl

/-- A logger is of the provider and the scope that it was acquired with. -/
theorem Table.got_logger {provider : Option Nat} {options : Option ScopeOptions} {x : Nat}
    (h : (t.getLogger provider options).1 = .handle (.ok x)) :
    ∃ backing, getLoggerWithOptions (t.provider provider) options = .ok backing ∧
      (t.getLogger provider options).2.objects x =
        some (.logger (backing.map fun b => ⟨b.1, b.2⟩)) := by
  rw [Table.getLogger] at h ⊢
  cases hbacking : getLoggerWithOptions (t.provider provider) options with
  | error e =>
    rw [hbacking] at h
    cases h
  | ok backing =>
    rw [hbacking] at h
    cases h
    exact ⟨backing, rfl, Function.update_self _ _ _⟩

/-- An emission says what is wrong, or hands over a record, if there is anyone to take it. -/
def Emitted (s : State) (out : Reply × State) :
    Except Fail (Option (SdkLogger × SdkLogRecord)) → Prop
  | .error e => out.1 = .status e.status (some e.message) ∧ out.2.emitted = s.emitted
  | .ok handed => out.1 = .status .ok none ∧ out.2.emitted = s.emitted ++ handed.toList

theorem Represents.emitted_of_emits (h : Represents s t) {out : Reply × State} {t' : Table}
    {result : Except Fail (Option (SdkLogger × SdkLogRecord))} (hout : Alike Represents out (t'.emits result))
    (hkept : t'.emitted = t.emitted) : Emitted s out result := by
  obtain ⟨hreply, hrel⟩ := hout
  rw [Emitted.eq_def, h.emitted, hreply, hrel.emitted, ← hkept]
  cases result with
  | error e => exact ⟨rfl, rfl⟩
  | ok handed => exact ⟨rfl, rfl⟩

/-- What the emissions through a handle do. -/
structure Hands (s : State) (handle : Option Nat) (logger : HandleArg (Option SdkLogger)) :
    Prop where
  plain : ∀ thread record, Emitted s (s.step e (thread, .emit handle record))
    (Emission.plain.result e.severityName logger record)
  given : ∀ thread record context,
    Emitted s (s.step e (thread, .emitWithContext handle record context))
      ((Emission.given context).result e.severityName logger record)
  current : ∀ thread record, Emitted s (s.step e (thread, .emitWithCurrentContext handle record))
    ((Emission.current (currentOn s.process thread).1).result e.severityName logger record)

theorem Represents.hands (h : Represents s t) (handle : Option Nat) :
    Hands e s handle (t.logger handle) where
  plain thread record := h.emitted_of_emits (h.step e (thread, .emit handle record)) rfl
  given thread record context :=
    h.emitted_of_emits (h.step e (thread, .emitWithContext handle record context)) rfl
  current thread record := by
    obtain ⟨process, hstep⟩ : ∃ process, t.step e (thread, .emitWithCurrentContext handle record) =
        ({ t with process := process } : Table).emits
          ((Emission.current (currentOn t.process thread).1).result e.severityName
            (t.logger handle) record) := ⟨_, rfl⟩
    have hcall := h.step e (thread, .emitWithCurrentContext handle record)
    rw [hstep, ← h.process] at hcall
    exact h.emitted_of_emits hcall rfl

/-- **A logger emits as requested**: whatever was called on whatever threads since it was acquired,
a record is handed over under the provider and the scope that it was acquired with. -/
theorem emitted_as_requested {before later : List (Nat × Call)} {provider : Option Nat}
    {options : Option ScopeOptions} {x : Nat} {getLogger : Nat × Call}
    (hgetLogger : getLogger.2 = .getLogger provider options)
    (hx : ((after (State.step e) .initial before).step e getLogger).1 = .handle (.ok x))
    (hlater : ∀ thread, (thread, Call.destroy .logger (some x)) ∉ later) :
    ∃ arg backing, (after (State.step e) .initial before).provider provider = some arg ∧
      getLoggerWithOptions arg options = .ok backing ∧
      Hands e (after (State.step e) .initial (before ++ getLogger :: later)) (some x)
        (.live (backing.map fun b => ⟨b.1, b.2⟩)) := by
  obtain ⟨getThread, _⟩ := getLogger
  obtain rfl := hgetLogger
  rw [after_append, after_cons]
  have h₀ := (simulates e).related represents_initial before
  have h₁ := h₀.step e (getThread, .getLogger provider options)
  rw [h₁.1] at hx
  obtain ⟨backing, hbacking, hlogger⟩ := Table.got_logger hx
  have hkept := h₁.2.kept e hlogger hlater
  have h₂ := (simulates e).related h₁.2 later
  refine ⟨_, backing, h₀.provider provider, hbacking, ?_⟩
  rw [← Table.logger_of_objects hkept]
  exact h₂.hands e (some x)

/-- The options of a scope without a version or a schema. -/
def plainOptions (name : List UInt8) : ScopeOptions :=
  loggerOptions (.elems name) (.null 0) (.null 0)

/-- Severities without names, and loggers that are always enabled. -/
def plainElsewhere : Elsewhere := ⟨fun _ => [], fun _ _ => true⟩

/-- A logger of the global provider, which is gone when it is used. -/
theorem emitted_as_requested_global : ∃ arg backing,
    (after (State.step plainElsewhere) .initial
      [(0, .install (some 7)), (0, .globalLoggerProvider)]).provider (some 0) = some arg ∧
    getLoggerWithOptions arg (some (plainOptions [0x6C])) = .ok backing ∧
    Hands plainElsewhere (after (State.step plainElsewhere) .initial
      ([(0, .install (some 7)), (0, .globalLoggerProvider)] ++
        (1, .getLogger (some 0) (some (plainOptions [0x6C]))) ::
        [(0, .install none), (0, .destroy .loggerProvider (some 0))])) (some 1)
      (.live (backing.map fun b => ⟨b.1, b.2⟩)) :=
  emitted_as_requested plainElsewhere rfl rfl (by intro thread h; simp at h)

/-! ### What is current -/

def Call.attaches : Call → Bool
  | .attach _ _ => true
  | _ => false

/-- The contexts change as by calls of the context functions alone. -/
theorem State.process_step {world : World} (hworld : world.process = s.process)
    (call : Nat × Call) :
    ∃ calls, (Run.run Context.step world calls).process = (s.step e call).2.process ∧
      calls.countP Context.Call.attaches ≤ if call.2.attaches then 1 else 0 := by
  have hnothing : ∀ {out : Reply × State} (bound : Nat), out.2.process = s.process →
      ∃ calls, (Run.run Context.step world calls).process = out.2.process ∧
        calls.countP Context.Call.attaches ≤ bound :=
    fun bound hout => ⟨[], hworld.trans hout.symm, Nat.zero_le bound⟩
  have hemits (s : State) (logger : HandleArg (Option SdkLogger)) (call : EmitCall) :
      (s.emits logger call).2.process = s.process := by
    unfold State.emits
    dsimp only
    split <;> rfl
  obtain ⟨thread, call⟩ := call
  cases call with
  | globalLoggerProvider => exact hnothing _ rfl
  | loggerProviderNew provider => exact hnothing _ rfl
  | install provider => exact hnothing _ rfl
  | getLogger provider options =>
    refine hnothing _ ?_
    rw [State.step, State.getLogger]
    split
    · rfl
    · split <;> rfl
  | emit logger record =>
    refine hnothing _ ?_
    rw [State.step, State.emit]
    split
    · rfl
    · exact hemits _ _ _
  | emitWithContext logger record context =>
    refine hnothing _ ?_
    rw [State.step, State.emitWithContext]
    split
    · rfl
    · exact hemits _ _ _
  | emitWithCurrentContext logger record =>
    rw [State.step, State.emitWithCurrentContext]
    split
    · exact hnothing _ rfl
    · rename_i arg _
      by_cases hasks : asksCurrent (apiLogger arg) record = true
      · refine ⟨[.current thread], ?_, Nat.zero_le _⟩
        rw [hemits, if_pos hasks, ← hworld]
        rfl
      · refine hnothing _ ?_
        rw [hemits, if_neg hasks]
  | enabled logger severity =>
    refine hnothing _ ?_
    rw [State.step]
    split <;> rfl
  | attach context scope =>
    refine ⟨[.attach thread context scope], ?_, Nat.le_refl _⟩
    rw [State.step, ← hworld]
    exact process_attach world thread context scope
  | detach scope =>
    refine ⟨[.detach thread scope], ?_, Nat.le_refl _⟩
    rw [State.step, ← hworld]
    exact process_detach world thread scope
  | exit =>
    refine ⟨[.exit thread], ?_, Nat.le_refl _⟩
    show (Context.step world (.exit thread)).process = exitThread s.process thread
    unfold Context.step exitThread
    rw [← hworld]
    dsimp only
    cases world.process.slots thread <;> rfl
  | destroy kind handle =>
    refine hnothing _ ?_
    rw [State.step]
    unfold State.destroy
    split
    · rfl
    · split <;> rfl
    · rfl

theorem State.process_after {world : World} (hworld : world.process = s.process)
    (calls : List (Nat × Call)) :
    ∃ calls', (Run.run Context.step world calls').process =
        (after (State.step e) s calls).process ∧
      calls'.countP Context.Call.attaches ≤ calls.countP (·.2.attaches) := by
  induction calls generalizing s world with
  | nil => exact ⟨[], hworld, Nat.le_refl _⟩
  | cons call calls ih =>
    obtain ⟨first, hfirst, hcount⟩ := State.process_step e hworld call
    obtain ⟨rest, hrest, hcount'⟩ := ih hfirst
    refine ⟨first ++ rest, ?_, ?_⟩
    · rw [Run.run_append]
      exact hrest
    · rw [List.countP_append, List.countP_cons]
      omega

/-- **A record that is emitted while a context is attached has that context.**  Whatever was called
on whatever threads since the context was attached: if its scope can be detached now, a record that
is emitted now on this thread, by any logger, has it, but for one with a trace context of its
own. -/
theorem emitted_within {before inside calls : List (Nat × Call)} {thread : Nat}
    {context : ContextData} {scope : Option OtelContextScope} {scope' : OtelContextScope}
    {reply : Context.Reply}
    (hcalls : calls = before ++ (thread, .attach (.live context) scope) :: inside)
    (hfew : calls.countP (·.2.attaches) < 2 ^ 64)
    (hattach : ((after (State.step e) .initial before).step e
      (thread, .attach (.live context) scope)).1 = .scope ⟨.ok, none, some scope'⟩)
    (hopen : ((after (State.step e) .initial calls).step e (thread, .detach (some scope'))).1 =
      .scope reply)
    (hok : reply.status = .ok) (logger : Option Nat) (record : Option OtelLogRecordView) :
    ∃ arg, (after (State.step e) .initial calls).logger logger = some arg ∧
      Emitted (after (State.step e) .initial calls)
        ((after (State.step e) .initial calls).step e
          (thread, .emitWithCurrentContext logger record))
        ((Emission.current (some context)).result e.severityName arg record) := by
  have h := (simulates e).related represents_initial calls
  have hemitted := (h.hands e logger).current thread record
  -- what is attached is attached by the calls of the context functions alone
  obtain ⟨before', hbefore, hcount⟩ :=
    @State.process_after .initial e World.initial rfl before
  have hattached : (Context.step (Context.run before')
      (.attach thread (.live context) scope)).process = ((after (State.step e) .initial before).step
        e (thread, .attach (.live context) scope)).2.process := by
    rw [process_attach, Context.run, hbefore]
    rfl
  obtain ⟨inside', hinside, hcount'⟩ := State.process_after e hattached inside
  have hend : (Context.run (before' ++ .attach thread (.live context) scope :: inside')).process =
      (after (State.step e) .initial calls).process := by
    rw [hcalls, after_append, Context.run, Run.run_append]
    exact hinside
  have hcurrent := @current_of_open before' inside' thread context scope scope' ?_ ?_ ?_
  · rw [hend] at hcurrent
    rw [hcurrent] at hemitted
    exact ⟨_, h.logger logger, hemitted⟩
  · subst hcalls
    rw [List.countP_append, List.countP_cons_of_pos rfl] at hfew ⊢
    rw [tokenRange]
    omega
  · rw [Context.run, hbefore]
    exact Reply.scope.inj hattach
  · have hreply : Reply.scope (detachOn (after (State.step e) .initial calls).process thread
        (some scope')).1 = .scope reply := hopen
    rw [hend, Reply.scope.inj hreply]
    exact hok

/-- A sampled span of this process. -/
def tracedContext : ContextData :=
  ⟨some ⟨Bytes.replicate 16 1, Bytes.replicate 8 1, 1, false, []⟩, none, 0⟩

/-- A second context is attached over the first one and detached again, while another thread
attaches one of its own. -/
def nested : List (Nat × Call) :=
  [(0, .install (some 7)), (0, .globalLoggerProvider),
    (0, .getLogger (some 0) (some (plainOptions [0x6C]))),
    (7, .attach (.live tracedContext) (some newScope)),
    (8, .attach (.live emptyContext) (some newScope)),
    (7, .attach (.live emptyContext) (some newScope)), (7, .detach (some ⟨40, 1, 2, (0, 0)⟩))]

/-- A record with a text as its body. -/
def textRecord : OtelLogRecordView :=
  { emptyRecord with body := ⟨1, 0, { stringValue := viewOf (lit "hi") }⟩ }

/-- What is emitted for it within `tracedContext`. -/
def tracedRecord : SdkLogRecord where
  timestamp := none
  observedTimestamp := none
  severityNumber := none
  severityText := none
  traceContext := some ⟨Bytes.replicate 16 1, Bytes.replicate 8 1, some 1⟩
  body := some (.string (lit "hi"))
  attributes := []
  eventName := none
  target := none

theorem emitted_within_nested :
    ((after (State.step plainElsewhere) .initial nested).step plainElsewhere
      (7, .emitWithCurrentContext (some 1) (some textRecord))).2.emitted =
      [(⟨7, ⟨lit "l", none, none, []⟩⟩, tracedRecord)] := by
  obtain ⟨arg, harg, hemitted⟩ := @emitted_within plainElsewhere (nested.take 3) (nested.drop 4)
    nested 7 tracedContext (some newScope) ⟨40, 1, 1, (0, 0)⟩ _ rfl (by decide) rfl rfl rfl (some 1)
    (some textRecord)
  have hlogger : (after (State.step plainElsewhere) .initial nested).logger (some 1) =
      some (.live (some ⟨7, ⟨lit "l", none, none, []⟩⟩)) := rfl
  obtain rfl := Option.some.inj (harg.symm.trans hlogger)
  exact hemitted.2

end OtelC.Logs.Loggers
