import OtelC.Context.Stack
import OtelC.Logs.EmitRecord

/-!
# Correlated emission

The API's three ways to emit a record: as it is, with a span context, and with the span context of
the current context.  A span context keeps all eight flag bits; the record view supports two.

* `emits_correlated_iff`: the record a correlated view becomes.
* `correlated_emission_iff`: which span contexts correlate every accepted record.
-/

namespace OtelC.Logs

open OtelC.Context OtelC.Trace

/-! ### The entry points -/

/-- What a live logger is: without an SDK, or backed by one. -/
inductive OtelLogger where
  | noop
  | backed
  deriving DecidableEq

section Api

variable (severityName : Severity → Str)

/-- `otel_logger_emit`; a NULL record is `none`. -/
def otelLoggerEmit (logger : HandleArg OtelLogger) (record : Option OtelLogRecordView) : EmitCall :=
  match checkedRef logger with
  | .error e => .failed .invalidArgument e.message
  | .ok logger =>
    match record with
    | none => .failed .invalidArgument "log record view must not be NULL"
    | some view =>
      if view.structSize.toNat < recordViewSize then
        .failed .invalidArgument
          "log record view struct_size is smaller than the supported prefix"
      else match logger with
        | .noop => ⟨.ok, none, none⟩
        | .backed => loggerEmit severityName false (some view)

/-- The copy of a record that carries a span context. -/
def correlated (view : OtelLogRecordView) (context : SpanContextData) : OtelLogRecordView :=
  { view with
    structSize := 160
    presentFields := view.presentFields ||| fieldTraceContext
    traceContext := ⟨context.view.traceId, context.view.spanId, context.view.traceFlags,
      Bytes.zero 7⟩ }

/-- `otel_logger_emit_with_context`. -/
def otelLoggerEmitWithContext (logger : HandleArg OtelLogger) (record : Option OtelLogRecordView)
    (context : HandleArg SpanContextData) : EmitCall :=
  match checkedRef context with
  | .error e => .failed .invalidArgument e.message
  | .ok context =>
    if ¬context.isValid then .failed .invalidArgument "span context is invalid"
    else match record with
      | none => .failed .invalidArgument "log record view must not be NULL"
      | some view =>
        if view.structSize.toNat < recordViewSize then
          .failed .invalidArgument
            "log record view struct_size is smaller than the supported prefix"
        else if view.presentFields &&& fieldTraceContext ≠ 0 then
          .failed .invalidArgument
            "raw trace context and span-context handle are mutually exclusive"
        else otelLoggerEmit severityName logger (some (correlated view context))

/-- `otel_logger_emit_with_current_context` on a thread with these attached contexts. -/
def otelLoggerEmitWithCurrentContext (logger : HandleArg OtelLogger)
    (record : Option OtelLogRecordView) (stack : ContextStack) : EmitCall :=
  match checkedRef logger with
  | .error e => .failed .invalidArgument e.message
  | .ok logger' =>
    match record with
    | none => .failed .invalidArgument "log record is NULL"
    | some view =>
      if view.structSize.toNat < recordViewSize then
        .failed .invalidConfig "log record struct_size is too small"
      else if logger' = .noop ∨ view.presentFields &&& fieldTraceContext ≠ 0 then
        otelLoggerEmit severityName logger record
      else match (currentData stack).bind ContextData.spanContext with
        | none => otelLoggerEmit severityName logger record
        | some context => otelLoggerEmitWithContext severityName logger record (.live context)

end Api

/-! ### The record of a correlated view -/

/-- Setting the presence bit of the trace context leaves the other bits alone. -/
theorem or_traceContext_and (fields mask : UInt64) :
    (fields ||| fieldTraceContext) &&& mask = fields &&& mask ||| fieldTraceContext &&& mask :=
  UInt64.toBitVec_inj.mp (by simp [BitVec.and_or_distrib_right])

theorem or_traceContext_of_disjoint (fields : UInt64) {mask : UInt64}
    (h : fieldTraceContext &&& mask = 0) :
    (fields ||| fieldTraceContext) &&& mask = fields &&& mask := by
  rw [or_traceContext_and, h, UInt64.or_zero]

theorem correlated_present {fields : UInt64} (h : fields &&& fieldTraceContext = 0) :
    (fields ||| fieldTraceContext) &&& fieldTraceContext ≠ 0 := by
  rw [or_traceContext_and, h]
  decide

theorem checkRecordHeader_correlated (view : OtelLogRecordView) (context : SpanContextData) :
    checkRecordHeader (correlated view context) = checkRecordHeader view := by
  have hmask := or_traceContext_of_disjoint view.presentFields
    (show fieldTraceContext &&& ~~~fieldKnownMask = 0 by decide)
  unfold checkRecordHeader
  simp only [correlated, hmask]
  rfl

theorem recordTraceContext_correlated {view : OtelLogRecordView}
    (hraw : view.presentFields &&& fieldTraceContext = 0) (context : SpanContextData) :
    recordTraceContext (correlated view context) =
      (checkTraceContext (correlated view context).traceContext).map some :=
  if_pos (correlated_present hraw)

/-- A correlated view whose context passes the checks becomes the record of the view itself with the
context added. -/
theorem emits_correlated {severityName : Severity → Str} {view : OtelLogRecordView}
    {context : SpanContextData} (hraw : view.presentFields &&& fieldTraceContext = 0)
    {plain : SdkLogRecord} (hplain : Emits severityName view plain) {traceContext : TraceContext}
    (hcheck : checkTraceContext (correlated view context).traceContext = .ok traceContext) :
    Emits severityName (correlated view context)
      { plain with traceContext := some traceContext } where
  header := (checkRecordHeader_correlated view context).trans hplain.header
  keys := hplain.keys
  wellFormed := hplain.wellFormed
  timestamp := by
    rw [← hplain.timestamp]
    simp only [correlated, or_traceContext_of_disjoint view.presentFields
      (show fieldTraceContext &&& fieldTimestamp = 0 by decide)]
  observedTimestamp := by
    rw [← hplain.observedTimestamp]
    simp only [correlated, or_traceContext_of_disjoint view.presentFields
      (show fieldTraceContext &&& fieldObservedTimestamp = 0 by decide)]
  severity := hplain.severity
  severityText := hplain.severityText
  traceContext := by
    rw [recordTraceContext_correlated hraw, hcheck]
    rfl
  body := hplain.body
  values := hplain.values
  eventName := hplain.eventName
  target := hplain.target

theorem checkTraceContext_of_emits {severityName : Severity → Str} {view : OtelLogRecordView}
    {context : SpanContextData} (hraw : view.presentFields &&& fieldTraceContext = 0)
    {record : SdkLogRecord} (h : Emits severityName (correlated view context) record) :
    ∃ traceContext, checkTraceContext (correlated view context).traceContext = .ok traceContext ∧
      record.traceContext = some traceContext := by
  have hcontext := h.traceContext
  rw [recordTraceContext_correlated hraw] at hcontext
  cases hcheck : checkTraceContext (correlated view context).traceContext with
  | error e =>
    rw [hcheck] at hcontext
    simp [Except.map] at hcontext
  | ok traceContext =>
    rw [hcheck] at hcontext
    exact ⟨traceContext, rfl, (Except.ok.inj hcontext).symm⟩

/-- **The record a correlated view becomes**: there is one just when the context passes the checks of
an explicit trace context. -/
theorem emits_correlated_iff {severityName : Severity → Str} {view : OtelLogRecordView}
    {context : SpanContextData} (hraw : view.presentFields &&& fieldTraceContext = 0)
    {plain : SdkLogRecord} (hplain : Emits severityName view plain) {record : SdkLogRecord} :
    Emits severityName (correlated view context) record ↔
      ∃ traceContext, checkTraceContext (correlated view context).traceContext = .ok traceContext ∧
        record = { plain with traceContext := some traceContext } := by
  constructor
  · intro h
    obtain ⟨traceContext, hcheck, -⟩ := checkTraceContext_of_emits hraw h
    have h' := emits_correlated hraw hplain hcheck
    rw [← recordOfView_ok_iff] at h h'
    exact ⟨traceContext, hcheck, Except.ok.inj (h.symm.trans h')⟩
  · rintro ⟨traceContext, hcheck, rfl⟩
    exact emits_correlated hraw hplain hcheck

/-- A valid span context passes the checks of an explicit trace context just when it has no flag
outside the supported mask. -/
theorem checkTraceContext_correlated {context : SpanContextData} (hvalid : context.isValid = true)
    (view : OtelLogRecordView) {traceContext : TraceContext} :
    checkTraceContext (correlated view context).traceContext = .ok traceContext ↔
      context.traceFlags &&& ~~~traceFlagsSupportedMask = 0 ∧
        traceContext = ⟨context.traceId, context.spanId, some context.traceFlags⟩ := by
  simp only [SpanContextData.isValid, Bool.and_eq_true, decide_eq_true_eq] at hvalid
  have hreserved : ¬(Bytes.zero 7).1.any (· ≠ 0) = true := by decide
  unfold checkTraceContext
  simp only [fail]
  rw [Checked.guard_eq_ok, Checked.guard_eq_ok, Checked.guard_eq_ok, Checked.guard_eq_ok, not_not]
  constructor
  · rintro ⟨-, hflags, -, -, h⟩
    exact ⟨hflags, (Except.ok.inj h).symm⟩
  · rintro ⟨hflags, rfl⟩
    exact ⟨hreserved, hflags, hvalid.1, hvalid.2, rfl⟩

/-- Flags within the mask are not changed by it. -/
theorem and_mask_of_known {flags : UInt8} (h : flags &&& ~~~traceFlagsSupportedMask = 0) :
    flags &&& traceFlagsSupportedMask = flags := by
  have hbits : ∀ bits : BitVec 8, bits &&& ~~~3#8 = 0#8 → bits &&& 3#8 = bits := by decide
  exact UInt8.toBitVec_inj.mp (hbits flags.toBitVec (congrArg UInt8.toBitVec h))

/-! ### Correlation never loses a record for flags a record supports -/

/-- An emission that succeeded with a record of this view, and the record. -/
theorem emitRecord_ok_iff {severityName : Severity → Str} {view : OtelLogRecordView} :
    (emitRecord severityName view).status = .ok ↔
      ∃ record, Emits severityName view record ∧
        emitRecord severityName view = ⟨.ok, none, some record⟩ := by
  simp only [← recordOfView_ok_iff]
  unfold emitRecord
  cases recordOfView severityName view with
  | error e => simp [EmitCall.failed, e.failed.ne_ok]
  | ok record => simp

/-- What the backed logger accepts. -/
theorem otelLoggerEmit_ok_iff {severityName : Severity → Str} {view : OtelLogRecordView} :
    (otelLoggerEmit severityName (.live .backed) (some view)).status = .ok ↔
      recordViewSize ≤ view.structSize.toNat ∧ (emitRecord severityName view).status = .ok := by
  simp only [otelLoggerEmit, checkedRef_live, loggerEmit, Bool.false_eq_true, if_false]
  split
  · rename_i hsize
    simp [EmitCall.failed, Nat.not_le.mpr hsize]
  · rename_i hsize
    exact (and_iff_right (Nat.le_of_not_gt hsize)).symm

theorem otelLoggerEmit_eq {severityName : Severity → Str} {view : OtelLogRecordView}
    (hsize : recordViewSize ≤ view.structSize.toNat) :
    otelLoggerEmit severityName (.live .backed) (some view) = emitRecord severityName view := by
  simp only [otelLoggerEmit, checkedRef_live, loggerEmit, Bool.false_eq_true, if_false,
    if_neg (Nat.not_lt.mpr hsize)]

/-- The call succeeded and emitted a record with the ids of this context and its flags, masked to
those a record supports. -/
def Correlates (context : SpanContextData) (call : EmitCall) : Prop :=
  call.status = .ok ∧ ∃ record, call.emitted = some record ∧
    record.traceContext = some ⟨context.traceId, context.spanId,
      some (context.traceFlags &&& traceFlagsSupportedMask)⟩

theorem emitWithContext_eq {severityName : Severity → Str} {context : SpanContextData}
    (hvalid : context.isValid = true) {view : OtelLogRecordView}
    (hsize : recordViewSize ≤ view.structSize.toNat)
    (hraw : view.presentFields &&& fieldTraceContext = 0) :
    otelLoggerEmitWithContext severityName (.live .backed) (some view) (.live context) =
      emitRecord severityName (correlated view context) := by
  simp only [otelLoggerEmitWithContext, checkedRef_live, hvalid, not_true_eq_false, if_false,
    if_neg (Nat.not_lt.mpr hsize), hraw, ne_eq]
  exact otelLoggerEmit_eq (by simp [correlated, recordViewSize])

theorem emitWithCurrentContext_eq {severityName : Severity → Str} {context : SpanContextData}
    {view : OtelLogRecordView} (hsize : recordViewSize ≤ view.structSize.toNat)
    (hraw : view.presentFields &&& fieldTraceContext = 0) {stack : ContextStack}
    {data : ContextData} (hcurrent : currentData stack = some data)
    (hcarries : data.spanContext = some context) :
    otelLoggerEmitWithCurrentContext severityName (.live .backed) (some view) stack =
      otelLoggerEmitWithContext severityName (.live .backed) (some view) (.live context) := by
  simp only [otelLoggerEmitWithCurrentContext, checkedRef_live, if_neg (Nat.not_lt.mpr hsize), hraw,
    ne_eq, not_true_eq_false, reduceCtorEq, or_self, if_false, hcurrent, Option.bind_some, hcarries]

/-- **Which contexts correlate every record.**  For a record the backed logger accepts and a valid
context, given or current, the correlated emission succeeds with that context just when the context
has no flag outside the mask of supported flags. -/
theorem correlated_emission_iff (severityName : Severity → Str) (context : SpanContextData)
    (hvalid : context.isValid = true) (view : OtelLogRecordView)
    (haccepted : (otelLoggerEmit severityName (.live .backed) (some view)).status = .ok)
    (hraw : view.presentFields &&& fieldTraceContext = 0) (stack : ContextStack)
    (data : ContextData) (hcurrent : currentData stack = some data)
    (hcarries : data.spanContext = some context) :
    (Correlates context
        (otelLoggerEmitWithContext severityName (.live .backed) (some view) (.live context)) ↔
      context.traceFlags &&& ~~~traceFlagsSupportedMask = 0) ∧
    (Correlates context
        (otelLoggerEmitWithCurrentContext severityName (.live .backed) (some view) stack) ↔
      context.traceFlags &&& ~~~traceFlagsSupportedMask = 0) := by
  obtain ⟨hsize, hemit⟩ := otelLoggerEmit_ok_iff.mp haccepted
  obtain ⟨plain, hplain, -⟩ := emitRecord_ok_iff.mp hemit
  rw [emitWithCurrentContext_eq hsize hraw hcurrent hcarries, emitWithContext_eq hvalid hsize hraw,
    and_self]
  constructor
  · rintro ⟨hok, -⟩
    obtain ⟨record, hrecord, -⟩ := emitRecord_ok_iff.mp hok
    obtain ⟨_, hcheck, -⟩ := (emits_correlated_iff hraw hplain).mp hrecord
    exact ((checkTraceContext_correlated hvalid view).mp hcheck).1
  · intro hflags
    have hcheck := (checkTraceContext_correlated hvalid view).mpr ⟨hflags, rfl⟩
    have hrecord := recordOfView_ok_iff.mpr (emits_correlated hraw hplain hcheck)
    rw [emitRecord, hrecord]
    exact ⟨rfl, _, rfl, by rw [and_mask_of_known hflags]⟩

/-- An empty record. -/
def emptyRecord : OtelLogRecordView where
  structSize := 160
  presentFields := 0
  timestampUnixNanos := 0
  observedTimestampUnixNanos := 0
  severityNumber := 0
  reservedFlags := 0
  body := ⟨0, 0, {}⟩
  attributes := .null 0
  valueNodes := .null 0
  traceContext := ⟨Bytes.zero 16, Bytes.zero 8, 0, Bytes.zero 7⟩
  reserved := ⟨[0, 0, 0, 0], rfl⟩

/-- A context with these flags. -/
def flaggedContext (flags : UInt8) : SpanContextData where
  traceId := Bytes.replicate 16 1
  spanId := Bytes.replicate 8 2
  traceFlags := flags
  isRemote := false
  traceState := []

theorem correlated_emission_sampled :
    Correlates (flaggedContext 0x01) (otelLoggerEmitWithContext (fun _ => lit "INFO") (.live .backed)
      (some emptyRecord) (.live (flaggedContext 0x01))) :=
  ((correlated_emission_iff (fun _ => lit "INFO") (flaggedContext 0x01) (by decide) emptyRecord
    (by rfl) (by decide) ⟨1, 2, [⟨1, ⟨some (flaggedContext 0x01), none, 0⟩⟩]⟩
    ⟨some (flaggedContext 0x01), none, 0⟩ rfl rfl).1).mpr (by decide)

/-- A third flag bit, and the record is lost. -/
theorem correlated_emission_loses :
    ¬∀ (severityName : Severity → Str) (context : SpanContextData), context.isValid = true →
      ∀ view : OtelLogRecordView,
      (otelLoggerEmit severityName (.live .backed) (some view)).status = .ok →
      view.presentFields &&& fieldTraceContext = 0 →
      (otelLoggerEmitWithContext severityName (.live .backed) (some view) (.live context)).status =
        .ok := by
  intro h
  have hok := h (fun _ => lit "INFO") (flaggedContext 0x04) (by decide) emptyRecord (by rfl)
    (by decide)
  have hfailed : (otelLoggerEmitWithContext (fun _ => lit "INFO") (.live .backed) (some emptyRecord)
      (.live (flaggedContext 0x04))).status = .invalidConfig := by rfl
  rw [hfailed] at hok
  exact absurd hok (by decide)

end OtelC.Logs
