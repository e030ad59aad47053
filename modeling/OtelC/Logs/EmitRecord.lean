import OtelC.Logs.Converter
import OtelC.Trace.SpanContext

/-!
# Emitting a log record in the SDK

The SDK checks a borrowed record view field by field, converts its value pool, and hands one owned
record to its logger; a view that fails any check hands over nothing.  The names of severities belong
to another package and are a parameter.
-/

namespace OtelC.Logs

/-! ### The record view -/

structure OtelLogTraceContext where
  traceId : Bytes 16
  spanId : Bytes 8
  traceFlags : UInt8
  reserved : Bytes 7

/-- `OTEL_LOG_TRACE_FLAGS_SUPPORTED_MASK`: the sampled and the random bit. -/
def traceFlagsSupportedMask : UInt8 := 0x01 ||| 0x02

/-- `OTEL_LOG_FIELD_TIMESTAMP`. -/
def fieldTimestamp : UInt64 := 1

/-- `OTEL_LOG_FIELD_OBSERVED_TIMESTAMP`. -/
def fieldObservedTimestamp : UInt64 := 2

/-- `OTEL_LOG_FIELD_TRACE_CONTEXT`. -/
def fieldTraceContext : UInt64 := 4

/-- `OTEL_LOG_FIELD_KNOWN_MASK`. -/
def fieldKnownMask : UInt64 := fieldTimestamp ||| fieldObservedTimestamp ||| fieldTraceContext

structure OtelLogRecordView where
  structSize : UInt64
  presentFields : UInt64
  timestampUnixNanos : UInt64
  observedTimestampUnixNanos : UInt64
  severityNumber : UInt32
  reservedFlags : UInt32
  body : OtelLogValue
  attributes : CSlice OtelLogValueNode
  valueNodes : CSlice OtelLogValueNode
  traceContext : OtelLogTraceContext
  reserved : {words : List UInt64 // words.length = 4}

/-- `size_of::<OtelLogRecordView>()`, also `OTEL_LOG_RECORD_VIEW_V1_SIZE`. -/
def recordViewSize : Nat := 160

/-! ### The SDK's record -/

/-- `opentelemetry::logs::Severity`. -/
inductive Severity where
  | trace | trace2 | trace3 | trace4
  | debug | debug2 | debug3 | debug4
  | info | info2 | info3 | info4
  | warn | warn2 | warn3 | warn4
  | error | error2 | error3 | error4
  | fatal | fatal2 | fatal3 | fatal4
  deriving DecidableEq, Repr

/-- `severity_from_u32`. -/
def severityFromU32 (severity : UInt32) : Option Severity :=
  match severity.toNat with
  | 1 => some .trace
  | 2 => some .trace2
  | 3 => some .trace3
  | 4 => some .trace4
  | 5 => some .debug
  | 6 => some .debug2
  | 7 => some .debug3
  | 8 => some .debug4
  | 9 => some .info
  | 10 => some .info2
  | 11 => some .info3
  | 12 => some .info4
  | 13 => some .warn
  | 14 => some .warn2
  | 15 => some .warn3
  | 16 => some .warn4
  | 17 => some .error
  | 18 => some .error2
  | 19 => some .error3
  | 20 => some .error4
  | 21 => some .fatal
  | 22 => some .fatal2
  | 23 => some .fatal3
  | 24 => some .fatal4
  | _ => none

/-- `log_severity_is_valid`: absent, or up to `OTEL_LOG_SEVERITY_MAX`. -/
def logSeverityIsValid (severity : UInt32) : Bool := severity.toNat ≤ 24

/-- An instant, as nanoseconds since the Unix epoch. -/
abbrev SystemTime := Int

/-- The SDK's trace correlation. -/
structure TraceContext where
  traceId : Bytes 16
  spanId : Bytes 8
  traceFlags : Option UInt8
  deriving DecidableEq

/-- `opentelemetry_sdk::logs::SdkLogRecord`. -/
structure SdkLogRecord where
  timestamp : Option SystemTime
  observedTimestamp : Option SystemTime
  severityNumber : Option Severity
  severityText : Option Str
  traceContext : Option TraceContext
  body : Option AnyValue
  attributes : List (Str × AnyValue)
  eventName : Option Str
  target : Option Str

/-! ### Checking and converting -/

/-- The checks of `emit_record` before anything behind a pointer is read. -/
def checkRecordHeader (view : OtelLogRecordView) : Except Fail Unit :=
  if view.reservedFlags ≠ 0 ∨ view.body.reserved ≠ 0 ∨ view.reserved.1.any (· ≠ 0) then
    fail .invalidArgument "log record reserved fields must be zero"
  else if view.presentFields &&& ~~~fieldKnownMask ≠ 0 then
    fail .invalidConfig "log record present_fields contains bits unknown to this library version"
  else if ¬logSeverityIsValid view.severityNumber then
    fail .invalidArgument "log record severity_number must be 0 (absent) or 1..=24"
  else if view.attributes.len > maxAttributes then
    fail .invalidArgument "log record exceeds the maximum supported attribute count"
  else if view.valueNodes.len > maxValueNodes then
    fail .invalidArgument "log record exceeds the maximum supported value node count"
  else if view.attributes.len > 0 ∧ view.attributes.isNull then
    fail .invalidArgument "log record attribute_count is non-zero but attributes is NULL"
  else if view.valueNodes.len > 0 ∧ view.valueNodes.isNull then
    fail .invalidArgument "log record value_node_count is non-zero but value_nodes is NULL"
  else .ok ()

/-- The key of a record attribute. -/
def attributeKey (node : OtelLogValueNode) : Except Fail Str := do
  let key ← asStr node.key
  if key.isEmpty then fail .invalidArgument "log record attribute keys must not be empty"
  else if key.len > maxStringLen then
    fail .invalidArgument "log record attribute key exceeds the maximum supported length"
  else .ok key

/-- The body as a list of roots: none if it is empty. -/
def bodyRoots (view : OtelLogRecordView) : List OtelLogValue :=
  if view.body.valueType ≠ OtelLogValueType.empty.toU32 then [view.body] else []

/-- `i64::MAX` seconds, the last instant of a `SystemTime`. -/
def maxSystemSeconds : Nat := 2 ^ 63 - 1

/-- `system_time_from_unix_nanos`. -/
def systemTimeFromUnixNanos (nanos : UInt64) (what : String) : Except Fail SystemTime :=
  if nanos.toNat / 1000000000 > maxSystemSeconds then
    fail .invalidArgument s!"{what} is not representable as a system time"
  else .ok nanos.toNat

/-- A timestamp that is read only when its presence bit is set. -/
def optionalTime (present : Bool) (nanos : UInt64) (what : String) :
    Except Fail (Option SystemTime) :=
  if present then (systemTimeFromUnixNanos nanos what).map some else .ok none

/-- The severity of a view, if it has one. -/
def recordSeverity (view : OtelLogRecordView) : Except Fail (Option Severity) :=
  if view.severityNumber ≠ 0 then
    match severityFromU32 view.severityNumber with
    | some severity => .ok (some severity)
    | none => fail .invalidArgument "log record severity_number must be 0 (absent) or 1..=24"
  else .ok none

/-- The checks of an explicit trace context. -/
def checkTraceContext (context : OtelLogTraceContext) : Except Fail TraceContext :=
  if context.reserved.1.any (· ≠ 0) then
    fail .invalidArgument "log record trace context reserved bytes must be zero"
  else if context.traceFlags &&& ~~~traceFlagsSupportedMask ≠ 0 then
    fail .invalidConfig
      "log record trace context uses trace flags unknown to this library version"
  else if context.traceId = Bytes.zero 16 then
    fail .invalidArgument "log record trace context trace_id must not be all zero"
  else if context.spanId = Bytes.zero 8 then
    fail .invalidArgument "log record trace context span_id must not be all zero"
  else .ok ⟨context.traceId, context.spanId, some context.traceFlags⟩

/-- The trace context of a view, which is read only when its presence bit is set. -/
def recordTraceContext (view : OtelLogRecordView) : Except Fail (Option TraceContext) :=
  if view.presentFields &&& fieldTraceContext ≠ 0 then
    (checkTraceContext view.traceContext).map some
  else .ok none

section Emit

variable (severityName : Severity → Str)

/-- `emit_record` up to the record it hands to the logger. -/
def recordOfView (view : OtelLogRecordView) : Except Fail SdkLogRecord := do
  checkRecordHeader view
  let attributes := view.attributes.read
  let nodes := view.valueNodes.read
  let attributeKeys ← attributes.mapM attributeKey
  let _ ← validate nodes (bodyRoots view ++ attributes.map OtelLogValueNode.value)
  let converted ← convertPool nodes nodes.length (newSlots nodes)
  let timestamp ← optionalTime (view.presentFields &&& fieldTimestamp ≠ 0)
    view.timestampUnixNanos "log record timestamp"
  let observedTimestamp ← optionalTime (view.presentFields &&& fieldObservedTimestamp ≠ 0)
    view.observedTimestampUnixNanos "log record observed timestamp"
  let severity ← recordSeverity view
  let traceContext ← recordTraceContext view
  let (body, converted) ← convertValues nodes converted (bodyRoots view)
  let (values, _) ← convertValues nodes converted (attributes.map OtelLogValueNode.value)
  .ok {
    timestamp := timestamp
    observedTimestamp := observedTimestamp
    severityNumber := severity
    severityText := severity.map severityName
    traceContext := traceContext
    body := body.head?
    attributes := attributeKeys.zip values
    eventName := none
    target := none }

/-- What an emission leaves behind: its status, the message recorded, and the record handed to the
SDK's logger. -/
structure EmitCall where
  status : OtelStatus
  message : Option String
  emitted : Option SdkLogRecord

def EmitCall.failed (status : OtelStatus) (message : String) : EmitCall :=
  ⟨status, some message, none⟩

/-- `emit_record`. -/
def emitRecord (view : OtelLogRecordView) : EmitCall :=
  match recordOfView severityName view with
  | .error e => .failed e.status e.message
  | .ok record => ⟨.ok, none, some record⟩

/-- `logger_emit` of the SDK's vtable; a NULL record is `none`. -/
def loggerEmit (loggerCtxIsNull : Bool) (record : Option OtelLogRecordView) : EmitCall :=
  if loggerCtxIsNull then .failed .invalidArgument "logger context is NULL"
  else match record with
    | none => .failed .invalidArgument "log record view must not be NULL"
    | some view =>
      if view.structSize.toNat < recordViewSize then
        .failed .invalidArgument
          "log record view struct_size is smaller than the supported prefix"
      else emitRecord severityName view

end Emit

/-! ### What an accepted view becomes -/

theorem convertValues_append (nodes : List OtelLogValueNode) (converted : Slots)
    (a b : List OtelLogValue) :
    convertValues nodes converted (a ++ b) = (do
      let (x, converted) ← convertValues nodes converted a
      let (y, converted) ← convertValues nodes converted b
      .ok (x ++ y, converted)) := by
  induction a generalizing converted with
  | nil =>
    simp only [List.nil_append, convertValues, Checked.ok_bind]
    cases convertValues nodes converted b <;> rfl
  | cons root a ih =>
    simp only [List.cons_append, convertValues, ih]
    cases convertValue nodes converted root with
    | error e => rfl
    | ok x =>
      obtain ⟨v, converted⟩ := x
      simp only [Checked.ok_bind]
      cases convertValues nodes converted a with
      | error e => rfl
      | ok x =>
        simp only [Checked.ok_bind]
        cases convertValues nodes x.2 b <;> rfl

/-- The root values of a view: its body, unless that is empty, and its attributes. -/
def recordRoots (view : OtelLogRecordView) : List OtelLogValue :=
  bodyRoots view ++ view.attributes.read.map OtelLogValueNode.value

/-- The record a view becomes. -/
structure Emits (severityName : Severity → Str) (view : OtelLogRecordView)
    (record : SdkLogRecord) : Prop where
  header : checkRecordHeader view = .ok ()
  keys : view.attributes.read.mapM attributeKey = .ok (record.attributes.map Prod.fst)
  wellFormed : WellFormed view.valueNodes.read (recordRoots view)
  timestamp : optionalTime (view.presentFields &&& fieldTimestamp ≠ 0) view.timestampUnixNanos
    "log record timestamp" = .ok record.timestamp
  observedTimestamp : optionalTime (view.presentFields &&& fieldObservedTimestamp ≠ 0)
    view.observedTimestampUnixNanos "log record observed timestamp" = .ok record.observedTimestamp
  severity : recordSeverity view = .ok record.severityNumber
  severityText : record.severityText = record.severityNumber.map severityName
  traceContext : recordTraceContext view = .ok record.traceContext
  body : ∃ values, ReadsAll view.valueNodes.read (bodyRoots view) values ∧
    record.body = values.head?
  values : ReadsAll view.valueNodes.read (view.attributes.read.map OtelLogValueNode.value)
    (record.attributes.map Prod.snd)
  eventName : record.eventName = none
  target : record.target = none

theorem length_convertValues {nodes : List OtelLogValueNode} {roots : List OtelLogValue}
    {slots slots' : Slots} {values : List AnyValue}
    (h : convertValues nodes slots roots = .ok (values, slots')) :
    values.length = roots.length := by
  induction roots generalizing slots values with
  | nil =>
    obtain ⟨rfl, -⟩ := Prod.mk.inj (Except.ok.inj h)
    rfl
  | cons root rest ih =>
    obtain ⟨⟨v, s⟩, -, h⟩ := Checked.bind_eq_ok.mp h
    obtain ⟨⟨vs, s'⟩, hrest, h⟩ := Checked.bind_eq_ok.mp h
    obtain ⟨rfl, rfl⟩ := Prod.mk.inj (Except.ok.inj h)
    simp [ih hrest]

/-- The conversion of a well-formed view, split into its body and its attributes. -/
theorem convert_record {view : OtelLogRecordView}
    (h : WellFormed view.valueNodes.read (recordRoots view)) :
    ∃ slots body slots' values slots'',
      convertPool view.valueNodes.read view.valueNodes.read.length
        (newSlots view.valueNodes.read) = .ok slots ∧
      convertValues view.valueNodes.read slots (bodyRoots view) = .ok (body, slots') ∧
      convertValues view.valueNodes.read slots' (view.attributes.read.map OtelLogValueNode.value) =
        .ok (values, slots'') ∧
      ReadsAll view.valueNodes.read (bodyRoots view) body ∧
      ReadsAll view.valueNodes.read (view.attributes.read.map OtelLogValueNode.value) values := by
  obtain ⟨slots, hpool, all, hvalues, hreads⟩ := convert_ok h
  rw [recordRoots, convertValues_append] at hvalues
  obtain ⟨⟨body, slots'⟩, hbody, hvalues⟩ := Checked.bind_eq_ok.mp hvalues
  obtain ⟨⟨values, slots''⟩, hattrs, hvalues⟩ := Checked.bind_eq_ok.mp hvalues
  obtain ⟨rfl, -⟩ := Prod.mk.inj (Except.ok.inj hvalues)
  have hlen := length_convertValues hbody
  rw [recordRoots] at hreads
  refine ⟨slots, body, slots', values, slots'', hpool, hbody, hattrs, ?_, ?_⟩
  · have := List.forall₂_take (bodyRoots view).length hreads
    rwa [List.take_left' rfl, List.take_left' hlen] at this
  · have := List.forall₂_drop (bodyRoots view).length hreads
    rwa [List.drop_left' rfl, List.drop_left' hlen] at this

/-- **What an accepted view becomes.** -/
theorem recordOfView_ok_iff {severityName : Severity → Str} {view : OtelLogRecordView}
    {record : SdkLogRecord} :
    recordOfView severityName view = .ok record ↔ Emits severityName view record := by
  unfold recordOfView
  constructor
  · intro h
    obtain ⟨⟨⟩, hheader, h⟩ := Checked.bind_eq_ok.mp h
    obtain ⟨keys, hkeys, h⟩ := Checked.bind_eq_ok.mp h
    obtain ⟨info, hvalidate, h⟩ := Checked.bind_eq_ok.mp h
    obtain ⟨slots, hpool, h⟩ := Checked.bind_eq_ok.mp h
    obtain ⟨timestamp, htimestamp, h⟩ := Checked.bind_eq_ok.mp h
    obtain ⟨observed, hobserved, h⟩ := Checked.bind_eq_ok.mp h
    obtain ⟨severity, hseverity, h⟩ := Checked.bind_eq_ok.mp h
    obtain ⟨context, hcontext, h⟩ := Checked.bind_eq_ok.mp h
    obtain ⟨⟨body, slots'⟩, hbody, h⟩ := Checked.bind_eq_ok.mp h
    obtain ⟨⟨values, slots''⟩, hvalues, h⟩ := Checked.bind_eq_ok.mp h
    obtain rfl := Except.ok.inj h
    have hwf : WellFormed view.valueNodes.read (recordRoots view) := validate_ok_iff.mp ⟨_, hvalidate⟩
    obtain ⟨_, _, _, _, _, hpool', hbody', hvalues', hbodyReads, hreads⟩ := convert_record hwf
    obtain rfl := Except.ok.inj (hpool.symm.trans hpool')
    obtain ⟨rfl, rfl⟩ := Prod.mk.inj (Except.ok.inj (hbody.symm.trans hbody'))
    obtain ⟨rfl, rfl⟩ := Prod.mk.inj (Except.ok.inj (hvalues.symm.trans hvalues'))
    have hlen : keys.length = values.length := by
      rw [← (Checked.mapM_eq_ok.mp hkeys).length_eq, ← hreads.length_eq, List.length_map]
    exact ⟨hheader, by rw [List.map_fst_zip hlen.le]; exact hkeys, hwf, htimestamp, hobserved,
      hseverity, rfl, hcontext, ⟨_, hbodyReads, rfl⟩, by rw [List.map_snd_zip hlen.ge]; exact hreads,
      rfl, rfl⟩
  · intro h
    obtain ⟨info, hvalidate⟩ := validate_ok_iff.mpr h.wellFormed
    obtain ⟨slots, body, slots', values, slots'', hpool, hbody, hvalues, hbodyReads, hreads⟩ :=
      convert_record h.wellFormed
    obtain ⟨body', hbodyReads', hbodyEq⟩ := h.body
    rw [recordRoots] at hvalidate
    simp only [h.header, h.keys, hvalidate, hpool, h.timestamp, h.observedTimestamp, h.severity,
      h.traceContext, hbody, hvalues, Checked.ok_bind, Except.ok.injEq]
    have hzip : (record.attributes.map Prod.fst).zip values = record.attributes := by
      rw [hreads.unique h.values]
      exact (List.zip_of_prod rfl rfl).symm
    rw [hbodyReads.unique hbodyReads', ← hbodyEq, hzip, ← h.severityText]
    have heventName := h.eventName
    have htarget := h.target
    cases record
    cases heventName
    cases htarget
    rfl

end OtelC.Logs
