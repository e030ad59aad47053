import OtelC.Logs.Export
import OtelC.Sdk.Resource
import OtelC.Trace.StartSpan

/-!
# Exporting a batch of spans

A custom trace exporter is called with one borrowed view of a batch.  Only a batch that is too large or a
time that has no nanoseconds since the epoch makes the conversion fail.  The SDK's trace states belong to
another package; `header` spells one.

* `convertBatch_ok_iff`: when a batch is converted.
-/

namespace OtelC.Trace

open Sdk Logs

/-! ### Spans -/

/-- `opentelemetry::trace::Status`. -/
inductive Status where
  | unset
  | error (description : Str)
  | ok

/-- `opentelemetry::trace::Event`. -/
structure Event where
  name : Str
  timestamp : SystemTime
  attributes : List KeyValue
  droppedAttributesCount : UInt32

/-- `opentelemetry::trace::Link`. -/
structure Link (TraceState : Type) where
  spanContext : SdkSpanContext TraceState
  attributes : List KeyValue
  droppedAttributesCount : UInt32

structure SpanEvents where
  events : List Event
  droppedCount : UInt32

structure SpanLinks (TraceState : Type) where
  links : List (Link TraceState)
  droppedCount : UInt32

/-- `opentelemetry_sdk::trace::SpanData`. -/
structure SpanData (TraceState : Type) where
  spanContext : SdkSpanContext TraceState
  parentSpanId : Bytes 8
  spanKind : SpanKind
  name : Str
  startTime : SystemTime
  endTime : SystemTime
  attributes : List KeyValue
  droppedAttributesCount : UInt32
  events : SpanEvents
  links : SpanLinks TraceState
  status : Status
  instrumentationScope : InstrumentationScope

/-! ### The exported view -/

/-- `OTEL_SPAN_EXPORT_MAX_SPANS`. -/
def spanExportMaxSpans : Nat := 65536

/-- An array of the element type that the tag of its attribute names. -/
structure OtelSpanArrayView where
  strings : CSlice OtelStringView := .null 0
  bools : CSlice UInt32 := .null 0
  ints : CSlice Int64 := .null 0
  doubles : CSlice F64Bits := .null 0

structure OtelSpanAttributeValue where
  scalar : OtelAttributeValue := ⟨.null 0, 0, 0, 0⟩
  array : OtelSpanArrayView := {}

structure OtelSpanAttribute where
  key : OtelStringView
  valueType : UInt32
  value : OtelSpanAttributeValue

structure OtelSpanEventView where
  structSize : UInt64
  name : OtelStringView
  timestampUnixNanos : UInt64
  attributes : CSlice OtelSpanAttribute
  droppedAttributesCount : UInt32
  reservedFlags : UInt32
  reserved : List UInt64

structure OtelSpanExportLinkView where
  structSize : UInt64
  traceId : Bytes 16
  spanId : Bytes 8
  traceFlags : UInt8
  reservedPadding : Bytes 3
  isRemote : UInt32
  traceState : OtelStringView
  attributes : CSlice OtelSpanAttribute
  droppedAttributesCount : UInt32
  reservedFlags : UInt32
  reserved : List UInt64

structure OtelSpanExportScopeView where
  structSize : UInt64
  name : OtelStringView
  version : OtelStringView
  schemaUrl : OtelStringView
  attributes : CSlice OtelSpanAttribute
  reserved : List UInt64

structure OtelSpanExportRecordView where
  structSize : UInt64
  name : OtelStringView
  traceId : Bytes 16
  spanId : Bytes 8
  parentSpanId : Bytes 8
  traceFlags : UInt8
  reservedPadding : Bytes 3
  isRemote : UInt32
  spanKind : UInt32
  statusCode : UInt32
  startTimeUnixNanos : UInt64
  endTimeUnixNanos : UInt64
  statusMessage : OtelStringView
  traceState : OtelStringView
  attributes : CSlice OtelSpanAttribute
  events : CSlice OtelSpanEventView
  links : CSlice OtelSpanExportLinkView
  droppedAttributesCount : UInt32
  droppedEventsCount : UInt32
  droppedLinksCount : UInt32
  reservedFlags : UInt32
  scope : Option OtelSpanExportScopeView
  reserved : List UInt64

structure OtelSpanExportBatchView where
  structSize : UInt64
  records : CSlice OtelSpanExportRecordView
  resourceSchemaUrl : OtelStringView
  resourceAttributes : CSlice OtelSpanAttribute
  reserved : List UInt64

/-! ### Converting the parts of a span -/

/-- `timestamp_nanos`. -/
def timestampNanos (value : SystemTime) (what : String) : Except Fail UInt64 :=
  nanosSinceEpoch .exportFailed s!"exported span {what} predates the Unix epoch"
    s!"exported span {what} exceeds the u64 range" value

/-- `span_kind`. -/
def spanKind : SpanKind → UInt32
  | .internal => 0
  | .server => 1
  | .client => 2
  | .producer => 3
  | .consumer => 4

/-- `status_parts`. -/
def statusParts : Status → UInt32 × OtelStringView
  | .unset => (0, emptyView)
  | .ok => (1, emptyView)
  | .error description => (2, viewOf description)

/-- `u32::from` on a Boolean. -/
def boolToU32 (b : Bool) : UInt32 := if b then 1 else 0

/-- The tag and the payload of an attribute, in `convert_attribute_parts`. -/
def convertAttributeParts : Value → UInt32 × OtelSpanAttributeValue
  | .string s => (0, { scalar := ⟨viewOf s, 0, 0, 0⟩ })
  | .bool b => (1, { scalar := ⟨.null 0, boolToU32 b, 0, 0⟩ })
  | .i64 n => (2, { scalar := ⟨.null 0, 0, n, 0⟩ })
  | .f64 x => (3, { scalar := ⟨.null 0, 0, 0, x⟩ })
  | .array (.string values) => (4, { array := { strings := .elems (values.map viewOf) } })
  | .array (.bool values) => (5, { array := { bools := .elems (values.map boolToU32) } })
  | .array (.i64 values) => (6, { array := { ints := .elems values } })
  | .array (.f64 values) => (7, { array := { doubles := .elems values } })

/-- `convert_key_values`, and `convert_resource_attributes`. -/
def convertKeyValues (attributes : List KeyValue) : List OtelSpanAttribute :=
  attributes.map fun kv =>
    ⟨viewOf kv.key, (convertAttributeParts kv.value).1, (convertAttributeParts kv.value).2⟩

/-- `optional_string_view`. -/
def optionalView (value : Option Str) : OtelStringView := (value.map viewOf).getD emptyView

/-- `convert_scope`: the view, and the attributes that it will point to. -/
def convertScope (scope : InstrumentationScope) :
    OtelSpanExportScopeView × List OtelSpanAttribute :=
  let attributes := convertKeyValues scope.attributes
  ({  structSize := 88
      name := viewOf scope.name
      version := optionalView scope.version
      schemaUrl := optionalView scope.schemaUrl
      attributes := .null attributes.length
      reserved := [0, 0] }, attributes)

/-- One turn of `convert_events`. -/
def convertEvent (event : Event) : Except Fail (OtelSpanEventView × List OtelSpanAttribute) := do
  let attributes := convertKeyValues event.attributes
  let timestamp ← timestampNanos event.timestamp "event timestamp"
  .ok ({
    structSize := 72
    name := viewOf event.name
    timestampUnixNanos := timestamp
    attributes := .null attributes.length
    droppedAttributesCount := event.droppedAttributesCount
    reservedFlags := 0
    reserved := [0, 0] }, attributes)

/-- What `convert_links` makes of one link. -/
structure ConvertedLink where
  view : OtelSpanExportLinkView
  attributes : List OtelSpanAttribute
  traceState : Str

/-- What `convert_batch` makes of one span before it takes interior pointers. -/
structure ConvertedSpan where
  scope : OtelSpanExportScopeView
  scopeAttributes : List OtelSpanAttribute
  record : OtelSpanExportRecordView
  recordAttributes : List OtelSpanAttribute
  events : List (OtelSpanEventView × List OtelSpanAttribute)
  links : List ConvertedLink
  recordTraceState : Str

/-! ### Interior pointers -/

/-- A view of an event with its attributes. -/
def patchEvent (event : OtelSpanEventView × List OtelSpanAttribute) : OtelSpanEventView :=
  { event.1 with attributes := .elems event.2 }

def ConvertedLink.patched (link : ConvertedLink) : OtelSpanExportLinkView :=
  { link.view with
    attributes := .elems link.attributes
    traceState := viewOf link.traceState }

def ConvertedSpan.patchedScope (span : ConvertedSpan) : OtelSpanExportScopeView :=
  { span.scope with attributes := .elems span.scopeAttributes }

/-- The record at an index, whose scope is the one at the same index. -/
def ConvertedSpan.patched (scopes : List OtelSpanExportScopeView) (i : Nat) (span : ConvertedSpan) :
    OtelSpanExportRecordView :=
  { span.record with
    attributes := .elems span.recordAttributes
    events := .elems (span.events.map patchEvent)
    links := .elems (span.links.map ConvertedLink.patched)
    traceState := viewOf span.recordTraceState
    scope := scopes[i]? }

/-! ### Converting a batch -/

section Spans

variable {TraceState : Type} (header : TraceState → Str)

/-- One turn of `convert_links`. -/
def exportLink (link : Link TraceState) : ConvertedLink :=
  let attributes := convertKeyValues link.attributes
  { view := {
      structSize := 96
      traceId := link.spanContext.traceId
      spanId := link.spanContext.spanId
      traceFlags := link.spanContext.traceFlags
      reservedPadding := Bytes.zero 3
      isRemote := boolToU32 link.spanContext.isRemote
      traceState := emptyView
      attributes := .null attributes.length
      droppedAttributesCount := link.droppedAttributesCount
      reservedFlags := 0
      reserved := [0, 0] }
    attributes := attributes
    traceState := header link.spanContext.traceState }

/-- One turn of the loop of `convert_batch`. -/
def convertSpan (span : SpanData TraceState) : Except Fail ConvertedSpan := do
  let scope := convertScope span.instrumentationScope
  let attributes := convertKeyValues span.attributes
  let events ← span.events.events.mapM convertEvent
  let links := span.links.links.map (exportLink header)
  let status := statusParts span.status
  let startTime ← timestampNanos span.startTime "start time"
  let endTime ← timestampNanos span.endTime "end time"
  .ok {
    scope := scope.1
    scopeAttributes := scope.2
    record := {
      structSize := 224
      name := viewOf span.name
      traceId := span.spanContext.traceId
      spanId := span.spanContext.spanId
      parentSpanId := span.parentSpanId
      traceFlags := span.spanContext.traceFlags
      reservedPadding := Bytes.zero 3
      isRemote := boolToU32 span.spanContext.isRemote
      spanKind := spanKind span.spanKind
      statusCode := status.1
      startTimeUnixNanos := startTime
      endTimeUnixNanos := endTime
      statusMessage := status.2
      traceState := emptyView
      attributes := .null attributes.length
      events := .null events.length
      links := .null links.length
      droppedAttributesCount := span.droppedAttributesCount
      droppedEventsCount := span.events.droppedCount
      droppedLinksCount := span.links.droppedCount
      reservedFlags := 0
      scope := none
      reserved := [0, 0, 0, 0] }
    recordAttributes := attributes
    events := events
    links := links
    recordTraceState := header span.spanContext.traceState }

/-- `convert_batch`. -/
def convertBatch (spans : List (SpanData TraceState)) (resource : Resource) :
    Except Fail OtelSpanExportBatchView :=
  if spans.length > spanExportMaxSpans then
    fail .exportFailed s!"exported span batch carries more than {spanExportMaxSpans} spans"
  else do
    let converted ← spans.mapM (convertSpan header)
    .ok {
      structSize := 88
      records := .elems
        (converted.mapIdx (ConvertedSpan.patched (converted.map ConvertedSpan.patchedScope)))
      resourceSchemaUrl := optionalView resource.schemaUrl
      resourceAttributes := .elems (convertKeyValues resource.attributes)
      reserved := [0, 0, 0, 0] }

/-! ### When a batch is converted -/

/-- A time that has nanoseconds since the epoch. -/
def Representable (time : SystemTime) : Prop := ∃ nanos : UInt64, time = nanos.toNat

/-- A span whose times the view has fields for. -/
structure SpanFits (span : SpanData TraceState) : Prop where
  startTime : Representable span.startTime
  endTime : Representable span.endTime
  events : ∀ event ∈ span.events.events, Representable event.timestamp

theorem convertEvent_ok_iff {event : Event} :
    (∃ view, convertEvent event = .ok view) ↔ Representable event.timestamp := by
  constructor
  · intro h
    obtain ⟨view, h⟩ := h
    obtain ⟨nanos, hnanos, -⟩ := Checked.bind_eq_ok.mp h
    exact ⟨nanos, nanosSinceEpoch_ok_iff.mp hnanos⟩
  · intro h
    obtain ⟨nanos, hnanos⟩ := h
    exact ⟨_, Checked.bind_eq_ok.mpr ⟨nanos, nanosSinceEpoch_ok_iff.mpr hnanos, rfl⟩⟩

variable {header}

theorem convertSpan_ok_iff {span : SpanData TraceState} :
    (∃ view, convertSpan header span = .ok view) ↔ SpanFits span := by
  constructor
  · intro h
    obtain ⟨view, h⟩ := h
    obtain ⟨events, hevents, h⟩ := Checked.bind_eq_ok.mp h
    obtain ⟨startTime, hstart, h⟩ := Checked.bind_eq_ok.mp h
    obtain ⟨endTime, hend, -⟩ := Checked.bind_eq_ok.mp h
    refine ⟨⟨_, nanosSinceEpoch_ok_iff.mp hstart⟩, ⟨_, nanosSinceEpoch_ok_iff.mp hend⟩, ?_⟩
    intro event hevent
    exact convertEvent_ok_iff.mp (Checked.mapM_ok_iff.mp ⟨events, hevents⟩ event hevent)
  · intro h
    obtain ⟨startTime, hstart⟩ := h.startTime
    obtain ⟨endTime, hend⟩ := h.endTime
    obtain ⟨events, hevents⟩ :=
      Checked.mapM_ok_iff.mpr fun event hevent => convertEvent_ok_iff.mpr (h.events event hevent)
    exact ⟨_, Checked.bind_eq_ok.mpr ⟨events, hevents,
      Checked.bind_eq_ok.mpr ⟨startTime, nanosSinceEpoch_ok_iff.mpr hstart,
      Checked.bind_eq_ok.mpr ⟨endTime, nanosSinceEpoch_ok_iff.mpr hend, rfl⟩⟩⟩⟩

/-- **When a batch of spans is converted.** -/
theorem convertBatch_ok_iff {spans : List (SpanData TraceState)} {resource : Resource} :
    (∃ view, convertBatch header spans resource = .ok view) ↔
      spans.length ≤ spanExportMaxSpans ∧ ∀ span ∈ spans, SpanFits span := by
  constructor
  · intro h
    obtain ⟨view, h⟩ := h
    obtain ⟨hcount, h⟩ := Checked.guard_eq_ok.mp h
    obtain ⟨records, hrecords, -⟩ := Checked.bind_eq_ok.mp h
    refine ⟨Nat.le_of_not_gt hcount, fun span hspan => ?_⟩
    exact convertSpan_ok_iff.mp (Checked.mapM_ok_iff.mp ⟨records, hrecords⟩ span hspan)
  · intro h
    obtain ⟨hcount, hspans⟩ := h
    obtain ⟨records, hrecords⟩ : ∃ records, spans.mapM (convertSpan header) = .ok records :=
      Checked.mapM_ok_iff.mpr fun span hspan => convertSpan_ok_iff.mpr (hspans span hspan)
    exact ⟨_, Checked.guard_eq_ok.mpr ⟨Nat.not_lt.mpr hcount,
      Checked.bind_eq_ok.mpr ⟨records, hrecords, rfl⟩⟩⟩

end Spans

end OtelC.Trace
