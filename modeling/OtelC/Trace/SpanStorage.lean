import OtelC.Lib.Loops
import OtelC.Trace.SpanExport

/-!
# The storage behind an exported batch

`convert_batch` fills ten vectors, one entry in each for every span, and then goes through them by
index to put the interior pointers in.  A pointer into the storage is named by the vector whose buffer
it points to; what belongs to a span is borrowed and stands for itself.

`SpanExport` has the view that a callback reads through these pointers.
-/

namespace OtelC.SpanView

open Sdk (F64Bits KeyValue Value OtelAttributeValue InstrumentationScope Resource)
open Trace (SpanEvents SpanLinks SpanData timestampNanos spanKind statusParts boolToU32
  spanExportMaxSpans optionalView)
open Logs (emptyView)

/-! ### Pointers -/

/-- The start of an attribute vector of the storage. -/
inductive AttributesPtr where
  | null
  | resource
  | scope (i : Nat)
  | record (i : Nat)
  | event (i j : Nat)
  | link (i j : Nat)

/-- The start of the event views or the link views of a record, or the scope of one. -/
inductive RecordPtr where
  | null
  | record (i : Nat)

inductive RecordsPtr where
  | null
  | records

/-- The values of an array.  Texts and Booleans are kept beside the attribute that they belong to, in
vectors whose buffers stay where they are; numbers are the span's own. -/
inductive ArrayPtr where
  | strings (k : Nat)
  | bools (k : Nat)
  | ints (values : List Int64)
  | doubles (values : List F64Bits)

/-- A string view, borrowed or of a trace state in the storage. -/
inductive TextView where
  | borrowed (view : OtelStringView)
  | recordTraceState (i len : Nat)
  | linkTraceState (i j len : Nat)

/-! ### Views with pointers -/

structure OtelSpanArrayView where
  values : ArrayPtr
  count : Nat

inductive OtelSpanAttributeValue where
  | scalar (value : OtelAttributeValue)
  | array (view : OtelSpanArrayView)

structure OtelSpanAttribute where
  key : OtelStringView
  valueType : UInt32
  value : OtelSpanAttributeValue

structure OtelSpanEventView where
  structSize : UInt64
  name : OtelStringView
  timestampUnixNanos : UInt64
  attributes : AttributesPtr
  attributeCount : Nat
  droppedAttributesCount : UInt32
  reservedFlags : UInt32
  reserved : List UInt64

structure OtelSpanExportLinkView where
  structSize : UInt64
  traceId : Bytes 16
  spanId : Bytes 8
  traceFlags : UInt8
  reservedPadding : Bytes 3
  isRemote : UInt32
  traceState : TextView
  attributes : AttributesPtr
  attributeCount : Nat
  droppedAttributesCount : UInt32
  reservedFlags : UInt32
  reserved : List UInt64

structure OtelSpanExportScopeView where
  structSize : UInt64
  name : OtelStringView
  version : OtelStringView
  schemaUrl : OtelStringView
  attributes : AttributesPtr
  attributeCount : Nat
  reserved : List UInt64

structure OtelSpanExportRecordView where
  structSize : UInt64
  name : OtelStringView
  traceId : Bytes 16
  spanId : Bytes 8
  parentSpanId : Bytes 8
  traceFlags : UInt8
  reservedPadding : Bytes 3
  isRemote : UInt32
  spanKind : UInt32
  statusCode : UInt32
  startTimeUnixNanos : UInt64
  endTimeUnixNanos : UInt64
  statusMessage : OtelStringView
  traceState : TextView
  attributes : AttributesPtr
  attributeCount : Nat
  events : RecordPtr
  eventCount : Nat
  links : RecordPtr
  linkCount : Nat
  droppedAttributesCount : UInt32
  droppedEventsCount : UInt32
  droppedLinksCount : UInt32
  reservedFlags : UInt32
  scope : RecordPtr
  reserved : List UInt64

structure OtelSpanExportBatchView where
  structSize : UInt64
  records : RecordsPtr
  recordCount : Nat
  resourceSchemaUrl : OtelStringView
  resourceAttributes : AttributesPtr
  resourceAttributeCount : Nat
  reserved : List UInt64

/-! ### Attributes -/

structure ConvertedAttributes where
  attributes : List OtelSpanAttribute := []
  boolArrays : List (List UInt32) := []
  stringArrays : List (List OtelStringView) := []

def ConvertedAttributes.push (out : ConvertedAttributes) (key : Str) (valueType : UInt32)
    (value : OtelSpanAttributeValue) : ConvertedAttributes :=
  { out with attributes := out.attributes ++ [⟨viewOf key, valueType, value⟩] }

/-- `convert_attribute_parts`. -/
def convertAttributeParts (key : Str) (value : Value) (out : ConvertedAttributes) :
    ConvertedAttributes :=
  match value with
  | .string s => out.push key 0 (.scalar ⟨viewOf s, 0, 0, 0⟩)
  | .bool b => out.push key 1 (.scalar ⟨.null 0, boolToU32 b, 0, 0⟩)
  | .i64 n => out.push key 2 (.scalar ⟨.null 0, 0, n, 0⟩)
  | .f64 x => out.push key 3 (.scalar ⟨.null 0, 0, 0, x⟩)
  | .array (.string values) =>
    let views := values.map viewOf
    let out := { out with stringArrays := out.stringArrays ++ [views] }
    out.push key 4 (.array ⟨.strings (out.stringArrays.length - 1), views.length⟩)
  | .array (.bool values) =>
    let bools := values.map boolToU32
    let out := { out with boolArrays := out.boolArrays ++ [bools] }
    out.push key 5 (.array ⟨.bools (out.boolArrays.length - 1), bools.length⟩)
  | .array (.i64 values) => out.push key 6 (.array ⟨.ints values, values.length⟩)
  | .array (.f64 values) => out.push key 7 (.array ⟨.doubles values, values.length⟩)

/-- `convert_key_values`. -/
def convertKeyValues (values : List KeyValue) : ConvertedAttributes :=
  values.foldl (fun out kv => convertAttributeParts kv.key kv.value out) {}

/-- `convert_resource_attributes`. -/
def convertResourceAttributes (resource : Resource) : ConvertedAttributes :=
  resource.attributes.foldl (fun out kv => convertAttributeParts kv.key kv.value out) {}

/-! ### The parts of a span -/

/-- `convert_scope`. -/
def convertScope (scope : InstrumentationScope) : OtelSpanExportScopeView × ConvertedAttributes :=
  let attributes := convertKeyValues scope.attributes
  ({  structSize := 88
      name := viewOf scope.name
      version := optionalView scope.version
      schemaUrl := optionalView scope.schemaUrl
      attributes := .null
      attributeCount := attributes.attributes.length
      reserved := [0, 0] }, attributes)

/-- What `convert_events` returns, a list of attributes for each view. -/
structure ConvertedEvents where
  views : List OtelSpanEventView
  attributes : List ConvertedAttributes
  aligned : attributes.length = views.length

def ConvertedEvents.empty : ConvertedEvents := ⟨[], [], rfl⟩

def ConvertedEvents.push (out : ConvertedEvents) (view : OtelSpanEventView)
    (attributes : ConvertedAttributes) : ConvertedEvents where
  views := out.views ++ [view]
  attributes := out.attributes ++ [attributes]
  aligned := by simp [out.aligned]

/-- One turn of `convert_events`. -/
def convertEvent (out : ConvertedEvents) (event : Trace.Event) : Except Fail ConvertedEvents := do
  let converted := convertKeyValues event.attributes
  let timestamp ← timestampNanos event.timestamp "event timestamp"
  .ok (out.push {
    structSize := 72
    name := viewOf event.name
    timestampUnixNanos := timestamp
    attributes := .null
    attributeCount := converted.attributes.length
    droppedAttributesCount := event.droppedAttributesCount
    reservedFlags := 0
    reserved := [0, 0] } converted)

/-- `convert_events`. -/
def convertEvents (events : SpanEvents) : Except Fail ConvertedEvents :=
  events.events.foldlM convertEvent .empty

/-- What `convert_links` returns, with the attributes and the trace state of each view. -/
structure ConvertedLinks where
  views : List OtelSpanExportLinkView
  attributes : List ConvertedAttributes
  traceStates : List Str
  aligned : attributes.length = views.length
  alignedStates : traceStates.length = views.length

def ConvertedLinks.empty : ConvertedLinks := ⟨[], [], [], rfl, rfl⟩

def ConvertedLinks.push (out : ConvertedLinks) (view : OtelSpanExportLinkView)
    (attributes : ConvertedAttributes) (traceState : Str) : ConvertedLinks where
  views := out.views ++ [view]
  attributes := out.attributes ++ [attributes]
  traceStates := out.traceStates ++ [traceState]
  aligned := by simp [out.aligned]
  alignedStates := by simp [out.alignedStates]

/-- What the loop of `convert_batch` computes for one span. -/
structure ConvertedSpan where
  scope : OtelSpanExportScopeView
  scopeAttributes : ConvertedAttributes
  record : OtelSpanExportRecordView
  recordAttributes : ConvertedAttributes
  events : ConvertedEvents
  links : ConvertedLinks
  traceState : Str

section Spans

variable {TraceState : Type} (header : TraceState → Str)

/-- One turn of `convert_links`. -/
def convertLink (out : ConvertedLinks) (link : Trace.Link TraceState) : ConvertedLinks :=
  let converted := convertKeyValues link.attributes
  out.push {
    structSize := 96
    traceId := link.spanContext.traceId
    spanId := link.spanContext.spanId
    traceFlags := link.spanContext.traceFlags
    reservedPadding := Bytes.zero 3
    isRemote := boolToU32 link.spanContext.isRemote
    traceState := .borrowed emptyView
    attributes := .null
    attributeCount := converted.attributes.length
    droppedAttributesCount := link.droppedAttributesCount
    reservedFlags := 0
    reserved := [0, 0] } converted (header link.spanContext.traceState)

/-- `convert_links`. -/
def convertLinks (links : SpanLinks TraceState) : ConvertedLinks :=
  links.links.foldl (convertLink header) .empty

/-- One turn of the loop of `convert_batch`, up to its pushes. -/
def convertSpan (span : SpanData TraceState) : Except Fail ConvertedSpan := do
  let scope := convertScope span.instrumentationScope
  let attributes := convertKeyValues span.attributes
  let events ← convertEvents span.events
  let links := convertLinks header span.links
  let status := statusParts span.status
  let startTime ← timestampNanos span.startTime "start time"
  let endTime ← timestampNanos span.endTime "end time"
  .ok {
    scope := scope.1
    scopeAttributes := scope.2
    record := {
      structSize := 224
      name := viewOf span.name
      traceId := span.spanContext.traceId
      spanId := span.spanContext.spanId
      parentSpanId := span.parentSpanId
      traceFlags := span.spanContext.traceFlags
      reservedPadding := Bytes.zero 3
      isRemote := boolToU32 span.spanContext.isRemote
      spanKind := spanKind span.spanKind
      statusCode := status.1
      startTimeUnixNanos := startTime
      endTimeUnixNanos := endTime
      statusMessage := status.2
      traceState := .borrowed emptyView
      attributes := .null
      attributeCount := attributes.attributes.length
      events := .null
      eventCount := events.views.length
      links := .null
      linkCount := links.views.length
      droppedAttributesCount := span.droppedAttributesCount
      droppedEventsCount := span.events.droppedCount
      droppedLinksCount := span.links.droppedCount
      reservedFlags := 0
      scope := .null
      reserved := [0, 0, 0, 0] }
    recordAttributes := attributes
    events := events
    links := links
    traceState := header span.spanContext.traceState }

end Spans

/-! ### The storage -/

structure SpanExportViewStorage where
  resourceAttributes : ConvertedAttributes
  scopeAttributes : List ConvertedAttributes := []
  recordAttributes : List ConvertedAttributes := []
  eventAttributes : List (List ConvertedAttributes) := []
  linkAttributes : List (List ConvertedAttributes) := []
  events : List (List OtelSpanEventView) := []
  links : List (List OtelSpanExportLinkView) := []
  scopes : List OtelSpanExportScopeView := []
  records : List OtelSpanExportRecordView := []
  recordTraceStates : List Str := []
  linkTraceStates : List (List Str) := []
  batch : OtelSpanExportBatchView

/-- The storage before the first span is pushed. -/
def SpanExportViewStorage.start (resource : Resource) : SpanExportViewStorage where
  resourceAttributes := convertResourceAttributes resource
  batch := {
    structSize := 88
    records := .null
    recordCount := 0
    resourceSchemaUrl := optionalView resource.schemaUrl
    resourceAttributes := .null
    resourceAttributeCount := 0
    reserved := [0, 0, 0, 0] }

/-- The ten pushes at the end of a turn. -/
def SpanExportViewStorage.push (s : SpanExportViewStorage) (span : ConvertedSpan) :
    SpanExportViewStorage :=
  { s with
    scopes := s.scopes ++ [span.scope]
    scopeAttributes := s.scopeAttributes ++ [span.scopeAttributes]
    records := s.records ++ [span.record]
    recordAttributes := s.recordAttributes ++ [span.recordAttributes]
    events := s.events ++ [span.events.views]
    eventAttributes := s.eventAttributes ++ [span.events.attributes]
    links := s.links ++ [span.links.views]
    linkAttributes := s.linkAttributes ++ [span.links.attributes]
    recordTraceStates := s.recordTraceStates ++ [span.traceState]
    linkTraceStates := s.linkTraceStates ++ [span.links.traceStates] }

/-! ### Interior pointers -/

/-- The loop over the scopes. -/
def linkScopes (s : SpanExportViewStorage) : Except Fail SpanExportViewStorage := do
  let scopes ← s.scopes.zipIdx.mapM fun entry => do
    let _ ← index s.scopeAttributes entry.2
    .ok { entry.1 with attributes := .scope entry.2 }
  .ok { s with scopes := scopes }

/-- The loop over the events of a record. -/
def linkEvents (s : SpanExportViewStorage) (i : Nat) : Except Fail (List OtelSpanEventView) := do
  let events ← index s.events i
  events.zipIdx.mapM fun entry => do
    let attributes ← index s.eventAttributes i
    let _ ← index attributes entry.2
    .ok { entry.1 with attributes := .event i entry.2 }

/-- The loop over the links of a record. -/
def linkLinks (s : SpanExportViewStorage) (i : Nat) : Except Fail (List OtelSpanExportLinkView) := do
  let links ← index s.links i
  links.zipIdx.mapM fun entry => do
    let attributes ← index s.linkAttributes i
    let _ ← index attributes entry.2
    let traceStates ← index s.linkTraceStates i
    let traceState ← index traceStates entry.2
    .ok { entry.1 with
      attributes := .link i entry.2
      traceState := .linkTraceState i entry.2 traceState.len }

/-- One turn of the loop over the records. -/
def linkRecord (s : SpanExportViewStorage) (i : Nat) : Except Fail SpanExportViewStorage := do
  let record ← index s.records i
  let _ ← index s.recordAttributes i
  let _ ← index s.events i
  let _ ← index s.links i
  let traceState ← index s.recordTraceStates i
  let events ← linkEvents s i
  let links ← linkLinks s i
  .ok { s with
    records := s.records.set i { record with
      attributes := .record i
      events := .record i
      links := .record i
      traceState := .recordTraceState i traceState.len
      scope := .record i }
    events := s.events.set i events
    links := s.links.set i links }

def linkBatch (s : SpanExportViewStorage) : SpanExportViewStorage :=
  { s with
    batch := { s.batch with
      records := .records
      recordCount := s.records.length
      resourceAttributes := .resource
      resourceAttributeCount := s.resourceAttributes.attributes.length } }

/-- The second pass of `convert_batch`. -/
def linkStorage (s : SpanExportViewStorage) : Except Fail SpanExportViewStorage := do
  let s ← linkScopes s
  let s ← (List.range s.records.length).foldlM linkRecord s
  .ok (linkBatch s)

/-- `convert_batch`. -/
def convertBatch {TraceState : Type} (header : TraceState → Str) (spans : List (SpanData TraceState))
    (resource : Resource) : Except Fail SpanExportViewStorage :=
  if spans.length > spanExportMaxSpans then
    fail .exportFailed s!"exported span batch carries more than {spanExportMaxSpans} spans"
  else do
    let filled ← spans.foldlM (fun s span => do
      let converted ← convertSpan header span
      .ok (s.push converted)) (.start resource)
    linkStorage filled

end OtelC.SpanView
