import OtelC.Trace.AttributeReading
import OtelC.Trace.SpanReading

/-!
# What an exported batch denotes

Each record of a batch view is read as one span, with the attributes, events, links and scope that
belong to it.

* `denotes_of_convertSpan`: a record denotes the span that it was made of.
* `span_export_view_exact`: the storage that `convert_batch` leaves, read through its pointers, denotes
  the batch.
-/

namespace OtelC.SpanView

open Sdk (KeyValue InstrumentationScope Resource)
open Trace (SpanData SpanKind Status SpanFits timestampNanos spanExportMaxSpans readAttributesOf
  textOf SpellsOptional boolOf)
open Loops (agrees_ok_iff agrees_error_iff getElem?_map_of)

/-! ### Reading a record -/

/-- The kinds of spans by their codes. -/
def kindOf (code : UInt32) : Option SpanKind :=
  match code.toNat with
  | 0 => some .internal
  | 1 => some .server
  | 2 => some .client
  | 3 => some .producer
  | 4 => some .consumer
  | _ => none

/-- A status by its code; only an error has a message. -/
def statusOf (code : UInt32) (message : OtelStringView) : Option Status :=
  match code.toNat with
  | 0 => if message.len = 0 then some .unset else none
  | 1 => if message.len = 0 then some .ok else none
  | 2 => (textOf message).map Status.error
  | _ => none

structure ScopeDenotes (view : Trace.OtelSpanExportScopeView) (scope : InstrumentationScope) :
    Prop where
  name : textOf view.name = some scope.name
  version : SpellsOptional view.version scope.version
  schemaUrl : SpellsOptional view.schemaUrl scope.schemaUrl
  attributes : readAttributesOf view.attributes.read = some scope.attributes

structure EventDenotes (view : Trace.OtelSpanEventView) (event : Trace.Event) : Prop where
  name : textOf view.name = some event.name
  timestamp : event.timestamp = view.timestampUnixNanos.toNat
  attributes : readAttributesOf view.attributes.read = some event.attributes
  droppedAttributesCount : view.droppedAttributesCount = event.droppedAttributesCount

section Spans

variable {TraceState : Type} (header : TraceState → Str)

structure LinkDenotes (view : Trace.OtelSpanExportLinkView) (link : Trace.Link TraceState) :
    Prop where
  traceId : view.traceId = link.spanContext.traceId
  spanId : view.spanId = link.spanContext.spanId
  traceFlags : view.traceFlags = link.spanContext.traceFlags
  isRemote : boolOf view.isRemote = link.spanContext.isRemote
  traceState : textOf view.traceState = some (header link.spanContext.traceState)
  attributes : readAttributesOf view.attributes.read = some link.attributes
  droppedAttributesCount : view.droppedAttributesCount = link.droppedAttributesCount

structure RecordDenotes (view : Trace.OtelSpanExportRecordView) (span : SpanData TraceState) :
    Prop where
  name : textOf view.name = some span.name
  traceId : view.traceId = span.spanContext.traceId
  spanId : view.spanId = span.spanContext.spanId
  parentSpanId : view.parentSpanId = span.parentSpanId
  traceFlags : view.traceFlags = span.spanContext.traceFlags
  isRemote : boolOf view.isRemote = span.spanContext.isRemote
  spanKind : kindOf view.spanKind = some span.spanKind
  status : statusOf view.statusCode view.statusMessage = some span.status
  startTime : span.startTime = view.startTimeUnixNanos.toNat
  endTime : span.endTime = view.endTimeUnixNanos.toNat
  traceState : textOf view.traceState = some (header span.spanContext.traceState)
  attributes : readAttributesOf view.attributes.read = some span.attributes
  events : List.Forall₂ EventDenotes view.events.read span.events.events
  links : List.Forall₂ (LinkDenotes header) view.links.read span.links.links
  droppedAttributesCount : view.droppedAttributesCount = span.droppedAttributesCount
  droppedEventsCount : view.droppedEventsCount = span.events.droppedCount
  droppedLinksCount : view.droppedLinksCount = span.links.droppedCount
  scope : ∃ scope ∈ view.scope, ScopeDenotes scope span.instrumentationScope

structure BatchDenotes (view : Trace.OtelSpanExportBatchView) (spans : List (SpanData TraceState))
    (resource : Resource) : Prop where
  records : List.Forall₂ (RecordDenotes header) view.records.read spans
  resourceSchemaUrl : SpellsOptional view.resourceSchemaUrl resource.schemaUrl
  resourceAttributes : readAttributesOf view.resourceAttributes.read = some resource.attributes

variable {header}

/-! ### Records denote their spans -/

theorem kindOf_spanKind (kind : SpanKind) : kindOf (Trace.spanKind kind) = some kind := by
  cases kind <;> rfl

theorem statusOf_statusParts (status : Status) :
    statusOf (Trace.statusParts status).1 (Trace.statusParts status).2 = some status := by
  cases status with
  | unset => rfl
  | ok => rfl
  | error description =>
    show (textOf (viewOf description)).map Status.error = _
    rw [Trace.textOf_viewOf]
    rfl

theorem denotes_of_convertEvent {event : Trace.Event}
    {converted : Trace.OtelSpanEventView × List Trace.OtelSpanAttribute}
    (h : Trace.convertEvent event = .ok converted) :
    EventDenotes (Trace.patchEvent converted) event := by
  obtain ⟨timestamp, htimestamp, h⟩ := Checked.bind_eq_ok.mp h
  obtain rfl := Except.ok.inj h
  exact {
    name := Trace.textOf_viewOf event.name
    timestamp := Logs.nanosSinceEpoch_ok_iff.mp htimestamp
    attributes := Trace.readAttributesOf_convert event.attributes
    droppedAttributesCount := rfl }

theorem denotes_exportLink (link : Trace.Link TraceState) :
    LinkDenotes header (Trace.exportLink header link).patched link where
  traceId := rfl
  spanId := rfl
  traceFlags := rfl
  isRemote := Trace.boolOf_boolToU32 link.spanContext.isRemote
  traceState := Trace.textOf_viewOf _
  attributes := Trace.readAttributesOf_convert link.attributes
  droppedAttributesCount := rfl

theorem denotes_convertScope (scope : InstrumentationScope) :
    ScopeDenotes
      { (Trace.convertScope scope).1 with attributes := .elems (Trace.convertScope scope).2 }
      scope where
  name := Trace.textOf_viewOf scope.name
  version := Trace.textOf_optionalView scope.version
  schemaUrl := Trace.textOf_optionalView scope.schemaUrl
  attributes := Trace.readAttributesOf_convert scope.attributes

/-- **A record denotes the span that it was made of.** -/
theorem denotes_of_convertSpan {span : SpanData TraceState} {converted : Trace.ConvertedSpan}
    (h : Trace.convertSpan header span = .ok converted)
    {scopes : List Trace.OtelSpanExportScopeView} {i : Nat}
    (hscope : scopes[i]? = some converted.patchedScope) :
    RecordDenotes header (converted.patched scopes i) span := by
  obtain ⟨events, hevents, h⟩ := Checked.bind_eq_ok.mp h
  obtain ⟨startTime, hstart, h⟩ := Checked.bind_eq_ok.mp h
  obtain ⟨endTime, hend, h⟩ := Checked.bind_eq_ok.mp h
  obtain rfl := Except.ok.inj h
  have hallEvents : List.Forall₂ EventDenotes (events.map Trace.patchEvent) span.events.events := by
    rw [List.forall₂_map_left_iff]
    exact (Checked.mapM_eq_ok.mp hevents).flip.imp fun _ _ hevent => denotes_of_convertEvent hevent
  have hallLinks : List.Forall₂ (LinkDenotes header)
      ((span.links.links.map (Trace.exportLink header)).map Trace.ConvertedLink.patched)
      span.links.links := by
    rw [List.forall₂_map_left_iff, List.forall₂_map_left_iff, List.forall₂_same]
    exact fun link _ => denotes_exportLink link
  exact {
    name := Trace.textOf_viewOf span.name
    traceId := rfl
    spanId := rfl
    parentSpanId := rfl
    traceFlags := rfl
    isRemote := Trace.boolOf_boolToU32 span.spanContext.isRemote
    spanKind := kindOf_spanKind span.spanKind
    status := statusOf_statusParts span.status
    startTime := Logs.nanosSinceEpoch_ok_iff.mp hstart
    endTime := Logs.nanosSinceEpoch_ok_iff.mp hend
    traceState := Trace.textOf_viewOf _
    attributes := Trace.readAttributesOf_convert span.attributes
    events := hallEvents
    links := hallLinks
    droppedAttributesCount := rfl
    droppedEventsCount := rfl
    droppedLinksCount := rfl
    scope := ⟨_, hscope, denotes_convertScope span.instrumentationScope⟩ }

section Batch

variable {spans : List (SpanData TraceState)} {resource : Resource}

theorem denotes_of_convertBatch {view : Trace.OtelSpanExportBatchView}
    (h : Trace.convertBatch header spans resource = .ok view) :
    BatchDenotes header view spans resource := by
  obtain ⟨-, h⟩ := Checked.guard_eq_ok.mp h
  obtain ⟨converted, hconverted, h⟩ := Checked.bind_eq_ok.mp h
  obtain rfl := Except.ok.inj h
  have hspans := Checked.mapM_eq_ok.mp hconverted
  refine ⟨?_, Trace.textOf_optionalView resource.schemaUrl,
    Trace.readAttributesOf_convert resource.attributes⟩
  refine Loops.forall₂_mapIdx hspans.length_eq.symm fun i c span hc hspan => ?_
  obtain ⟨span', hspan', hconvert⟩ := Loops.forall₂_getElem? hspans hc
  obtain rfl := Option.some.inj (hspan.symm.trans hspan')
  exact denotes_of_convertSpan hconvert (getElem?_map_of hc)

/-! ### How a conversion fails -/

theorem status_of_timestampNanos {value : Logs.SystemTime} {what : String} {e : Fail}
    (h : timestampNanos value what = .error e) : e.status = .exportFailed := by
  rcases Checked.guard_eq_error.mp h with ⟨-, rfl⟩ | ⟨-, h⟩
  · rfl
  · rcases Checked.guard_eq_error.mp h with ⟨-, rfl⟩ | ⟨-, h⟩
    · rfl
    · cases h

theorem status_of_convertSpan {span : SpanData TraceState} {e : Fail}
    (h : Trace.convertSpan header span = .error e) : e.status = .exportFailed := by
  rcases Checked.bind_eq_error.mp h with hevents | ⟨events, -, h⟩
  · obtain ⟨event, -, hevent⟩ := Checked.mapM_eq_error hevents
    rcases Checked.bind_eq_error.mp hevent with htime | ⟨timestamp, -, hok⟩
    · exact status_of_timestampNanos htime
    · cases hok
  · rcases Checked.bind_eq_error.mp h with hstart | ⟨startTime, -, h⟩
    · exact status_of_timestampNanos hstart
    · rcases Checked.bind_eq_error.mp h with hend | ⟨endTime, -, hok⟩
      · exact status_of_timestampNanos hend
      · cases hok

theorem status_of_convertBatch {e : Fail} (h : Trace.convertBatch header spans resource = .error e) :
    e.status = .exportFailed := by
  rcases Checked.guard_eq_error.mp h with ⟨-, rfl⟩ | ⟨-, h⟩
  · rfl
  · rcases Checked.bind_eq_error.mp h with hspans | ⟨converted, -, hok⟩
    · obtain ⟨span, -, hspan⟩ := Checked.mapM_eq_error hspans
      exact status_of_convertSpan hspan
    · cases hok

end Batch

/-- **The exported view is faithful**: a batch is refused as a whole when one of its times has no
nanoseconds since the epoch, and else every pointer of its view leads to what the span, the event or
the link has itself. -/
theorem span_export_view_exact (header : TraceState → Str) (spans : List (SpanData TraceState))
    (resource : Resource) (hcount : spans.length ≤ spanExportMaxSpans) :
    ((∃ span ∈ spans, ¬SpanFits span) →
      ∃ e, convertBatch header spans resource = .error e ∧ e.status = .exportFailed) ∧
    ((∀ span ∈ spans, SpanFits span) →
      ∃ storage view, convertBatch header spans resource = .ok storage ∧
        storage.read = some view ∧ BatchDenotes header view spans resource) := by
  have hagrees : Loops.Agrees (fun storage view => SpanExportViewStorage.read storage = some view)
      (convertBatch header spans resource) (Trace.convertBatch header spans resource) :=
    convertBatch_agrees
  constructor
  · rintro ⟨span, hspan, hfit⟩
    cases hconvert : Trace.convertBatch header spans resource with
    | ok view =>
      have hall := (Trace.convertBatch_ok_iff.mp ⟨view, hconvert⟩).2
      exact absurd (hall span hspan) hfit
    | error e =>
      rw [hconvert] at hagrees
      exact ⟨e, agrees_error_iff.mp hagrees, status_of_convertBatch hconvert⟩
  · intro hall
    obtain ⟨view, hconvert⟩ := Trace.convertBatch_ok_iff.mpr ⟨hcount, hall⟩
    rw [hconvert] at hagrees
    obtain ⟨storage, hstorage, hread⟩ := agrees_ok_iff.mp hagrees
    exact ⟨storage, view, hstorage, hread, denotes_of_convertBatch hconvert⟩

end Spans

/-- The entries of a trace state, spelled as in its header. -/
def entriesHeader (entries : List (Str × Str)) : Str :=
  List.intercalate [','] (entries.map fun entry => entry.1 ++ '=' :: entry.2)

/-- A span with an event and a link, which have attributes and trace states of their own. -/
def checkoutSpan : SpanData (List (Str × Str)) where
  spanContext := ⟨Bytes.zero 16, Bytes.zero 8, 1, false, [(lit "shop", lit "1")]⟩
  parentSpanId := Bytes.zero 8
  spanKind := .server
  name := lit "checkout"
  startTime := 10
  endTime := 20
  attributes := [⟨lit "codes", .array (.i64 [200, 204])⟩]
  droppedAttributesCount := 1
  events := ⟨[⟨lit "retry", 15, [⟨lit "hosts", .array (.string [lit "a", lit "b"])⟩], 2⟩], 3⟩
  links := ⟨[⟨⟨Bytes.zero 16, Bytes.zero 8, 0, true, [(lit "peer", lit "2")]⟩,
    [⟨lit "sampled", .array (.bool [true, false])⟩], 4⟩], 5⟩
  status := .error (lit "declined")
  instrumentationScope := ⟨lit "http", some (lit "1.0"), none, [⟨lit "beta", .bool true⟩]⟩

/-- A span that begins before the epoch when `startTime` is negative. -/
def querySpan (startTime : Logs.SystemTime) : SpanData (List (Str × Str)) where
  spanContext := ⟨Bytes.zero 16, Bytes.zero 8, 0, false, []⟩
  parentSpanId := Bytes.zero 8
  spanKind := .client
  name := lit "query"
  startTime := startTime
  endTime := 18
  attributes := [⟨lit "table", .string (lit "orders")⟩]
  droppedAttributesCount := 0
  events := ⟨[], 0⟩
  links := ⟨[], 0⟩
  status := .ok
  instrumentationScope := ⟨lit "sql", none, none, []⟩

theorem spanFits_checkoutSpan : SpanFits checkoutSpan where
  startTime := ⟨10, rfl⟩
  endTime := ⟨20, rfl⟩
  events := by
    intro event hevent
    obtain rfl := List.mem_singleton.mp hevent
    exact ⟨15, rfl⟩

theorem spanFits_querySpan : SpanFits (querySpan 12) where
  startTime := ⟨12, rfl⟩
  endTime := ⟨18, rfl⟩
  events := fun _ hevent => absurd hevent List.not_mem_nil

/-- Two spans are exported, and none when the second began before the epoch. -/
theorem span_export_view_exact_checkout :
    (∃ storage view,
      convertBatch entriesHeader [checkoutSpan, querySpan 12] ⟨none, []⟩ = .ok storage ∧
        storage.read = some view ∧
        BatchDenotes entriesHeader view [checkoutSpan, querySpan 12] ⟨none, []⟩) ∧
    ∃ e, convertBatch entriesHeader [checkoutSpan, querySpan (-1)] ⟨none, []⟩ = .error e ∧
      e.status = .exportFailed := by
  constructor
  · refine (span_export_view_exact entriesHeader [checkoutSpan, querySpan 12] ⟨none, []⟩
      (by decide)).2 fun span hspan => ?_
    rcases List.mem_pair.mp hspan with rfl | rfl
    · exact spanFits_checkoutSpan
    · exact spanFits_querySpan
  · refine (span_export_view_exact entriesHeader [checkoutSpan, querySpan (-1)] ⟨none, []⟩
      (by decide)).1 ⟨querySpan (-1), by simp, fun hfit => ?_⟩
    obtain ⟨n, hn⟩ := hfit.startTime
    change (-1 : Int) = n.toNat at hn
    omega

end OtelC.SpanView
