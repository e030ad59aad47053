import OtelC.Trace.SpanStorage

/-!
# Reading an exported batch through its pointers

What a callback finds when it follows the pointers of a batch view.  Both passes together leave the
view that `Trace.convertBatch` describes without pointers.

* `linkStorage_filled`: what the second pass leaves, whose indices never run out of a vector.
* `read_linked`: each pointer leads to what belongs to its own span, event or link.
* `convertBatch_agrees`: the storage, read, is the view.
-/

namespace OtelC.SpanView

open Sdk (F64Bits KeyValue Value InstrumentationScope Resource)
open Trace (SpanEvents SpanLinks SpanData timestampNanos boolToU32 spanExportMaxSpans)
open Loops (Agrees agrees_bind_same agrees_ok_iff agrees_error_iff getElem?_map_of
  getElem?_mapIdx_of)

/-! ### Following the pointers -/

/-- The first elements of a vector, each of them read. -/
def readSlice {α β : Type} (read : α → Option β) (values : List α) (count : Nat) :
    Option (CSlice β) :=
  if count ≤ values.length then ((values.take count).mapM read).map CSlice.elems else none

def ConvertedAttributes.readArray (c : ConvertedAttributes) (view : OtelSpanArrayView) :
    Option Trace.OtelSpanArrayView :=
  match view.values with
  | .strings k => do
    let strings ← readSlice some (← c.stringArrays[k]?) view.count
    some { strings }
  | .bools k => do
    let bools ← readSlice some (← c.boolArrays[k]?) view.count
    some { bools }
  | .ints values => do
    let ints ← readSlice some values view.count
    some { ints }
  | .doubles values => do
    let doubles ← readSlice some values view.count
    some { doubles }

def ConvertedAttributes.readValue (c : ConvertedAttributes) :
    OtelSpanAttributeValue → Option Trace.OtelSpanAttributeValue
  | .scalar value => some { scalar := value }
  | .array view => do
    let array ← c.readArray view
    some { array }

def ConvertedAttributes.readAttribute (c : ConvertedAttributes) (a : OtelSpanAttribute) :
    Option Trace.OtelSpanAttribute := do
  let value ← c.readValue a.value
  some ⟨a.key, a.valueType, value⟩

namespace SpanExportViewStorage

variable (s : SpanExportViewStorage)

/-- The vector with the buffer that a pointer leads to. -/
def attributesAt : AttributesPtr → Option ConvertedAttributes
  | .null => none
  | .resource => some s.resourceAttributes
  | .scope i => s.scopeAttributes[i]?
  | .record i => s.recordAttributes[i]?
  | .event i j => do (← s.eventAttributes[i]?)[j]?
  | .link i j => do (← s.linkAttributes[i]?)[j]?

def readAttributes (values : AttributesPtr) (count : Nat) :
    Option (CSlice Trace.OtelSpanAttribute) := do
  let c ← s.attributesAt values
  readSlice c.readAttribute c.attributes count

def readText : TextView → Option OtelStringView
  | .borrowed view => some view
  | .recordTraceState i len => do readSlice some (Utf8.encode (← s.recordTraceStates[i]?)) len
  | .linkTraceState i j len => do
    readSlice some (Utf8.encode (← (← s.linkTraceStates[i]?)[j]?)) len

end SpanExportViewStorage

/-- A view with what its pointers lead to. -/
def OtelSpanEventView.content (v : OtelSpanEventView) (attributes : CSlice Trace.OtelSpanAttribute) :
    Trace.OtelSpanEventView where
  structSize := v.structSize
  name := v.name
  timestampUnixNanos := v.timestampUnixNanos
  attributes := attributes
  droppedAttributesCount := v.droppedAttributesCount
  reservedFlags := v.reservedFlags
  reserved := v.reserved

def OtelSpanExportLinkView.content (v : OtelSpanExportLinkView) (traceState : OtelStringView)
    (attributes : CSlice Trace.OtelSpanAttribute) : Trace.OtelSpanExportLinkView where
  structSize := v.structSize
  traceId := v.traceId
  spanId := v.spanId
  traceFlags := v.traceFlags
  reservedPadding := v.reservedPadding
  isRemote := v.isRemote
  traceState := traceState
  attributes := attributes
  droppedAttributesCount := v.droppedAttributesCount
  reservedFlags := v.reservedFlags
  reserved := v.reserved

def OtelSpanExportScopeView.content (v : OtelSpanExportScopeView)
    (attributes : CSlice Trace.OtelSpanAttribute) : Trace.OtelSpanExportScopeView where
  structSize := v.structSize
  name := v.name
  version := v.version
  schemaUrl := v.schemaUrl
  attributes := attributes
  reserved := v.reserved

def OtelSpanExportRecordView.content (v : OtelSpanExportRecordView) (traceState : OtelStringView)
    (attributes : CSlice Trace.OtelSpanAttribute) (events : CSlice Trace.OtelSpanEventView)
    (links : CSlice Trace.OtelSpanExportLinkView) (scope : Option Trace.OtelSpanExportScopeView) :
    Trace.OtelSpanExportRecordView where
  structSize := v.structSize
  name := v.name
  traceId := v.traceId
  spanId := v.spanId
  parentSpanId := v.parentSpanId
  traceFlags := v.traceFlags
  reservedPadding := v.reservedPadding
  isRemote := v.isRemote
  spanKind := v.spanKind
  statusCode := v.statusCode
  startTimeUnixNanos := v.startTimeUnixNanos
  endTimeUnixNanos := v.endTimeUnixNanos
  statusMessage := v.statusMessage
  traceState := traceState
  attributes := attributes
  events := events
  links := links
  droppedAttributesCount := v.droppedAttributesCount
  droppedEventsCount := v.droppedEventsCount
  droppedLinksCount := v.droppedLinksCount
  reservedFlags := v.reservedFlags
  scope := scope
  reserved := v.reserved

namespace SpanExportViewStorage

variable (s : SpanExportViewStorage)

def readEvent (v : OtelSpanEventView) : Option Trace.OtelSpanEventView := do
  some (v.content (← s.readAttributes v.attributes v.attributeCount))

def readLink (v : OtelSpanExportLinkView) : Option Trace.OtelSpanExportLinkView := do
  some (v.content (← s.readText v.traceState) (← s.readAttributes v.attributes v.attributeCount))

def readEvents (count : Nat) : RecordPtr → Option (CSlice Trace.OtelSpanEventView)
  | .null => none
  | .record i => do readSlice s.readEvent (← s.events[i]?) count

def readLinks (count : Nat) : RecordPtr → Option (CSlice Trace.OtelSpanExportLinkView)
  | .null => none
  | .record i => do readSlice s.readLink (← s.links[i]?) count

def readScope : RecordPtr → Option Trace.OtelSpanExportScopeView
  | .null => none
  | .record i => do
    let v ← s.scopes[i]?
    some (v.content (← s.readAttributes v.attributes v.attributeCount))

def readRecord (v : OtelSpanExportRecordView) : Option Trace.OtelSpanExportRecordView := do
  some (v.content (← s.readText v.traceState) (← s.readAttributes v.attributes v.attributeCount)
    (← s.readEvents v.eventCount v.events) (← s.readLinks v.linkCount v.links)
    (some (← s.readScope v.scope)))

def readRecords (count : Nat) : RecordsPtr → Option (CSlice Trace.OtelSpanExportRecordView)
  | .null => none
  | .records => readSlice s.readRecord s.records count

/-- The batch as a callback reads it. -/
def read : Option Trace.OtelSpanExportBatchView := do
  some {
    structSize := s.batch.structSize
    records := ← s.readRecords s.batch.recordCount s.batch.records
    resourceSchemaUrl := s.batch.resourceSchemaUrl
    resourceAttributes :=
      ← s.readAttributes s.batch.resourceAttributes s.batch.resourceAttributeCount
    reserved := s.batch.reserved }

end SpanExportViewStorage

theorem readSlice_all {α β : Type} {read : α → Option β} {values : List α} {out : List β}
    (h : values.mapM read = some out) : readSlice read values values.length = some (.elems out) := by
  rw [readSlice, if_pos (Nat.le_refl _), List.take_length, h]
  rfl

theorem readSlice_some {α : Type} (values : List α) :
    readSlice some values values.length = some (.elems values) :=
  readSlice_all (Loops.mapM_some rfl fun i a b ha hb => by rw [← ha, hb])

theorem readSlice_map {α β : Type} (f : α → β) (values : List α) :
    readSlice some (values.map f) values.length = some (.elems (values.map f)) := by
  have hall := readSlice_some (values.map f)
  rwa [List.length_map] at hall

/-! ### Attributes -/

/-- The attributes, read, are these. -/
def AttributesMatch (c : ConvertedAttributes) (read : List Trace.OtelSpanAttribute) : Prop :=
  c.attributes.mapM c.readAttribute = some read

/-- Further arrays have been kept. -/
structure Extends (c c' : ConvertedAttributes) : Prop where
  strings : c.stringArrays <+: c'.stringArrays
  bools : c.boolArrays <+: c'.boolArrays

theorem getElem?_of_isPrefix {α : Type} {l m : List α} (h : l <+: m) {i : Nat} {a : α}
    (ha : l[i]? = some a) : m[i]? = some a := by
  obtain ⟨rest, rfl⟩ := h
  rw [List.getElem?_append_left (List.getElem?_eq_some_iff.mp ha).1]
  exact ha

theorem Extends.readArray {c c' : ConvertedAttributes} (h : Extends c c') {view : OtelSpanArrayView}
    {out : Trace.OtelSpanArrayView} (hread : c.readArray view = some out) :
    c'.readArray view = some out := by
  rcases view with ⟨values, count⟩
  cases values with
  | strings k =>
    obtain ⟨values, hvalues, hrest⟩ := Option.bind_eq_some_iff.mp hread
    exact Option.bind_eq_some_iff.mpr ⟨values, getElem?_of_isPrefix h.strings hvalues, hrest⟩
  | bools k =>
    obtain ⟨values, hvalues, hrest⟩ := Option.bind_eq_some_iff.mp hread
    exact Option.bind_eq_some_iff.mpr ⟨values, getElem?_of_isPrefix h.bools hvalues, hrest⟩
  | ints values => exact hread
  | doubles values => exact hread

theorem Extends.readAttribute {c c' : ConvertedAttributes} (h : Extends c c') (a : OtelSpanAttribute)
    (out : Trace.OtelSpanAttribute) (hread : c.readAttribute a = some out) :
    c'.readAttribute a = some out := by
  rcases a with ⟨key, valueType, value⟩
  cases value with
  | scalar value => exact hread
  | array view =>
    obtain ⟨value, hvalue, hrest⟩ := Option.bind_eq_some_iff.mp hread
    obtain ⟨array, harray, hvalue⟩ := Option.bind_eq_some_iff.mp hvalue
    exact Option.bind_eq_some_iff.mpr
      ⟨value, Option.bind_eq_some_iff.mpr ⟨array, h.readArray harray, hvalue⟩, hrest⟩

/-- An attribute is pushed, once its array has been kept. -/
theorem AttributesMatch.push {c : ConvertedAttributes} {read : List Trace.OtelSpanAttribute}
    (h : AttributesMatch c read) (c' : ConvertedAttributes)
    (hattributes : c'.attributes = c.attributes) (hext : Extends c c') {key : Str}
    {valueType : UInt32} {value : OtelSpanAttributeValue} {out : Trace.OtelSpanAttributeValue}
    (hvalue : c'.readValue value = some out) :
    AttributesMatch (c'.push key valueType value) (read ++ [⟨viewOf key, valueType, out⟩]) := by
  have hold : c.attributes.mapM c'.readAttribute = some read := Loops.mapM_mono hext.readAttribute h
  have hnew : c'.readAttribute ⟨viewOf key, valueType, value⟩ =
      some (Trace.OtelSpanAttribute.mk (viewOf key) valueType out) := by
    rw [ConvertedAttributes.readAttribute, hvalue]
    rfl
  show (c'.attributes ++ [OtelSpanAttribute.mk (viewOf key) valueType value]).mapM
    c'.readAttribute = _
  rw [hattributes, List.mapM_append, hold, List.mapM_cons, hnew]
  rfl

theorem AttributesMatch.convert {c : ConvertedAttributes} {read : List Trace.OtelSpanAttribute}
    (h : AttributesMatch c read) (key : Str) (value : Value) :
    AttributesMatch (convertAttributeParts key value c)
      (read ++ [⟨viewOf key, (Trace.convertAttributeParts value).1,
        (Trace.convertAttributeParts value).2⟩]) := by
  have hsame : Extends c c := ⟨List.prefix_rfl, List.prefix_rfl⟩
  cases value with
  | bool b => exact h.push c rfl hsame rfl
  | i64 n => exact h.push c rfl hsame rfl
  | f64 x => exact h.push c rfl hsame rfl
  | string s => exact h.push c rfl hsame rfl
  | array values =>
    cases values with
    | bool values =>
      refine h.push { c with boolArrays := c.boolArrays ++ [values.map boolToU32] } rfl
        ⟨List.prefix_rfl, List.prefix_append _ _⟩ ?_
      simp [ConvertedAttributes.readValue, ConvertedAttributes.readArray, readSlice_map,
        Trace.convertAttributeParts]
    | i64 values =>
      refine h.push c rfl hsame ?_
      simp [ConvertedAttributes.readValue, ConvertedAttributes.readArray, readSlice_some,
        Trace.convertAttributeParts]
    | f64 values =>
      refine h.push c rfl hsame ?_
      simp [ConvertedAttributes.readValue, ConvertedAttributes.readArray, readSlice_some,
        Trace.convertAttributeParts]
    | string values =>
      refine h.push { c with stringArrays := c.stringArrays ++ [values.map viewOf] } rfl
        ⟨List.prefix_append _ _, List.prefix_rfl⟩ ?_
      simp [ConvertedAttributes.readValue, ConvertedAttributes.readArray, readSlice_map,
        Trace.convertAttributeParts]

theorem attributesMatch_convert (attributes : List KeyValue) :
    AttributesMatch (convertKeyValues attributes) (Trace.convertKeyValues attributes) := by
  have hstep : ∀ (c : ConvertedAttributes) (read : List Trace.OtelSpanAttribute) (kv : KeyValue),
      AttributesMatch c read →
        AttributesMatch (convertAttributeParts kv.key kv.value c)
          (read ++ [⟨viewOf kv.key, (Trace.convertAttributeParts kv.value).1,
            (Trace.convertAttributeParts kv.value).2⟩]) :=
    fun c read kv h => h.convert kv.key kv.value
  have hstart : AttributesMatch {} [] := rfl
  have hall := Loops.collect (l := attributes) hstep hstart
  rwa [List.nil_append] at hall

/-! ### The parts of a span -/

structure EventMatches (view : OtelSpanEventView) (attributes : ConvertedAttributes)
    (converted : Trace.OtelSpanEventView × List Trace.OtelSpanAttribute) : Prop where
  content : ∀ shown, view.content shown = { converted.1 with attributes := shown }
  attributeCount : view.attributeCount = attributes.attributes.length
  attributes : AttributesMatch attributes converted.2

def EventsMatch (c : ConvertedEvents)
    (converted : List (Trace.OtelSpanEventView × List Trace.OtelSpanAttribute)) : Prop :=
  List.Forall₂ (fun entry => EventMatches entry.1 entry.2) (c.views.zip c.attributes) converted

structure LinkMatches (view : OtelSpanExportLinkView) (attributes : ConvertedAttributes)
    (traceState : Str) (converted : Trace.ConvertedLink) : Prop where
  content : ∀ spelled shown, view.content spelled shown =
    { converted.view with traceState := spelled, attributes := shown }
  attributeCount : view.attributeCount = attributes.attributes.length
  attributes : AttributesMatch attributes converted.attributes
  traceState : traceState = converted.traceState

def LinksMatch (c : ConvertedLinks) (converted : List Trace.ConvertedLink) : Prop :=
  List.Forall₂ (fun entry => LinkMatches entry.1 entry.2.1 entry.2.2)
    (c.views.zip (c.attributes.zip c.traceStates)) converted

/-- What the first pass makes of a span. -/
structure SpanMatches (c : ConvertedSpan) (converted : Trace.ConvertedSpan) : Prop where
  scope : ∀ shown, c.scope.content shown = { converted.scope with attributes := shown }
  scopeCount : c.scope.attributeCount = c.scopeAttributes.attributes.length
  scopeAttributes : AttributesMatch c.scopeAttributes converted.scopeAttributes
  record : ∀ spelled attributes events links scope,
    c.record.content spelled attributes events links scope =
      { converted.record with
        traceState := spelled
        attributes := attributes
        events := events
        links := links
        scope := scope }
  attributeCount : c.record.attributeCount = c.recordAttributes.attributes.length
  attributes : AttributesMatch c.recordAttributes converted.recordAttributes
  eventCount : c.record.eventCount = c.events.views.length
  events : EventsMatch c.events converted.events
  linkCount : c.record.linkCount = c.links.views.length
  links : LinksMatch c.links converted.links
  traceState : c.traceState = converted.recordTraceState

theorem convertEvent_agrees {c : ConvertedEvents}
    {done : List (Trace.OtelSpanEventView × List Trace.OtelSpanAttribute)} (h : EventsMatch c done)
    (event : Trace.Event) :
    Agrees (fun c' converted => EventsMatch c' (done ++ [converted])) (convertEvent c event)
      (Trace.convertEvent event) := by
  refine agrees_bind_same fun timestamp _ => ?_
  show List.Forall₂ _ ((c.views ++ [_]).zip (c.attributes ++ [_])) _
  rw [List.zip_append c.aligned.symm]
  exact List.rel_append h
    (.cons ⟨fun _ => rfl, rfl, attributesMatch_convert event.attributes⟩ .nil)

theorem convertEvents_agrees (events : SpanEvents) :
    Agrees EventsMatch (convertEvents events) (events.events.mapM Trace.convertEvent) := by
  have hstart : EventsMatch .empty [] := .nil
  exact Agrees.collect (R := EventsMatch) (fun c done event h => convertEvent_agrees h event) hstart

section Spans

variable {TraceState : Type} {header : TraceState → Str}

theorem convertLink_matches {c : ConvertedLinks} {done : List Trace.ConvertedLink}
    (h : LinksMatch c done) (link : Trace.Link TraceState) :
    LinksMatch (convertLink header c link) (done ++ [Trace.exportLink header link]) := by
  have hzip : (c.attributes ++ [convertKeyValues link.attributes]).zip
      (c.traceStates ++ [header link.spanContext.traceState]) =
        c.attributes.zip c.traceStates ++
          [(convertKeyValues link.attributes, header link.spanContext.traceState)] :=
    List.zip_append (c.aligned.trans c.alignedStates.symm)
  have hlength : c.views.length = (c.attributes.zip c.traceStates).length := by
    rw [List.length_zip, c.aligned, c.alignedStates, Nat.min_self]
  show List.Forall₂ _ ((c.views ++ [_]).zip ((c.attributes ++ [_]).zip (c.traceStates ++ [_]))) _
  rw [hzip, List.zip_append hlength]
  exact List.rel_append h
    (.cons ⟨fun _ _ => rfl, rfl, attributesMatch_convert link.attributes, rfl⟩ .nil)

theorem convertLinks_matches (links : SpanLinks TraceState) :
    LinksMatch (convertLinks header links) (links.links.map (Trace.exportLink header)) := by
  have hstart : LinksMatch .empty [] := .nil
  exact Loops.collect (R := LinksMatch) (fun c done link h => convertLink_matches h link) hstart

/-- **The first pass agrees with the conversion without pointers**, span by span. -/
theorem convertSpan_agrees (span : SpanData TraceState) :
    Agrees SpanMatches (convertSpan header span) (Trace.convertSpan header span) := by
  refine (convertEvents_agrees span.events).bind fun events converted hevents => ?_
  refine agrees_bind_same fun startTime _ => agrees_bind_same fun endTime _ => ?_
  exact {
    scope := fun _ => rfl
    scopeCount := rfl
    scopeAttributes := attributesMatch_convert span.instrumentationScope.attributes
    record := fun _ _ _ _ _ => rfl
    attributeCount := rfl
    attributes := attributesMatch_convert span.attributes
    eventCount := rfl
    events := hevents
    linkCount := rfl
    links := convertLinks_matches span.links
    traceState := rfl }

end Spans

/-! ### The two passes -/

/-- The storage after the first pass. -/
def filled (resource : Resource) (spans : List ConvertedSpan) : SpanExportViewStorage :=
  { SpanExportViewStorage.start resource with
    scopes := spans.map ConvertedSpan.scope
    scopeAttributes := spans.map ConvertedSpan.scopeAttributes
    records := spans.map ConvertedSpan.record
    recordAttributes := spans.map ConvertedSpan.recordAttributes
    events := spans.map fun c => c.events.views
    eventAttributes := spans.map fun c => c.events.attributes
    links := spans.map fun c => c.links.views
    linkAttributes := spans.map fun c => c.links.attributes
    recordTraceStates := spans.map ConvertedSpan.traceState
    linkTraceStates := spans.map fun c => c.links.traceStates }

theorem push_filled (resource : Resource) (spans : List ConvertedSpan) (c : ConvertedSpan) :
    (filled resource spans).push c = filled resource (spans ++ [c]) := by
  simp [filled, SpanExportViewStorage.push]

/-- The views of the span at an index, with their pointers. -/
def linkedScope (i : Nat) (c : ConvertedSpan) : OtelSpanExportScopeView :=
  { c.scope with attributes := .scope i }

def linkedEvents (i : Nat) (c : ConvertedSpan) : List OtelSpanEventView :=
  c.events.views.mapIdx fun j view => { view with attributes := .event i j }

def linkedLink (i j : Nat) (c : ConvertedSpan) (view : OtelSpanExportLinkView) :
    OtelSpanExportLinkView :=
  { view with
    attributes := .link i j
    traceState := .linkTraceState i j ((c.links.traceStates[j]?).getD []).len }

def linkedLinks (i : Nat) (c : ConvertedSpan) : List OtelSpanExportLinkView :=
  c.links.views.mapIdx fun j view => linkedLink i j c view

def linkedRecord (i : Nat) (c : ConvertedSpan) : OtelSpanExportRecordView :=
  { c.record with
    attributes := .record i
    events := .record i
    links := .record i
    traceState := .recordTraceState i c.traceState.len
    scope := .record i }

/-- The storage when the second pass has been through the scopes and the first `k` records. -/
def linkedUpTo (resource : Resource) (spans : List ConvertedSpan) (k : Nat) :
    SpanExportViewStorage :=
  { filled resource spans with
    scopes := spans.mapIdx linkedScope
    records := spans.mapIdx fun i c => if i < k then linkedRecord i c else c.record
    events := spans.mapIdx fun i c => if i < k then linkedEvents i c else c.events.views
    links := spans.mapIdx fun i c => if i < k then linkedLinks i c else c.links.views }

theorem index_of_getElem? {α : Type} {l : List α} {i : Nat} {a : α} (h : l[i]? = some a) :
    index l i = .ok a := by
  rw [index, h]

section Linking

variable {resource : Resource} {spans : List ConvertedSpan}

theorem linkScopes_filled :
    linkScopes (filled resource spans) = .ok (linkedUpTo resource spans 0) := by
  have hscopes : (spans.map ConvertedSpan.scope).zipIdx.mapM (fun entry => do
      let _ ← index (spans.map ConvertedSpan.scopeAttributes) entry.2
      .ok { entry.1 with attributes := AttributesPtr.scope entry.2 }) =
        .ok (spans.mapIdx linkedScope) := by
    refine Loops.mapM_zipIdx_map fun i c hc => ?_
    rw [index_of_getElem? (getElem?_map_of hc)]
    rfl
  have hstart : { filled resource spans with scopes := spans.mapIdx linkedScope } =
      linkedUpTo resource spans 0 := by
    have hunlinked : ∀ {β : Type} (g : Nat → ConvertedSpan → β) (f : ConvertedSpan → β),
        (spans.mapIdx fun i c => if i < 0 then g i c else f c) = spans.map f := by
      intro β g f
      refine List.ext_getElem? fun i => ?_
      simp
    unfold linkedUpTo
    rw [hunlinked, hunlinked, hunlinked]
    rfl
  rw [← hstart]
  exact (congrArg (· >>= _) hscopes).trans (Checked.ok_bind _ _)

theorem linkEvents_at {k i : Nat} {c : ConvertedSpan} (hc : spans[i]? = some c) (hk : ¬i < k) :
    linkEvents (linkedUpTo resource spans k) i = .ok (linkedEvents i c) := by
  have hevents : (linkedUpTo resource spans k).events[i]? = some c.events.views :=
    (getElem?_mapIdx_of hc).trans (by rw [if_neg hk])
  have hattributes : (linkedUpTo resource spans k).eventAttributes[i]? = some c.events.attributes :=
    getElem?_map_of hc
  rw [linkEvents, index_of_getElem? hevents, Checked.ok_bind, index_of_getElem? hattributes]
  refine Loops.mapM_zipIdx fun j view hview => ?_
  have hj : j < c.events.attributes.length := by
    rw [c.events.aligned]
    exact (List.getElem?_eq_some_iff.mp hview).1
  rw [Nat.zero_add, Checked.ok_bind, index_of_lt hj]
  rfl

theorem linkLinks_at {k i : Nat} {c : ConvertedSpan} (hc : spans[i]? = some c) (hk : ¬i < k) :
    linkLinks (linkedUpTo resource spans k) i = .ok (linkedLinks i c) := by
  have hlinks : (linkedUpTo resource spans k).links[i]? = some c.links.views :=
    (getElem?_mapIdx_of hc).trans (by rw [if_neg hk])
  have hattributes : (linkedUpTo resource spans k).linkAttributes[i]? = some c.links.attributes :=
    getElem?_map_of hc
  have hstates : (linkedUpTo resource spans k).linkTraceStates[i]? = some c.links.traceStates :=
    getElem?_map_of hc
  rw [linkLinks, index_of_getElem? hlinks, Checked.ok_bind, index_of_getElem? hattributes,
    index_of_getElem? hstates]
  refine Loops.mapM_zipIdx fun j view hview => ?_
  have hview' := (List.getElem?_eq_some_iff.mp hview).1
  have hj : j < c.links.attributes.length := by rwa [c.links.aligned]
  have hj' : j < c.links.traceStates.length := by rwa [c.links.alignedStates]
  rw [Nat.zero_add, Checked.ok_bind, index_of_lt hj, Checked.ok_bind, Checked.ok_bind,
    index_of_lt hj', linkedLink, List.getElem?_eq_getElem hj']
  rfl

/-- **One turn over the records**: the record at the index, its events and its links. -/
theorem linkRecord_at {k : Nat} {c : ConvertedSpan} (hc : spans[k]? = some c) :
    linkRecord (linkedUpTo resource spans k) k = .ok (linkedUpTo resource spans (k + 1)) := by
  have hk : ¬k < k := Nat.lt_irrefl k
  have hrecord : (linkedUpTo resource spans k).records[k]? = some c.record :=
    (getElem?_mapIdx_of hc).trans (by rw [if_neg hk])
  have hattributes : (linkedUpTo resource spans k).recordAttributes[k]? = some c.recordAttributes :=
    getElem?_map_of hc
  have hevents : (linkedUpTo resource spans k).events[k]? = some c.events.views :=
    (getElem?_mapIdx_of hc).trans (by rw [if_neg hk])
  have hlinks : (linkedUpTo resource spans k).links[k]? = some c.links.views :=
    (getElem?_mapIdx_of hc).trans (by rw [if_neg hk])
  have hstate : (linkedUpTo resource spans k).recordTraceStates[k]? = some c.traceState :=
    getElem?_map_of hc
  rw [linkRecord, index_of_getElem? hrecord, Checked.ok_bind, index_of_getElem? hattributes,
    Checked.ok_bind, index_of_getElem? hevents, Checked.ok_bind, index_of_getElem? hlinks,
    Checked.ok_bind, index_of_getElem? hstate, Checked.ok_bind, linkEvents_at hc hk,
    Checked.ok_bind, linkLinks_at hc hk, Checked.ok_bind]
  have hrecords := Loops.set_mapIdx (f := fun _ c => c.record) (g := linkedRecord) hc
  have hallEvents := Loops.set_mapIdx (f := fun _ c => c.events.views) (g := linkedEvents) hc
  have hallLinks := Loops.set_mapIdx (f := fun _ c => c.links.views) (g := linkedLinks) hc
  unfold linkedUpTo
  rw [← hrecords, ← hallEvents, ← hallLinks]
  rfl

/-- **What the second pass leaves.** -/
theorem linkStorage_filled :
    linkStorage (filled resource spans) =
      .ok (linkBatch (linkedUpTo resource spans spans.length)) := by
  have hloop : (List.range spans.length).foldlM linkRecord (linkedUpTo resource spans 0) =
      .ok (linkedUpTo resource spans spans.length) := by
    refine Loops.foldlM_range fun k hk => ?_
    exact linkRecord_at (List.getElem?_eq_getElem hk)
  have hlength : (linkedUpTo resource spans 0).records.length = spans.length := List.length_mapIdx
  rw [linkStorage, linkScopes_filled, Checked.ok_bind, hlength, hloop]
  rfl

/-! ### Reading what was linked -/

/-- The storage when the second pass is over. -/
def linked (resource : Resource) (spans : List ConvertedSpan) : SpanExportViewStorage :=
  linkBatch (linkedUpTo resource spans spans.length)

theorem readAttributes_at {s : SpanExportViewStorage} {values : AttributesPtr}
    {c : ConvertedAttributes} {read : List Trace.OtelSpanAttribute}
    (hat : s.attributesAt values = some c) (h : AttributesMatch c read) {count : Nat}
    (hcount : count = c.attributes.length) :
    s.readAttributes values count = some (.elems read) := by
  rw [SpanExportViewStorage.readAttributes, hat, hcount]
  exact readSlice_all h

/-- Views that were linked by their index, each read through what stands beside it. -/
theorem readSlice_linked {α β γ δ : Type} {read : α → Option β} {link : Nat → α → α}
    {shown : δ → β} {R : α × γ → δ → Prop} {views : List α} {beside : List γ} {converted : List δ}
    (hlength : beside.length = views.length) (h : List.Forall₂ R (views.zip beside) converted)
    (hread : ∀ (j : Nat) v b d, beside[j]? = some b → R (v, b) d →
      read (link j v) = some (shown d)) :
    readSlice read (views.mapIdx link) views.length = some (.elems (converted.map shown)) := by
  have hconverted := h.length_eq
  rw [List.length_zip, hlength, Nat.min_self] at hconverted
  have hcount : (views.mapIdx link).length = views.length := List.length_mapIdx
  rw [← hcount]
  refine readSlice_all (Loops.mapM_some ?_ fun j view out hview hout => ?_)
  · rw [hcount, List.length_map, hconverted]
  · rw [List.getElem?_mapIdx] at hview
    obtain ⟨v, hv, rfl⟩ := Option.map_eq_some_iff.mp hview
    rw [List.getElem?_map] at hout
    obtain ⟨d, hd, rfl⟩ := Option.map_eq_some_iff.mp hout
    obtain ⟨⟨v', b⟩, hentry, hR⟩ := Loops.forall₂_getElem? h hd
    obtain ⟨hv', hb⟩ := List.getElem?_zip_eq_some.mp hentry
    obtain rfl := Option.some.inj (hv.symm.trans hv')
    exact hread j v b d hb hR

theorem readEvents_linked {i : Nat} {c : ConvertedSpan} (hc : spans[i]? = some c)
    {events : List (Trace.OtelSpanEventView × List Trace.OtelSpanAttribute)}
    (h : EventsMatch c.events events) :
    (linked resource spans).readEvents c.events.views.length (.record i) =
      some (.elems (events.map Trace.patchEvent)) := by
  have hi : i < spans.length := (List.getElem?_eq_some_iff.mp hc).1
  have hviews : (linked resource spans).events[i]? = some (linkedEvents i c) :=
    (getElem?_mapIdx_of hc).trans (by rw [if_pos hi])
  have hattributes : (linked resource spans).eventAttributes[i]? = some c.events.attributes :=
    getElem?_map_of hc
  rw [SpanExportViewStorage.readEvents, hviews]
  refine readSlice_linked c.events.aligned h fun j view a event ha hmatch => ?_
  have hat : (linked resource spans).attributesAt (.event i j) = some a := by
    rw [SpanExportViewStorage.attributesAt, hattributes]
    exact ha
  rw [SpanExportViewStorage.readEvent,
    readAttributes_at hat hmatch.attributes hmatch.attributeCount]
  exact congrArg some (hmatch.content _)

theorem readLinks_linked {i : Nat} {c : ConvertedSpan} (hc : spans[i]? = some c)
    {links : List Trace.ConvertedLink} (h : LinksMatch c.links links) :
    (linked resource spans).readLinks c.links.views.length (.record i) =
      some (.elems (links.map Trace.ConvertedLink.patched)) := by
  have hi : i < spans.length := (List.getElem?_eq_some_iff.mp hc).1
  have hviews : (linked resource spans).links[i]? = some (linkedLinks i c) :=
    (getElem?_mapIdx_of hc).trans (by rw [if_pos hi])
  have hattributes : (linked resource spans).linkAttributes[i]? = some c.links.attributes :=
    getElem?_map_of hc
  have hstates : (linked resource spans).linkTraceStates[i]? = some c.links.traceStates :=
    getElem?_map_of hc
  have hbeside : (c.links.attributes.zip c.links.traceStates).length = c.links.views.length := by
    rw [List.length_zip, c.links.aligned, c.links.alignedStates, Nat.min_self]
  rw [SpanExportViewStorage.readLinks, hviews]
  refine readSlice_linked hbeside h ?_
  rintro j view ⟨a, state⟩ link hentry hmatch
  obtain ⟨ha, hstate⟩ := List.getElem?_zip_eq_some.mp hentry
  have hat : (linked resource spans).attributesAt (.link i j) = some a := by
    rw [SpanExportViewStorage.attributesAt, hattributes]
    exact ha
  have htext : (linked resource spans).readText (.linkTraceState i j state.len) =
      some (viewOf link.traceState) := by
    rw [SpanExportViewStorage.readText, hstates]
    show (c.links.traceStates[j]?.bind fun t => readSlice some (Utf8.encode t) state.len) = _
    rw [hstate, ← hmatch.traceState]
    exact readSlice_some _
  have hread := readAttributes_at hat hmatch.attributes hmatch.attributeCount
  have hlen : ((c.links.traceStates[j]?).getD []).len = state.len := by rw [hstate]; rfl
  rw [SpanExportViewStorage.readLink, linkedLink, hlen, htext, hread]
  exact congrArg some (hmatch.content _ _)

theorem readScope_linked {i : Nat} {c : ConvertedSpan} (hc : spans[i]? = some c)
    {converted : Trace.ConvertedSpan} (h : SpanMatches c converted) :
    (linked resource spans).readScope (.record i) = some converted.patchedScope := by
  have hview : (linked resource spans).scopes[i]? = some (linkedScope i c) := getElem?_mapIdx_of hc
  have hat : (linked resource spans).attributesAt (.scope i) = some c.scopeAttributes :=
    getElem?_map_of hc
  rw [SpanExportViewStorage.readScope, hview]
  show ((linked resource spans).readAttributes (.scope i) c.scope.attributeCount >>= fun shown =>
    some ((linkedScope i c).content shown)) = _
  rw [readAttributes_at hat h.scopeAttributes h.scopeCount]
  exact congrArg some (h.scope _)

/-- **A record leads to what belongs to its span.** -/
theorem readRecord_linked {i : Nat} {c : ConvertedSpan} (hc : spans[i]? = some c)
    {converted : Trace.ConvertedSpan} (h : SpanMatches c converted)
    {scopes : List Trace.OtelSpanExportScopeView} (hscope : scopes[i]? = some converted.patchedScope) :
    (linked resource spans).readRecord (linkedRecord i c) =
      some (Trace.ConvertedSpan.patched scopes i converted) := by
  have hstate : (linked resource spans).recordTraceStates[i]? = some c.traceState :=
    getElem?_map_of hc
  have htext : (linked resource spans).readText (.recordTraceState i c.traceState.len) =
      some (viewOf converted.recordTraceState) := by
    rw [SpanExportViewStorage.readText, hstate, ← h.traceState]
    exact readSlice_some _
  have hat : (linked resource spans).attributesAt (.record i) = some c.recordAttributes :=
    getElem?_map_of hc
  have hattributes := readAttributes_at hat h.attributes h.attributeCount
  have hevents : (linked resource spans).readEvents c.record.eventCount (.record i) =
      some (.elems (converted.events.map Trace.patchEvent)) := by
    rw [h.eventCount]
    exact readEvents_linked hc h.events
  have hlinks : (linked resource spans).readLinks c.record.linkCount (.record i) =
      some (.elems (converted.links.map Trace.ConvertedLink.patched)) := by
    rw [h.linkCount]
    exact readLinks_linked hc h.links
  have hscopeRead : (linked resource spans).readScope (.record i) = some converted.patchedScope :=
    readScope_linked hc h
  rw [SpanExportViewStorage.readRecord, linkedRecord, htext, hattributes, hevents, hlinks, hscopeRead]
  rw [Trace.ConvertedSpan.patched, hscope]
  exact congrArg some (h.record _ _ _ _ _)

/-- **The storage, read, is the view without pointers.** -/
theorem read_linked {converted : List Trace.ConvertedSpan}
    (h : List.Forall₂ SpanMatches spans converted) :
    (linked resource spans).read = some {
      structSize := 88
      records := .elems (converted.mapIdx
        (Trace.ConvertedSpan.patched (converted.map Trace.ConvertedSpan.patchedScope)))
      resourceSchemaUrl := Trace.optionalView resource.schemaUrl
      resourceAttributes := .elems (Trace.convertKeyValues resource.attributes)
      reserved := [0, 0, 0, 0] } := by
  have hrecords : (linked resource spans).records = spans.mapIdx linkedRecord := by
    refine List.ext_getElem? fun i => ?_
    show (spans.mapIdx fun i c => if i < spans.length then linkedRecord i c else c.record)[i]? = _
    rw [List.getElem?_mapIdx, List.getElem?_mapIdx]
    cases hc : spans[i]? with
    | none => rfl
    | some c => simp [(List.getElem?_eq_some_iff.mp hc).1]
  have hread : (linked resource spans).readRecords (linked resource spans).records.length .records =
      some (.elems (converted.mapIdx
        (Trace.ConvertedSpan.patched (converted.map Trace.ConvertedSpan.patchedScope)))) := by
    refine readSlice_all (Loops.mapM_some ?_ fun i record shown hrecord hshown => ?_)
    · rw [hrecords, List.length_mapIdx, List.length_mapIdx, h.length_eq]
    · rw [hrecords, List.getElem?_mapIdx] at hrecord
      obtain ⟨c, hc, rfl⟩ := Option.map_eq_some_iff.mp hrecord
      rw [List.getElem?_mapIdx] at hshown
      obtain ⟨span, hspan, rfl⟩ := Option.map_eq_some_iff.mp hshown
      obtain ⟨c', hc', hmatch⟩ := Loops.forall₂_getElem? h hspan
      obtain rfl := Option.some.inj (hc.symm.trans hc')
      exact readRecord_linked hc hmatch (getElem?_map_of hspan)
  have hresource : (linked resource spans).readAttributes .resource
      (convertResourceAttributes resource).attributes.length =
        some (.elems (Trace.convertKeyValues resource.attributes)) :=
    readAttributes_at rfl (attributesMatch_convert resource.attributes) rfl
  have hcount : (linkedUpTo resource spans spans.length).records.length =
      (linked resource spans).records.length := rfl
  show ((linked resource spans).readRecords (linkedUpTo resource spans spans.length).records.length
    .records >>= fun records => (linked resource spans).readAttributes .resource
      (convertResourceAttributes resource).attributes.length >>= fun attributes => some _) = _
  rw [hcount, hread, hresource]
  rfl

end Linking

/-! ### The whole conversion -/

section Batch

variable {TraceState : Type} {header : TraceState → Str} {spans : List (SpanData TraceState)}
  {resource : Resource}

/-- **The conversion agrees with the one without pointers**: it fails alike, and what it leaves is
read as the same view. -/
theorem convertBatch_agrees :
    Agrees (fun storage view => SpanExportViewStorage.read storage = some view)
      (convertBatch header spans resource) (Trace.convertBatch header spans resource) := by
  unfold convertBatch Trace.convertBatch
  by_cases hcount : spans.length > spanExportMaxSpans
  · rw [if_pos hcount, if_pos hcount]
    rfl
  · rw [if_neg hcount, if_neg hcount]
    have hfilled : Agrees (fun s converted => ∃ cs, s = filled resource cs ∧
        List.Forall₂ SpanMatches cs converted)
        (spans.foldlM (fun s span => do
          let converted ← convertSpan header span
          .ok (s.push converted)) (SpanExportViewStorage.start resource))
        (spans.mapM (Trace.convertSpan header)) := by
      refine Agrees.collect (R := fun s converted => ∃ cs, s = filled resource cs ∧
        List.Forall₂ SpanMatches cs converted) ?_ ⟨[], rfl, .nil⟩
      rintro s done span ⟨cs, rfl, hcs⟩
      rw [← bind_pure (Trace.convertSpan header span)]
      refine (convertSpan_agrees span).bind fun c converted hc => ?_
      exact ⟨cs ++ [c], push_filled resource cs c, List.rel_append hcs (.cons hc .nil)⟩
    refine hfilled.bind ?_
    rintro s converted ⟨cs, rfl, hcs⟩
    rw [linkStorage_filled]
    exact read_linked hcs

end Batch

end OtelC.SpanView
