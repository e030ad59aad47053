import OtelC.Logs.Correlation
import OtelC.Logs.Layout

/-!
# Exporting a log record

A record that is exported is converted back into a borrowed view.  Whatever the emit side let through is
converted, and the exported view denotes the record that was given: the same trees up to the order of
keys in a map, the timestamps, the severity and the trace context.
-/

namespace OtelC.Logs

/-! ### The exported view -/

/-- `OTEL_LOG_EXPORT_FIELD_TIMESTAMP`. -/
def exportFieldTimestamp : UInt64 := 1

/-- `OTEL_LOG_EXPORT_FIELD_OBSERVED_TIMESTAMP`. -/
def exportFieldObservedTimestamp : UInt64 := 2

/-- `OTEL_LOG_EXPORT_FIELD_TRACE_CONTEXT`. -/
def exportFieldTraceContext : UInt64 := 4

/-- `OTEL_LOG_EXPORT_FIELD_SEVERITY_TEXT`. -/
def exportFieldSeverityText : UInt64 := 8

/-- `OTEL_LOG_EXPORT_FIELD_EVENT_NAME`. -/
def exportFieldEventName : UInt64 := 16

/-- `OTEL_LOG_EXPORT_FIELD_TARGET`. -/
def exportFieldTarget : UInt64 := 32

/-- `OTEL_LOG_EXPORT_FIELD_BODY`. -/
def exportFieldBody : UInt64 := 64

structure OtelLogExportScopeView where
  structSize : UInt64
  name : OtelStringView
  version : OtelStringView
  schemaUrl : OtelStringView
  attributes : CSlice OtelLogValueNode
  valueNodes : CSlice OtelLogValueNode
  reserved : List UInt64

structure OtelLogExportRecordView where
  structSize : UInt64
  presentFields : UInt64
  timestampUnixNanos : UInt64
  observedTimestampUnixNanos : UInt64
  severityNumber : UInt32
  reservedFlags : UInt32
  severityText : OtelStringView
  eventName : OtelStringView
  target : OtelStringView
  body : OtelLogValue
  attributes : CSlice OtelLogValueNode
  valueNodes : CSlice OtelLogValueNode
  traceContext : OtelLogTraceContext
  scope : Option OtelLogExportScopeView
  reserved : List UInt64

/-- `size_of::<OtelLogExportRecordView>()`. -/
def exportRecordViewSize : UInt64 := 216

/-! ### Converting a record -/

/-- `duration_since(UNIX_EPOCH)` as the nanoseconds of a `u64`; a time before the epoch and one that
does not fit have a text each. -/
def nanosSinceEpoch (status : OtelStatus) [status.Failure] (early late : String)
    (value : SystemTime) : Except Fail UInt64 :=
  if value < 0 then fail status early
  else if value.toNat > 2 ^ 64 - 1 then fail status late
  else .ok (UInt64.ofNat value.toNat)

/-- `timestamp_nanos`. -/
def timestampNanos (value : SystemTime) (what : String) : Except Fail UInt64 :=
  nanosSinceEpoch .exportFailed s!"exported log {what} predates the Unix epoch"
    s!"exported log {what} exceeds the u64 range" value

/-- `severity_number`. -/
def severityNumber : Severity → UInt32
  | .trace => 1
  | .trace2 => 2
  | .trace3 => 3
  | .trace4 => 4
  | .debug => 5
  | .debug2 => 6
  | .debug3 => 7
  | .debug4 => 8
  | .info => 9
  | .info2 => 10
  | .info3 => 11
  | .info4 => 12
  | .warn => 13
  | .warn2 => 14
  | .warn3 => 15
  | .warn4 => 16
  | .error => 17
  | .error2 => 18
  | .error3 => 19
  | .error4 => 20
  | .fatal => 21
  | .fatal2 => 22
  | .fatal3 => 23
  | .fatal4 => 24

/-- The nanoseconds of a timestamp, zero if there is none. -/
def optionalNanos (what : String) : Option SystemTime → Except Fail UInt64
  | some timestamp => timestampNanos timestamp what
  | none => .ok 0

/-- `present_fields |= bit` under a condition. -/
def setIf (present : Bool) (bit fields : UInt64) : UInt64 :=
  if present then fields ||| bit else fields

/-- The fields a record carries. -/
def presentFields (record : SdkLogRecord) : UInt64 :=
  setIf record.traceContext.isSome exportFieldTraceContext <|
  setIf record.body.isSome exportFieldBody <|
  setIf record.target.isSome exportFieldTarget <|
  setIf record.eventName.isSome exportFieldEventName <|
  setIf record.severityText.isSome exportFieldSeverityText <|
  setIf record.observedTimestamp.isSome exportFieldObservedTimestamp <|
  setIf record.timestamp.isSome exportFieldTimestamp 0

/-- The trace context of the view, all zero if the record has none. -/
def exportTraceContext : Option TraceContext → OtelLogTraceContext
  | some context => ⟨context.traceId, context.spanId, context.traceFlags.getD 0, Bytes.zero 7⟩
  | none => ⟨Bytes.zero 16, Bytes.zero 8, 0, Bytes.zero 7⟩

structure ConvertedRecord where
  view : OtelLogExportRecordView
  scopeIndex : Nat
  attributes : List OtelLogValueNode
  nodes : List OtelLogValueNode

/-- The view at the end of `convert_record`, whose arrays and scope `convert_batch` patches. -/
def recordView (record : SdkLogRecord) (timestamp observedTimestamp : UInt64)
    (severityText eventName target : OtelStringView) (flattened : Flattened) :
    OtelLogExportRecordView where
  structSize := exportRecordViewSize
  presentFields := presentFields record
  timestampUnixNanos := timestamp
  observedTimestampUnixNanos := observedTimestamp
  severityNumber := (record.severityNumber.map severityNumber).getD 0
  reservedFlags := 0
  severityText := severityText
  eventName := eventName
  target := target
  body := flattened.body
  attributes := .null flattened.attributes.length
  valueNodes := .null flattened.nodes.length
  traceContext := exportTraceContext record.traceContext
  scope := none
  reserved := [0, 0, 0, 0]

/-- `convert_record`. -/
def convertRecord (record : SdkLogRecord) (scopeIndex : Nat) : Except Fail ConvertedRecord := do
  let timestamp ← optionalNanos "timestamp" record.timestamp
  let observedTimestamp ← optionalNanos "observed timestamp" record.observedTimestamp
  let severityText ← optionalStringView record.severityText
  let eventName ← optionalStringView record.eventName
  let target ← optionalStringView record.target
  let flattened ← flatten record.body (record.attributes.map fun a => (a.1, .any a.2))
  .ok ⟨recordView record timestamp observedTimestamp severityText eventName target flattened,
    scopeIndex, flattened.attributes, flattened.nodes⟩

/-! ### When a record is converted -/

/-- A time becomes nanoseconds just when these fit the field. -/
theorem nanosSinceEpoch_ok_iff {status : OtelStatus} [status.Failure] {early late : String}
    {value : SystemTime} {nanos : UInt64} :
    nanosSinceEpoch status early late value = .ok nanos ↔ value = nanos.toNat := by
  have hlt := nanos.toNat_lt
  rw [nanosSinceEpoch, fail, fail, Checked.guard_eq_ok, Checked.guard_eq_ok, Except.ok.injEq]
  constructor
  · intro h
    obtain ⟨hneg, hmax, rfl⟩ := h
    have hneg : 0 ≤ (value : Int) := Int.not_lt.mp hneg
    rw [UInt64.toNat_ofNat_of_lt' (by show value.toNat < 2 ^ 64; omega)]
    exact (Int.toNat_of_nonneg hneg).symm
  · intro h
    subst h
    refine ⟨Int.not_lt.mpr (Int.natCast_nonneg _), ?_, ?_⟩
    · show ¬(nanos.toNat : Int).toNat > 2 ^ 64 - 1
      rw [Int.toNat_natCast]
      omega
    · show UInt64.ofNat (nanos.toNat : Int).toNat = nanos
      rw [Int.toNat_natCast, UInt64.ofNat_toNat]

theorem optionalNanos_ok_iff {what : String} {value : Option SystemTime} {nanos : UInt64} :
    optionalNanos what value = .ok nanos ↔ value.getD 0 = nanos.toNat := by
  cases value with
  | none =>
    rw [optionalNanos, Except.ok.injEq, Option.getD_none]
    constructor
    · intro h
      rw [← h]
      rfl
    · intro h
      have h : (0 : Int) = (nanos.toNat : Int) := h
      apply UInt64.toNat_inj.mp
      exact Int.ofNat.inj h
  | some value => exact nanosSinceEpoch_ok_iff

theorem optionalStringView_ok_iff {value : Option Str} {view : OtelStringView} :
    optionalStringView value = .ok view ↔
      (∀ s ∈ value, s.len ≤ maxStringLen) ∧ view = (value.map viewOf).getD emptyView := by
  cases value with
  | none => simp [optionalStringView, eq_comm]
  | some s => simp [optionalStringView, stringView_ok_iff]

/-- The trees of a record as the exported pool holds them. -/
def recordTrees (record : SdkLogRecord) : List AnyValue :=
  ownerTrees record.body (record.attributes.map fun a => a.2.sorted)

/-- A time the exported view has a field for. -/
def TimeFits (time : Option SystemTime) : Prop := ∃ nanos : UInt64, time.getD 0 = nanos.toNat

/-- A text within the limit, if there is one. -/
def TextFits (text : Option Str) : Prop := ∀ s ∈ text, s.len ≤ maxStringLen

/-- An owner within the limits of the flattener. -/
structure OwnerFits (keys : List Str) (trees : List AnyValue) : Prop where
  count : keys.length ≤ maxAttributes
  keys : ∀ key ∈ keys, key.len ≤ maxStringLen
  values : ∀ t ∈ trees, t.Fits ∧ t.height ≤ maxValueDepth
  nodes : belowRoots trees ≤ maxValueNodes

theorem flatten_ok_iff_fits {body : Option AnyValue} {attributes : List (Str × Source)}
    {trees : List AnyValue} (h : List.Forall₂ Source.Denotes (attributes.map Prod.snd) trees) :
    (∃ out, flatten body attributes = .ok out) ↔
      OwnerFits (attributes.map Prod.fst) (ownerTrees body trees) := by
  rw [flatten_ok_iff h]
  constructor
  · intro hfits
    obtain ⟨hcount, hkeys, htrees, hnodes⟩ := hfits
    exact ⟨by rwa [List.length_map], List.forall_mem_map.mpr hkeys, htrees, hnodes⟩
  · intro hfits
    have hcount := hfits.count
    rw [List.length_map] at hcount
    exact ⟨hcount, List.forall_mem_map.mp hfits.keys, hfits.values, hfits.nodes⟩

/-- A record within the limits of the export. -/
structure RecordFits (record : SdkLogRecord) : Prop where
  timestamp : TimeFits record.timestamp
  observedTimestamp : TimeFits record.observedTimestamp
  severityText : TextFits record.severityText
  eventName : TextFits record.eventName
  target : TextFits record.target
  owner : OwnerFits (record.attributes.map Prod.fst) (recordTrees record)

theorem denotes_attributes (attributes : List (Str × AnyValue)) :
    List.Forall₂ Source.Denotes ((attributes.map fun a => (a.1, Source.any a.2)).map Prod.snd)
      (attributes.map fun a => a.2.sorted) := by
  rw [List.map_map, List.forall₂_map_left_iff, List.forall₂_map_right_iff, List.forall₂_same]
  exact fun _ _ => rfl

/-- What a converted record consists of. -/
theorem convertRecord_ok {record : SdkLogRecord} {scopeIndex : Nat} {out : ConvertedRecord}
    (h : convertRecord record scopeIndex = .ok out) :
    ∃ timestamp observedTimestamp flattened,
      record.timestamp.getD 0 = (UInt64.toNat timestamp : Int) ∧
      record.observedTimestamp.getD 0 = (UInt64.toNat observedTimestamp : Int) ∧
      flatten record.body (record.attributes.map fun a => (a.1, .any a.2)) = .ok flattened ∧
      out = ⟨recordView record timestamp observedTimestamp
        ((record.severityText.map viewOf).getD emptyView)
        ((record.eventName.map viewOf).getD emptyView)
        ((record.target.map viewOf).getD emptyView) flattened,
        scopeIndex, flattened.attributes, flattened.nodes⟩ := by
  obtain ⟨timestamp, htimestamp, h⟩ := Checked.bind_eq_ok.mp h
  obtain ⟨observed, hobserved, h⟩ := Checked.bind_eq_ok.mp h
  obtain ⟨severityText, hseverity, h⟩ := Checked.bind_eq_ok.mp h
  obtain ⟨eventName, hevent, h⟩ := Checked.bind_eq_ok.mp h
  obtain ⟨target, htarget, h⟩ := Checked.bind_eq_ok.mp h
  obtain ⟨flattened, hflatten, h⟩ := Checked.bind_eq_ok.mp h
  obtain ⟨-, rfl⟩ := optionalStringView_ok_iff.mp hseverity
  obtain ⟨-, rfl⟩ := optionalStringView_ok_iff.mp hevent
  obtain ⟨-, rfl⟩ := optionalStringView_ok_iff.mp htarget
  exact ⟨timestamp, observed, flattened, optionalNanos_ok_iff.mp htimestamp,
    optionalNanos_ok_iff.mp hobserved, hflatten, (Except.ok.inj h).symm⟩

/-- **When a record is converted.** -/
theorem convertRecord_ok_iff {record : SdkLogRecord} {scopeIndex : Nat} :
    (∃ out, convertRecord record scopeIndex = .ok out) ↔ RecordFits record := by
  have howner : (∃ out, flatten record.body (record.attributes.map fun a => (a.1, .any a.2)) =
      .ok out) ↔ OwnerFits (record.attributes.map Prod.fst) (recordTrees record) := by
    rw [flatten_ok_iff_fits (denotes_attributes record.attributes), List.map_map]
    rfl
  constructor
  · intro h
    obtain ⟨out, h⟩ := h
    obtain ⟨timestamp, htimestamp, h⟩ := Checked.bind_eq_ok.mp h
    obtain ⟨observed, hobserved, h⟩ := Checked.bind_eq_ok.mp h
    obtain ⟨severityText, hseverity, h⟩ := Checked.bind_eq_ok.mp h
    obtain ⟨eventName, hevent, h⟩ := Checked.bind_eq_ok.mp h
    obtain ⟨target, htarget, h⟩ := Checked.bind_eq_ok.mp h
    obtain ⟨flattened, hflatten, -⟩ := Checked.bind_eq_ok.mp h
    exact ⟨⟨_, optionalNanos_ok_iff.mp htimestamp⟩, ⟨_, optionalNanos_ok_iff.mp hobserved⟩,
      (optionalStringView_ok_iff.mp hseverity).1, (optionalStringView_ok_iff.mp hevent).1,
      (optionalStringView_ok_iff.mp htarget).1, howner.mp ⟨flattened, hflatten⟩⟩
  · intro h
    obtain ⟨timestamp, htimestamp⟩ := h.timestamp
    obtain ⟨observed, hobserved⟩ := h.observedTimestamp
    obtain ⟨flattened, hflatten⟩ := howner.mpr h.owner
    exact ⟨_, Checked.bind_eq_ok.mpr ⟨timestamp, optionalNanos_ok_iff.mpr htimestamp,
      Checked.bind_eq_ok.mpr ⟨observed, optionalNanos_ok_iff.mpr hobserved,
      Checked.bind_eq_ok.mpr ⟨_, optionalStringView_ok_iff.mpr ⟨h.severityText, rfl⟩,
      Checked.bind_eq_ok.mpr ⟨_, optionalStringView_ok_iff.mpr ⟨h.eventName, rfl⟩,
      Checked.bind_eq_ok.mpr ⟨_, optionalStringView_ok_iff.mpr ⟨h.target, rfl⟩,
      Checked.bind_eq_ok.mpr ⟨flattened, hflatten, rfl⟩⟩⟩⟩⟩⟩⟩

/-! ### What the emit side let through -/

section Emitted

variable {severityName : Severity → Str} {view : OtelLogRecordView} {record : SdkLogRecord}

theorem header_limits (h : checkRecordHeader view = .ok ()) :
    view.attributes.len ≤ maxAttributes ∧ view.valueNodes.len ≤ maxValueNodes := by
  simp only [checkRecordHeader, fail, Checked.guard_eq_ok] at h
  exact ⟨Nat.le_of_not_gt h.2.2.2.1, Nat.le_of_not_gt h.2.2.2.2.1⟩

theorem length_read_le {α : Type} (slice : CSlice α) : slice.read.length ≤ slice.len := by
  cases slice with
  | null n => exact Nat.zero_le n
  | elems xs => exact Nat.le_refl _

theorem attributeKey_ok {node : OtelLogValueNode} {key : Str} (h : attributeKey node = .ok key) :
    asStr node.key = .ok key ∧ key ≠ [] ∧ key.len ≤ maxStringLen := by
  obtain ⟨key', hkey, h⟩ := Checked.bind_eq_ok.mp h
  obtain ⟨hne, h⟩ := Checked.guard_eq_ok.mp h
  obtain ⟨hlen, h⟩ := Checked.guard_eq_ok.mp h
  obtain rfl := Except.ok.inj h
  exact ⟨hkey, fun hnil => hne (List.isEmpty_iff.mpr hnil), Nat.le_of_not_gt hlen⟩

theorem belowRoots_sorted (trees : List AnyValue) :
    belowRoots (trees.map AnyValue.sorted) = belowRoots trees := by
  have h := sum_size_eq (trees.map AnyValue.sorted)
  have h' := sum_size_eq trees
  rw [List.map_map, List.length_map] at h
  have hsize : trees.map (AnyValue.size ∘ AnyValue.sorted) = trees.map AnyValue.size :=
    List.map_congr_left fun t _ => AnyValue.size_sorted t
  rw [hsize] at h
  omega

/-- The roots of an accepted view read as the body and the values of the record. -/
theorem Emits.reads (h : Emits severityName view record) :
    ReadsAll view.valueNodes.read (bodyRoots view) record.body.toList ∧
      ReadsAll view.valueNodes.read (view.attributes.read.map OtelLogValueNode.value)
        (record.attributes.map Prod.snd) := by
  refine ⟨?_, h.values⟩
  obtain ⟨values, hvalues, hbody⟩ := h.body
  have hlength := hvalues.length_eq
  have hone : (bodyRoots view).length ≤ 1 := by
    rw [bodyRoots]
    split <;> simp
  have hlist : record.body.toList = values := by
    rw [hbody]
    match values, hlength with
    | [], _ => rfl
    | [v], _ => rfl
    | _ :: _ :: _, hlength => simp at hlength; omega
  rwa [hlist]

/-- The trees of an emitted record keep the limits of the export. -/
theorem Emits.trees (h : Emits severityName view record) :
    (∀ t ∈ recordTrees record, (t.Fits ∧ t.height ≤ maxValueDepth) ∧ t.MapsOk) ∧
      belowRoots (recordTrees record) ≤ maxValueNodes := by
  obtain ⟨hbody, hvalues⟩ := h.reads
  have hreads : ReadsAll view.valueNodes.read (recordRoots view)
      (record.body.toList ++ record.attributes.map Prod.snd) := List.rel_append hbody hvalues
  have htrees : recordTrees record =
      (record.body.toList ++ record.attributes.map Prod.snd).map AnyValue.sorted := by
    rw [recordTrees, ownerTrees, List.map_append, List.map_map]
    rfl
  rw [htrees, belowRoots_sorted, List.forall_mem_map]
  constructor
  · refine forall_mem_of_forall₂ hreads fun root hroot v hread => ?_
    obtain ⟨hmaps, hfits⟩ :=
      mapsOk_fits_of_read h.wellFormed (mem_allValues_of_root hroot) hread
    rw [AnyValue.fits_sorted, AnyValue.height_sorted, AnyValue.mapsOk_sorted]
    exact ⟨⟨hfits, height_le_of_read hread⟩, hmaps⟩
  · rw [belowRoots_eq_length h.wellFormed (hreads.imp fun root v hread => ⟨_, hread⟩)]
    exact (length_read_le _).trans (header_limits h.header).2

theorem Emits.keys_fit (h : Emits severityName view record) :
    ∀ key ∈ record.attributes.map Prod.fst, key.len ≤ maxStringLen :=
  forall_mem_of_forall₂ (Checked.mapM_eq_ok.mp h.keys) fun _ _ _ hkey =>
    (attributeKey_ok hkey).2.2

theorem Emits.ownerFits (h : Emits severityName view record) :
    OwnerFits (record.attributes.map Prod.fst) (recordTrees record) := by
  obtain ⟨htrees, hnodes⟩ := h.trees
  refine ⟨?_, h.keys_fit, fun t ht => (htrees t ht).1, hnodes⟩
  rw [← (Checked.mapM_eq_ok.mp h.keys).length_eq]
  exact (length_read_le _).trans (header_limits h.header).1

end Emitted

/-! ### From emission to export -/

/-- What the SDK's logger makes of an emitted record before it reaches a processor: an absent
observation time becomes the current time, and an absent trace context the current one. -/
structure Delivered (record delivered : SdkLogRecord) : Prop where
  fields : delivered = { record with
    observedTimestamp := delivered.observedTimestamp
    traceContext := delivered.traceContext }
  observed : ∀ time ∈ record.observedTimestamp, delivered.observedTimestamp = some time
  clock : TimeFits delivered.observedTimestamp ∨ record.observedTimestamp.isSome
  context : ∀ context ∈ record.traceContext, delivered.traceContext = some context

/-- A logger may fill in nothing. -/
theorem delivered_self {record : SdkLogRecord} (h : TimeFits record.observedTimestamp) :
    Delivered record record := ⟨rfl, fun _ h => h, .inl h, fun _ h => h⟩

/-- A field is carried by an exported view. -/
def Carries (out : ConvertedRecord) (field : UInt64) : Prop := out.view.presentFields &&& field ≠ 0

instance (out : ConvertedRecord) (field : UInt64) : Decidable (Carries out field) :=
  inferInstanceAs (Decidable (_ ≠ _))

/-- The body of an exported record as a list of roots. -/
def exportedBody (out : ConvertedRecord) : List OtelLogValue :=
  if Carries out exportFieldBody then [out.view.body] else []

/-- A text of an exported record that is read only when it is carried. -/
def exportedText (out : ConvertedRecord) (field : UInt64) (text : OtelStringView) :
    Option (Except Fail Str) :=
  if Carries out field then some (asStr text) else none

/-- The exported record denotes the record that was given. -/
structure Exports (severityName : Severity → Str) (view : OtelLogRecordView)
    (delivered : SdkLogRecord) (out : ConvertedRecord) : Prop where
  body : ∃ values, ReadsAll view.valueNodes.read (bodyRoots view) values ∧
    ReadsAll out.nodes (exportedBody out) (values.map AnyValue.sorted)
  values : ∃ values, ReadsAll view.valueNodes.read
      (view.attributes.read.map OtelLogValueNode.value) values ∧
    ReadsAll out.nodes (out.attributes.map OtelLogValueNode.value) (values.map AnyValue.sorted)
  keys : (out.attributes.map fun node => asStr node.key) =
    view.attributes.read.map fun node => asStr node.key
  timestamp : if view.presentFields &&& fieldTimestamp ≠ 0
    then Carries out exportFieldTimestamp ∧
      out.view.timestampUnixNanos = view.timestampUnixNanos
    else ¬Carries out exportFieldTimestamp
  observedTimestamp : if view.presentFields &&& fieldObservedTimestamp ≠ 0
    then Carries out exportFieldObservedTimestamp ∧
      out.view.observedTimestampUnixNanos = view.observedTimestampUnixNanos
    else (Carries out exportFieldObservedTimestamp ↔ delivered.observedTimestamp.isSome)
  severity : out.view.severityNumber = view.severityNumber
  severityText : exportedText out exportFieldSeverityText out.view.severityText =
    (severityFromU32 view.severityNumber).map fun severity => .ok (severityName severity)
  traceContext : if view.presentFields &&& fieldTraceContext ≠ 0
    then Carries out exportFieldTraceContext ∧ out.view.traceContext = view.traceContext
    else (Carries out exportFieldTraceContext ↔ delivered.traceContext.isSome)
  eventName : ¬Carries out exportFieldEventName
  target : ¬Carries out exportFieldTarget
  accepted : ∃ info,
    validate out.nodes (exportedBody out ++ out.attributes.map OtelLogValueNode.value) = .ok info

theorem present_bits : ∀ trace body target event severity observed time : Bool,
    let fields := setIf trace exportFieldTraceContext <| setIf body exportFieldBody <|
      setIf target exportFieldTarget <| setIf event exportFieldEventName <|
      setIf severity exportFieldSeverityText <| setIf observed exportFieldObservedTimestamp <|
      setIf time exportFieldTimestamp 0
    (fields &&& exportFieldTraceContext ≠ 0 ↔ trace = true) ∧
    (fields &&& exportFieldBody ≠ 0 ↔ body = true) ∧
    (fields &&& exportFieldTarget ≠ 0 ↔ target = true) ∧
    (fields &&& exportFieldEventName ≠ 0 ↔ event = true) ∧
    (fields &&& exportFieldSeverityText ≠ 0 ↔ severity = true) ∧
    (fields &&& exportFieldObservedTimestamp ≠ 0 ↔ observed = true) ∧
    (fields &&& exportFieldTimestamp ≠ 0 ↔ time = true) := by
  decide +kernel

theorem optionalTime_ok {present : Bool} {nanos : UInt64} {what : String} {time : Option SystemTime}
    (h : optionalTime present nanos what = .ok time) :
    time = if present then some (nanos.toNat : Int) else none := by
  rw [optionalTime] at h
  cases present with
  | false => exact (Except.ok.inj h).symm
  | true =>
    rw [if_pos rfl, systemTimeFromUnixNanos] at h
    split at h
    · cases h
    · exact (Except.ok.inj h).symm

theorem timeFits_of_optionalTime {present : Bool} {nanos : UInt64} {what : String}
    {time : Option SystemTime} (h : optionalTime present nanos what = .ok time) : TimeFits time := by
  rw [optionalTime_ok h]
  cases present with
  | false => exact ⟨0, rfl⟩
  | true => exact ⟨nanos, rfl⟩

theorem eq_zero_of_not_any {n : Nat} {bytes : Bytes n} (h : ¬bytes.1.any (· ≠ 0)) :
    bytes = Bytes.zero n := by
  apply Subtype.ext
  refine List.eq_replicate_iff.mpr ⟨bytes.2, fun b hb => ?_⟩
  by_contra hne
  exact h (List.any_eq_true.mpr ⟨b, hb, decide_eq_true hne⟩)

theorem severityNumber_of_fromU32 {n : UInt32} {severity : Severity}
    (h : severityFromU32 n = some severity) : severityNumber severity = n := by
  rw [severityFromU32] at h
  split at h
  all_goals
    first
    | rename_i hn
      cases h
      exact UInt32.toNat_inj.mp hn.symm
    | cases h

section Faithful

variable {severityName : Severity → Str} {view : OtelLogRecordView} {record : SdkLogRecord}

theorem Emits.severityNumber_eq (h : Emits severityName view record) :
    record.severityNumber = severityFromU32 view.severityNumber ∧
      (record.severityNumber.map severityNumber).getD 0 = view.severityNumber := by
  have hseverity := h.severity
  rw [recordSeverity] at hseverity
  split at hseverity
  · split at hseverity
    · rename_i severity hsome
      rw [← Except.ok.inj hseverity, hsome]
      exact ⟨rfl, severityNumber_of_fromU32 hsome⟩
    · cases hseverity
  · rename_i hzero
    rw [← Except.ok.inj hseverity, Decidable.not_not.mp hzero]
    exact ⟨rfl, rfl⟩

theorem Emits.traceContext_eq (h : Emits severityName view record) :
    if view.presentFields &&& fieldTraceContext ≠ 0
    then ∃ context, record.traceContext = some context ∧
      exportTraceContext (some context) = view.traceContext
    else record.traceContext = none := by
  have hcontext := h.traceContext
  rw [recordTraceContext] at hcontext
  split at hcontext
  · rename_i hpresent
    rw [if_pos hpresent]
    obtain ⟨context, hcheck, hsome⟩ : ∃ context, checkTraceContext view.traceContext = .ok context ∧
        record.traceContext = some context := by
      cases hcheck : checkTraceContext view.traceContext with
      | error e => rw [hcheck] at hcontext; cases hcontext
      | ok context => rw [hcheck] at hcontext; exact ⟨context, rfl, (Except.ok.inj hcontext).symm⟩
    refine ⟨context, hsome, ?_⟩
    simp only [checkTraceContext, fail, Checked.guard_eq_ok] at hcheck
    obtain ⟨hreserved, -, -, -, hcheck⟩ := hcheck
    obtain rfl := Except.ok.inj hcheck
    rw [exportTraceContext, ← eq_zero_of_not_any hreserved]
    rfl
  · rename_i hpresent
    rw [if_neg hpresent]
    exact (Except.ok.inj hcontext).symm

/-- An emitted record as it is delivered keeps the limits of the export. -/
theorem Emits.delivered_fits (h : Emits severityName view record)
    (hname : ∀ severity, (severityName severity).len ≤ maxStringLen) {delivered : SdkLogRecord}
    (hd : Delivered record delivered) : RecordFits delivered := by
  have hfields := hd.fields
  have hbody : delivered.body = record.body := by rw [hfields]
  have hattributes : delivered.attributes = record.attributes := by rw [hfields]
  constructor
  · have htime : delivered.timestamp = record.timestamp := by rw [hfields]
    rw [htime]
    exact timeFits_of_optionalTime h.timestamp
  · cases hd.clock with
    | inl hclock => exact hclock
    | inr hgiven =>
      obtain ⟨time, htime⟩ := Option.isSome_iff_exists.mp hgiven
      rw [hd.observed time htime, ← htime]
      exact timeFits_of_optionalTime h.observedTimestamp
  · have htext : delivered.severityText = record.severityText := by rw [hfields]
    rw [htext, h.severityText]
    intro s hs
    obtain ⟨severity, -, rfl⟩ := Option.map_eq_some_iff.mp hs
    exact hname severity
  · have htext : delivered.eventName = record.eventName := by rw [hfields]
    rw [htext, h.eventName]
    nofun
  · have htext : delivered.target = record.target := by rw [hfields]
    rw [htext, h.target]
    nofun
  · rw [recordTrees, hattributes, hbody]
    exact h.ownerFits

/-- The exported roots, read from the view. -/
theorem exportedBody_eq {delivered : SdkLogRecord} {out : ConvertedRecord} {body : OtelLogValue}
    (hcarries : Carries out exportFieldBody ↔ delivered.body.isSome = true)
    (hbody : out.view.body = body) :
    exportedBody out = delivered.body.toList.map fun _ => body := by
  rw [exportedBody, hbody]
  cases hsome : delivered.body with
  | none =>
    rw [if_neg (by rw [hcarries, hsome]; exact Bool.false_ne_true)]
    rfl
  | some v =>
    rw [if_pos (by rw [hcarries, hsome]; rfl)]
    rfl

/-- A text that is carried is the text of the record. -/
theorem exportedText_eq {out : ConvertedRecord} {field : UInt64} {text : Option Str}
    (hcarries : Carries out field ↔ text.isSome = true) (hfits : TextFits text) :
    exportedText out field ((text.map viewOf).getD emptyView) = text.map .ok := by
  rw [exportedText]
  cases text with
  | none => exact if_neg (by rw [hcarries]; exact Bool.false_ne_true)
  | some s =>
    rw [if_pos (by rw [hcarries]; rfl)]
    exact congrArg some (asStr_of_fits (hfits s rfl))

/-- A time that was given, or not. -/
theorem time_of_optionalTime {present : Bool} {nanos n : UInt64} {what : String}
    {time : Option SystemTime} (h : optionalTime present nanos what = .ok time)
    (hn : time.getD 0 = n.toNat) :
    if present then time = some (nanos.toNat : Int) ∧ n = nanos else time = none := by
  rw [optionalTime_ok h] at hn ⊢
  cases present with
  | false => rfl
  | true => exact ⟨rfl, (UInt64.toNat_inj.mp (Int.ofNat.inj hn)).symm⟩

theorem Emits.map_keys (h : Emits severityName view record) :
    (view.attributes.read.map fun node => asStr node.key) =
      record.attributes.map fun a => .ok a.1 := by
  have hkeys := Checked.mapM_eq_ok.mp h.keys
  rw [List.forall₂_map_right_iff] at hkeys
  rw [← List.forall₂_eq_eq_eq, List.forall₂_map_left_iff, List.forall₂_map_right_iff]
  exact hkeys.imp fun node a hkey => (attributeKey_ok hkey).1

theorem exports_of_ok (h : Emits severityName view record)
    (hname : ∀ severity, (severityName severity).len ≤ maxStringLen) {delivered : SdkLogRecord}
    (hd : Delivered record delivered) {scopeIndex : Nat} {out : ConvertedRecord}
    (hok : convertRecord delivered scopeIndex = .ok out) :
    Exports severityName view delivered out := by
  have hfits := h.delivered_fits hname hd
  have hfields := hd.fields
  have hbody : delivered.body = record.body := by rw [hfields]
  have hattributes : delivered.attributes = record.attributes := by rw [hfields]
  have htime : delivered.timestamp = record.timestamp := by rw [hfields]
  have hnumber : delivered.severityNumber = record.severityNumber := by rw [hfields]
  have htext : delivered.severityText = record.severityText := by rw [hfields]
  have hevent : delivered.eventName = none := by rw [hfields]; exact h.eventName
  have htarget : delivered.target = none := by rw [hfields]; exact h.target
  obtain ⟨timestamp, observed, flattened, htimestamp, hobserved, hflatten, hout⟩ :=
    convertRecord_ok hok
  obtain ⟨hasTrace, hasBody, hasTarget, hasEvent, hasText, hasObserved, hasTime⟩ :=
    present_bits delivered.traceContext.isSome delivered.body.isSome delivered.target.isSome
      delivered.eventName.isSome delivered.severityText.isSome delivered.observedTimestamp.isSome
      delivered.timestamp.isSome
  have hdenotes := denotes_attributes delivered.attributes
  have hroots : exportedBody out = delivered.body.toList.map fun _ => flattened.body :=
    exportedBody_eq (by rw [hout]; exact hasBody) (by rw [hout]; rfl)
  have hseverity : exportedText out exportFieldSeverityText
      ((delivered.severityText.map viewOf).getD emptyView) = delivered.severityText.map .ok :=
    exportedText_eq (by rw [hout]; exact hasText) hfits.severityText
  subst hout
  obtain ⟨hreads, hkeys⟩ := flatten_reads hdenotes hflatten
  rw [ReadsAll, ownerRoots, ownerTrees, forall₂_append_iff (by simp)] at hreads
  obtain ⟨hviewBody, hviewValues⟩ := h.reads
  constructor
  · refine ⟨record.body.toList, hviewBody, ?_⟩
    rw [hroots, ← hbody]
    exact hreads.1
  · refine ⟨_, hviewValues, ?_⟩
    rw [← hattributes, List.map_map]
    exact hreads.2
  · rw [h.map_keys, ← hattributes]
    have hmap := congrArg (List.map asStr) hkeys
    rw [List.map_map, List.map_map, List.map_map] at hmap
    refine hmap.trans (List.map_congr_left fun a ha => asStr_of_fits ?_)
    exact hfits.owner.keys a.1 (List.mem_map_of_mem ha)
  · have hgiven := time_of_optionalTime h.timestamp (by rw [← htime]; exact htimestamp)
    rw [← htime] at hgiven
    by_cases hpresent : view.presentFields &&& fieldTimestamp ≠ 0
    · rw [if_pos hpresent]
      rw [if_pos (decide_eq_true hpresent)] at hgiven
      exact ⟨hasTime.mpr (by rw [hgiven.1]; rfl), hgiven.2⟩
    · rw [if_neg hpresent]
      rw [if_neg (by rwa [decide_eq_true_eq])] at hgiven
      intro hc
      have := hasTime.mp hc
      rw [hgiven] at this
      cases this
  · by_cases hpresent : view.presentFields &&& fieldObservedTimestamp ≠ 0
    · rw [if_pos hpresent]
      have hrecord := optionalTime_ok h.observedTimestamp
      rw [if_pos (decide_eq_true hpresent)] at hrecord
      have hdelivered := hd.observed _ hrecord
      rw [hdelivered] at hobserved
      refine ⟨hasObserved.mpr (by rw [hdelivered]; rfl), ?_⟩
      exact (UInt64.toNat_inj.mp (Int.ofNat.inj hobserved)).symm
    · rw [if_neg hpresent]
      exact hasObserved
  · show (delivered.severityNumber.map severityNumber).getD 0 = view.severityNumber
    rw [hnumber]
    exact h.severityNumber_eq.2
  · refine hseverity.trans ?_
    rw [htext, h.severityText, h.severityNumber_eq.1, Option.map_map]
    rfl
  · have hgiven := h.traceContext_eq
    split at hgiven
    · rename_i hpresent
      obtain ⟨context, hcontext, heq⟩ := hgiven
      have hdelivered := hd.context context hcontext
      rw [if_pos hpresent]
      refine ⟨hasTrace.mpr (by rw [hdelivered]; rfl), ?_⟩
      rw [← heq, ← hdelivered]
      rfl
    · rename_i hpresent
      rw [if_neg hpresent]
      exact hasTrace
  · intro hc
    have := hasEvent.mp hc
    rw [hevent] at this
    cases this
  · intro hc
    have := hasTarget.mp hc
    rw [htarget] at this
    cases this
  · rw [validate_ok_iff, hroots]
    apply flatten_wellFormed hdenotes hflatten
    intro t ht
    rw [hattributes, hbody] at ht
    exact (h.trees.1 t ht).2

end Faithful

theorem emits_of_emitted {severityName : Severity → Str} {view : OtelLogRecordView}
    {record : SdkLogRecord} (h : (emitRecord severityName view).emitted = some record) :
    Emits severityName view record := by
  rw [← recordOfView_ok_iff]
  rw [emitRecord] at h
  cases hrecord : recordOfView severityName view with
  | error e => rw [hrecord] at h; cases h
  | ok record' =>
    rw [hrecord] at h
    rw [Option.some.inj h]

/-- **From emission to export.**  Every record that is emitted for a view is converted, also after the
logger has filled in what was not given, and what is exported denotes the record that was given. -/
theorem export_emitted (severityName : Severity → Str)
    (hname : ∀ severity, (severityName severity).len ≤ maxStringLen) (view : OtelLogRecordView)
    (record : SdkLogRecord) (hemitted : (emitRecord severityName view).emitted = some record)
    (delivered : SdkLogRecord) (hdelivered : Delivered record delivered) (scopeIndex : Nat) :
    ∃ out, convertRecord delivered scopeIndex = .ok out ∧
      Exports severityName view delivered out := by
  have hemits := emits_of_emitted hemitted
  obtain ⟨out, hout⟩ := convertRecord_ok_iff.mpr (hemits.delivered_fits hname hdelivered)
  exact ⟨out, hout, exports_of_ok hemits hname hdelivered hout⟩

/-- A record with an array of one map of one text as its body. -/
def nestedRecord : OtelLogRecordView :=
  { emptyRecord with
    presentFields := fieldTimestamp
    timestampUnixNanos := 1700000000000000000
    severityNumber := 9
    body := ⟨6, 0, { children := ⟨0, 1⟩ }⟩
    attributes := .elems [⟨viewOf (lit "user.id"), ⟨3, 0, { int64Value := 7 }⟩⟩]
    valueNodes := .elems
      [⟨viewOf [], ⟨7, 0, { children := ⟨1, 1⟩ }⟩⟩,
        ⟨viewOf (lit "k"), ⟨1, 0, { stringValue := viewOf (lit "v") }⟩⟩] }

theorem export_emitted_nested :
    ∃ record out, (emitRecord (fun _ => lit "INFO") nestedRecord).emitted = some record ∧
      convertRecord record 0 = .ok out ∧
      Exports (fun _ => lit "INFO") nestedRecord record out := by
  obtain ⟨record, hrecord⟩ : ∃ record,
      (emitRecord (fun _ => lit "INFO") nestedRecord).emitted = some record ∧
        record.observedTimestamp = none := ⟨_, rfl, rfl⟩
  have hdelivered : Delivered record record := delivered_self (by rw [hrecord.2]; exact ⟨0, rfl⟩)
  obtain ⟨out, hout, hexports⟩ := export_emitted (fun _ => lit "INFO") (fun _ => by decide)
    nestedRecord record hrecord.1 record hdelivered 0
  exact ⟨record, out, hrecord.1, hout, hexports⟩

end OtelC.Logs
