import OtelC.Lib.Commit
import OtelC.Lib.Fields
import OtelC.Logs.EmitRecord

/-!
# One emission, or none

`emit_record` fills one record step by step and hands it to the SDK's logger at the end, and
`logger_emit` finds the view it works on behind a pointer.  Here the steps change the logger, and the
view is read out of the caller's memory.

* `exec_emitRecordSteps`: the steps hand over the record that the view becomes, or nothing.
* `viewAt_sameRead`: what the view says depends on the bytes that are read.
-/

namespace OtelC.Logs

open Commit hiding ofExcept
open Fields

/-! ### The steps -/

/-- The record as `create_log_record` returns it. -/
def SdkLogRecord.new : SdkLogRecord := ⟨none, none, none, none, none, none, [], none, none⟩

/-- A step that may change the records handed to the SDK's logger. -/
abbrev EmitStep (α : Type) := Call (List SdkLogRecord) Fail α

/-- `SdkLogger::emit`. -/
def emit (record : SdkLogRecord) : EmitStep Unit := update (· ++ [record])

def setTimestamp (view : OtelLogRecordView) (record : SdkLogRecord) : Except Fail SdkLogRecord :=
  if view.presentFields &&& fieldTimestamp ≠ 0 then do
    let time ← systemTimeFromUnixNanos view.timestampUnixNanos "log record timestamp"
    .ok { record with timestamp := some time }
  else .ok record

def setObservedTimestamp (view : OtelLogRecordView) (record : SdkLogRecord) :
    Except Fail SdkLogRecord :=
  if view.presentFields &&& fieldObservedTimestamp ≠ 0 then do
    let time ← systemTimeFromUnixNanos view.observedTimestampUnixNanos
      "log record observed timestamp"
    .ok { record with observedTimestamp := some time }
  else .ok record

/-- The number, and the text that goes with it. -/
def setSeverity (severityName : Severity → Str) (view : OtelLogRecordView) (record : SdkLogRecord) :
    Except Fail SdkLogRecord :=
  if view.severityNumber ≠ 0 then
    match severityFromU32 view.severityNumber with
    | some severity =>
      .ok { record with
        severityNumber := some severity
        severityText := some (severityName severity) }
    | none => fail .invalidArgument "log record severity_number must be 0 (absent) or 1..=24"
  else .ok record

def setTraceContext (view : OtelLogRecordView) (record : SdkLogRecord) :
    Except Fail SdkLogRecord :=
  if view.presentFields &&& fieldTraceContext ≠ 0 then do
    let context ← checkTraceContext view.traceContext
    .ok { record with traceContext := some context }
  else .ok record

def setBody (nodes : List OtelLogValueNode) (slots : Slots) (view : OtelLogRecordView)
    (record : SdkLogRecord) : Except Fail (SdkLogRecord × Slots) :=
  if view.body.valueType ≠ OtelLogValueType.empty.toU32 then do
    let (body, slots) ← convertValue nodes slots view.body
    .ok ({ record with body := some body }, slots)
  else .ok (record, slots)

/-- The loop over the attributes and their keys. -/
def addAttributes (nodes : List OtelLogValueNode) :
    Slots → List (Str × OtelLogValueNode) → SdkLogRecord → Except Fail SdkLogRecord
  | _, [], record => .ok record
  | slots, (key, node) :: rest, record => do
    let (value, slots) ← convertValue nodes slots node.value
    addAttributes nodes slots rest
      { record with attributes := record.attributes ++ [(key, value)] }

section Steps

variable (severityName : Severity → Str)

/-- `emit_record`. -/
def emitRecordSteps (view : OtelLogRecordView) : EmitStep Unit := do
  Commit.ofExcept (checkRecordHeader view)
  let attributes := view.attributes.read
  let nodes := view.valueNodes.read
  let attributeKeys ← Commit.ofExcept (attributes.mapM attributeKey)
  let _ ← Commit.ofExcept (validate nodes (bodyRoots view ++ attributes.map OtelLogValueNode.value))
  let slots ← Commit.ofExcept (convertPool nodes nodes.length (newSlots nodes))
  let record ← Commit.ofExcept (setTimestamp view SdkLogRecord.new)
  let record ← Commit.ofExcept (setObservedTimestamp view record)
  let record ← Commit.ofExcept (setSeverity severityName view record)
  let record ← Commit.ofExcept (setTraceContext view record)
  let (record, slots) ← Commit.ofExcept (setBody nodes slots view record)
  let record ← Commit.ofExcept (addAttributes nodes slots (attributeKeys.zip attributes) record)
  emit record

end Steps

/-! ### The view in the caller's memory -/

/-- What stands at an address: so many elements as are asked for. -/
def Pointee (α : Type) := UInt64 → (n : Nat) → {xs : List α // xs.length = n}

/-- The pointer at `offset` with the count behind it. -/
def sliceAt {α : Type} (pointee : Pointee α) (memory : Memory) (offset : Nat) : CSlice α :=
  if u64At memory offset = 0 then .null (u64At memory (offset + 8)).toNat
  else .elems (pointee (u64At memory offset) (u64At memory (offset + 8)).toNat).1

/-- What the pointers of a record point to. -/
structure Pointees where
  bytes : Pointee UInt8
  nodes : Pointee OtelLogValueNode

/-- The members of the payload union share their bytes. -/
def payloadAt (pointees : Pointees) (memory : Memory) (offset : Nat) : OtelLogValuePayload where
  stringValue := sliceAt pointees.bytes memory offset
  boolValue := u32At memory offset
  int64Value := (u64At memory offset).toInt64
  doubleValue := u64At memory offset
  bytesValue := sliceAt pointees.bytes memory offset
  children := ⟨u32At memory offset, u32At memory (offset + 4)⟩

def valueAt (pointees : Pointees) (memory : Memory) (offset : Nat) : OtelLogValue where
  valueType := u32At memory offset
  reserved := u32At memory (offset + 4)
  value := payloadAt pointees memory (offset + 8)

def traceContextAt (memory : Memory) (offset : Nat) : OtelLogTraceContext where
  traceId := ⟨bytesAt memory offset 16, length_bytesAt memory offset 16⟩
  spanId := ⟨bytesAt memory (offset + 16) 8, length_bytesAt memory (offset + 16) 8⟩
  traceFlags := u8At memory (offset + 24)
  reserved := ⟨bytesAt memory (offset + 25) 7, length_bytesAt memory (offset + 25) 7⟩

/-- The record view, field by field in the order of its declaration. -/
def viewAt (pointees : Pointees) (memory : Memory) : OtelLogRecordView where
  structSize := u64At memory 0
  presentFields := u64At memory 8
  timestampUnixNanos := u64At memory 16
  observedTimestampUnixNanos := u64At memory 24
  severityNumber := u32At memory 32
  reservedFlags := u32At memory 36
  body := valueAt pointees memory 40
  attributes := sliceAt pointees.nodes memory 64
  valueNodes := sliceAt pointees.nodes memory 80
  traceContext := traceContextAt memory 96
  reserved := ⟨[u64At memory 128, u64At memory 136, u64At memory 144, u64At memory 152], rfl⟩

/-- `logger_emit` on the caller's memory; a NULL record is `none`.  The leading word alone is read
before the size is known to cover the view. -/
def loggerEmitAt (severityName : Severity → Str) (pointees : Pointees) (loggerCtxIsNull : Bool)
    (record : Option Memory) : EmitStep Unit :=
  if loggerCtxIsNull then Commit.ofExcept (fail .invalidArgument "logger context is NULL")
  else match record with
    | none => Commit.ofExcept (fail .invalidArgument "log record view must not be NULL")
    | some memory =>
      if (u64At memory 0).toNat < recordViewSize then
        Commit.ofExcept (fail .invalidArgument
          "log record view struct_size is smaller than the supported prefix")
      else emitRecordSteps severityName (viewAt pointees memory)

/-! ### The steps build the record of the view -/

theorem setTimestamp_eq (view : OtelLogRecordView) {record : SdkLogRecord}
    (h : record.timestamp = none) : setTimestamp view record = (do
      let time ← optionalTime (view.presentFields &&& fieldTimestamp ≠ 0) view.timestampUnixNanos
        "log record timestamp"
      .ok { record with timestamp := time }) := by
  rw [setTimestamp, optionalTime]
  by_cases hp : view.presentFields &&& fieldTimestamp ≠ 0
  · simp only [hp, decide_true, if_true, not_false_eq_true, ne_eq]
    cases systemTimeFromUnixNanos view.timestampUnixNanos "log record timestamp" <;> rfl
  · simp only [hp, decide_false, if_false, Bool.false_eq_true, Checked.ok_bind, ← h]

theorem setObservedTimestamp_eq (view : OtelLogRecordView) {record : SdkLogRecord}
    (h : record.observedTimestamp = none) : setObservedTimestamp view record = (do
      let time ← optionalTime (view.presentFields &&& fieldObservedTimestamp ≠ 0)
        view.observedTimestampUnixNanos "log record observed timestamp"
      .ok { record with observedTimestamp := time }) := by
  rw [setObservedTimestamp, optionalTime]
  by_cases hp : view.presentFields &&& fieldObservedTimestamp ≠ 0
  · simp only [hp, decide_true, if_true, not_false_eq_true, ne_eq]
    cases systemTimeFromUnixNanos view.observedTimestampUnixNanos
      "log record observed timestamp" <;> rfl
  · simp only [hp, decide_false, if_false, Bool.false_eq_true, Checked.ok_bind, ← h]

theorem setSeverity_eq (severityName : Severity → Str) (view : OtelLogRecordView)
    {record : SdkLogRecord} (hnumber : record.severityNumber = none)
    (htext : record.severityText = none) : setSeverity severityName view record = (do
      let severity ← recordSeverity view
      .ok { record with severityNumber := severity, severityText := severity.map severityName }) := by
  rw [setSeverity, recordSeverity]
  by_cases hp : view.severityNumber ≠ 0
  · rw [if_pos hp, if_pos hp]
    cases severityFromU32 view.severityNumber <;> rfl
  · rw [if_neg hp, if_neg hp, Checked.ok_bind]
    cases record
    cases hnumber
    cases htext
    rfl

theorem setTraceContext_eq (view : OtelLogRecordView) {record : SdkLogRecord}
    (h : record.traceContext = none) : setTraceContext view record = (do
      let context ← recordTraceContext view
      .ok { record with traceContext := context }) := by
  rw [setTraceContext, recordTraceContext]
  by_cases hp : view.presentFields &&& fieldTraceContext ≠ 0
  · rw [if_pos hp, if_pos hp]
    cases checkTraceContext view.traceContext <;> rfl
  · rw [if_neg hp, if_neg hp, Checked.ok_bind]
    simp only [← h]

theorem setBody_eq (nodes : List OtelLogValueNode) (slots : Slots) (view : OtelLogRecordView)
    {record : SdkLogRecord} (h : record.body = none) : setBody nodes slots view record = (do
      let (body, slots) ← convertValues nodes slots (bodyRoots view)
      .ok ({ record with body := body.head? }, slots)) := by
  rw [setBody, bodyRoots]
  by_cases hp : view.body.valueType ≠ OtelLogValueType.empty.toU32
  · rw [if_pos hp, if_pos hp, convertValues]
    cases convertValue nodes slots view.body <;> rfl
  · rw [if_neg hp, if_neg hp, convertValues, Checked.ok_bind]
    simp only [List.head?_nil, ← h]

/-- The loop appends a value for each key. -/
theorem addAttributes_eq (nodes : List OtelLogValueNode) (slots : Slots) (keys : List Str)
    (attributes : List OtelLogValueNode) (record : SdkLogRecord)
    (hlen : keys.length = attributes.length) :
    addAttributes nodes slots (keys.zip attributes) record = (do
      let (values, _) ← convertValues nodes slots (attributes.map OtelLogValueNode.value)
      .ok { record with attributes := record.attributes ++ keys.zip values }) := by
  induction attributes generalizing keys slots record with
  | nil =>
    rw [List.zip_nil_right, addAttributes, List.map_nil, convertValues, Checked.ok_bind]
    simp only [List.zip_nil_right, List.append_nil]
  | cons node rest ih =>
    cases keys with
    | nil => cases hlen
    | cons key keys =>
      rw [List.zip_cons_cons, addAttributes, List.map_cons, convertValues]
      cases convertValue nodes slots node.value with
      | error e => rfl
      | ok x =>
        obtain ⟨value, slots'⟩ := x
        simp only [Checked.ok_bind]
        rw [ih slots' keys _ (Nat.succ.inj hlen)]
        cases convertValues nodes slots' (rest.map OtelLogValueNode.value) with
        | error e => rfl
        | ok y => simp only [Checked.ok_bind, List.append_assoc, List.singleton_append,
            List.zip_cons_cons]

/-- The steps hand over the record the view becomes, or change nothing. -/
theorem exec_emitRecordSteps (severityName : Severity → Str) (view : OtelLogRecordView)
    (records : List SdkLogRecord) :
    exec (emitRecordSteps severityName view) records =
      match recordOfView severityName view with
      | .error e => (.error e, records)
      | .ok record => (.ok (), records ++ [record]) := by
  unfold emitRecordSteps recordOfView
  simp only [exec_ofExcept_bind]
  cases checkRecordHeader view with
  | error e => rfl
  | ok _ =>
  cases hkeys : view.attributes.read.mapM attributeKey with
  | error e => simp only [Checked.ok_bind, Checked.error_bind]
  | ok keys =>
  have hlen : keys.length = view.attributes.read.length :=
    (Checked.mapM_eq_ok.mp hkeys).length_eq.symm
  simp only [Checked.ok_bind]
  cases validate view.valueNodes.read
      (bodyRoots view ++ view.attributes.read.map OtelLogValueNode.value) with
  | error e => rfl
  | ok _ =>
  cases convertPool view.valueNodes.read view.valueNodes.read.length
      (newSlots view.valueNodes.read) with
  | error e => rfl
  | ok slots =>
  simp only [Checked.ok_bind]
  rw [setTimestamp_eq view rfl]
  cases optionalTime (view.presentFields &&& fieldTimestamp ≠ 0) view.timestampUnixNanos
      "log record timestamp" with
  | error e => rfl
  | ok timestamp =>
  simp only [Checked.ok_bind]
  rw [setObservedTimestamp_eq view rfl]
  cases optionalTime (view.presentFields &&& fieldObservedTimestamp ≠ 0)
      view.observedTimestampUnixNanos "log record observed timestamp" with
  | error e => rfl
  | ok observedTimestamp =>
  simp only [Checked.ok_bind]
  rw [setSeverity_eq severityName view rfl rfl]
  cases recordSeverity view with
  | error e => rfl
  | ok severity =>
  simp only [Checked.ok_bind]
  rw [setTraceContext_eq view rfl]
  cases recordTraceContext view with
  | error e => rfl
  | ok context =>
  simp only [Checked.ok_bind]
  rw [setBody_eq view.valueNodes.read slots view rfl]
  cases convertValues view.valueNodes.read slots (bodyRoots view) with
  | error e => rfl
  | ok x =>
  obtain ⟨body, slots'⟩ := x
  simp only [Checked.ok_bind]
  rw [addAttributes_eq view.valueNodes.read slots' keys view.attributes.read _ hlen]
  cases convertValues view.valueNodes.read slots'
      (view.attributes.read.map OtelLogValueNode.value) with
  | error e => rfl
  | ok y => rfl

/-! ### What is read -/

/-- Two views that differ at most in their size and in fields that are not present. -/
structure SameRead (view view' : OtelLogRecordView) : Prop where
  presentFields : view.presentFields = view'.presentFields
  timestamp : view.presentFields &&& fieldTimestamp ≠ 0 →
    view.timestampUnixNanos = view'.timestampUnixNanos
  observedTimestamp : view.presentFields &&& fieldObservedTimestamp ≠ 0 →
    view.observedTimestampUnixNanos = view'.observedTimestampUnixNanos
  severityNumber : view.severityNumber = view'.severityNumber
  reservedFlags : view.reservedFlags = view'.reservedFlags
  body : view.body = view'.body
  attributes : view.attributes = view'.attributes
  valueNodes : view.valueNodes = view'.valueNodes
  traceContext : view.presentFields &&& fieldTraceContext ≠ 0 →
    view.traceContext = view'.traceContext
  reserved : view.reserved = view'.reserved

theorem optionalTime_congr {present : Bool} {nanos nanos' : UInt64} (what : String)
    (h : present = true → nanos = nanos') :
    optionalTime present nanos what = optionalTime present nanos' what := by
  cases present with
  | false => rfl
  | true => rw [h rfl]

theorem recordTraceContext_congr {view view' : OtelLogRecordView} (h : SameRead view view') :
    recordTraceContext view = recordTraceContext view' := by
  rw [recordTraceContext, recordTraceContext, ← h.presentFields]
  by_cases hp : view.presentFields &&& fieldTraceContext ≠ 0
  · rw [if_pos hp, if_pos hp, h.traceContext hp]
  · rw [if_neg hp, if_neg hp]

theorem recordOfView_congr (severityName : Severity → Str) {view view' : OtelLogRecordView}
    (h : SameRead view view') : recordOfView severityName view = recordOfView severityName view' := by
  have hheader : checkRecordHeader view = checkRecordHeader view' := by
    rw [checkRecordHeader, checkRecordHeader, h.presentFields, h.severityNumber, h.reservedFlags,
      h.body, h.attributes, h.valueNodes, h.reserved]
  have hbody : bodyRoots view = bodyRoots view' := by rw [bodyRoots, bodyRoots, h.body]
  have htime := optionalTime_congr "log record timestamp" fun hp => h.timestamp (of_decide_eq_true hp)
  have hobserved := optionalTime_congr "log record observed timestamp" fun hp =>
    h.observedTimestamp (of_decide_eq_true hp)
  have hseverity : recordSeverity view = recordSeverity view' := by
    rw [recordSeverity, recordSeverity, h.severityNumber]
  unfold recordOfView
  simp only [hheader, h.attributes, h.valueNodes, hbody, htime, hobserved, hseverity,
    recordTraceContext_congr h]
  rw [h.presentFields]

/-- The offsets of a record that count: those below its size, without the fields not present. -/
def Counts (memory : Memory) (i : Nat) : Prop :=
  i < (u64At memory 0).toNat ∧
  (16 ≤ i → i < 24 → u64At memory 8 &&& fieldTimestamp ≠ 0) ∧
  (24 ≤ i → i < 32 → u64At memory 8 &&& fieldObservedTimestamp ≠ 0) ∧
  (96 ≤ i → i < 128 → u64At memory 8 &&& fieldTraceContext ≠ 0)

theorem sliceAt_congr {α : Type} (pointee : Pointee α) {memory memory' : Memory} {offset : Nat}
    (h : SameAt memory memory' offset 16) :
    sliceAt pointee memory offset = sliceAt pointee memory' offset := by
  rw [sliceAt, sliceAt, u64At_congr (h.mono le_rfl (by omega)),
    u64At_congr (h.mono (by omega) (by omega) : SameAt memory memory' (offset + 8) 8)]

theorem valueAt_congr (pointees : Pointees) {memory memory' : Memory} {offset : Nat}
    (h : SameAt memory memory' offset 24) :
    valueAt pointees memory offset = valueAt pointees memory' offset := by
  have htype : u32At memory offset = u32At memory' offset :=
    u32At_congr (h.mono le_rfl (by omega))
  have hreserved : u32At memory (offset + 4) = u32At memory' (offset + 4) :=
    u32At_congr (h.mono (by omega) (by omega))
  have hview : sliceAt pointees.bytes memory (offset + 8) =
      sliceAt pointees.bytes memory' (offset + 8) :=
    sliceAt_congr _ (h.mono (by omega) (by omega))
  have hword : u64At memory (offset + 8) = u64At memory' (offset + 8) :=
    u64At_congr (h.mono (by omega) (by omega))
  have hlow : u32At memory (offset + 8) = u32At memory' (offset + 8) :=
    u32At_congr (h.mono (by omega) (by omega))
  have hhigh : u32At memory (offset + 8 + 4) = u32At memory' (offset + 8 + 4) :=
    u32At_congr (h.mono (by omega) (by omega))
  rw [valueAt, valueAt, payloadAt, payloadAt, htype, hreserved, hview, hword, hlow, hhigh]

theorem traceContextAt_congr {memory memory' : Memory} {offset : Nat}
    (h : SameAt memory memory' offset 32) :
    traceContextAt memory offset = traceContextAt memory' offset := by
  have htrace : bytesAt memory offset 16 = bytesAt memory' offset 16 :=
    bytesAt_congr (h.mono le_rfl (by omega))
  have hspan : bytesAt memory (offset + 16) 8 = bytesAt memory' (offset + 16) 8 :=
    bytesAt_congr (h.mono (by omega) (by omega))
  have hflags : u8At memory (offset + 24) = u8At memory' (offset + 24) :=
    u8At_congr (h.mono (by omega) (by omega))
  have hreserved : bytesAt memory (offset + 25) 7 = bytesAt memory' (offset + 25) 7 :=
    bytesAt_congr (h.mono (by omega) (by omega))
  simp only [traceContextAt, htrace, hspan, hflags, hreserved]

section Memories

variable {memory memory' : Memory}

/-- The bytes outside the three optional fields. -/
theorem sameAt_plain (hsize : 160 ≤ (u64At memory 0).toNat)
    (h : ∀ i, Counts memory i → memory i = memory' i) {offset width : Nat}
    (hout : offset + width ≤ 16 ∨ 32 ≤ offset ∧ offset + width ≤ 96 ∨
      128 ≤ offset ∧ offset + width ≤ 160) : SameAt memory memory' offset width := by
  intro i hi hlt
  apply h
  refine ⟨by omega, fun _ _ => ?_, fun _ _ => ?_, fun _ _ => ?_⟩ <;> omega

theorem sameAt_timestamp (hsize : 160 ≤ (u64At memory 0).toNat)
    (h : ∀ i, Counts memory i → memory i = memory' i)
    (hp : u64At memory 8 &&& fieldTimestamp ≠ 0) : SameAt memory memory' 16 8 := by
  intro i hi hlt
  apply h
  refine ⟨by omega, fun _ _ => hp, fun _ _ => ?_, fun _ _ => ?_⟩ <;> omega

theorem sameAt_observedTimestamp (hsize : 160 ≤ (u64At memory 0).toNat)
    (h : ∀ i, Counts memory i → memory i = memory' i)
    (hp : u64At memory 8 &&& fieldObservedTimestamp ≠ 0) : SameAt memory memory' 24 8 := by
  intro i hi hlt
  apply h
  refine ⟨by omega, fun _ _ => ?_, fun _ _ => hp, fun _ _ => ?_⟩ <;> omega

theorem sameAt_traceContext (hsize : 160 ≤ (u64At memory 0).toNat)
    (h : ∀ i, Counts memory i → memory i = memory' i)
    (hp : u64At memory 8 &&& fieldTraceContext ≠ 0) : SameAt memory memory' 96 32 := by
  intro i hi hlt
  apply h
  refine ⟨by omega, fun _ _ => ?_, fun _ _ => ?_, fun _ _ => hp⟩ <;> omega

/-- Views whose bytes that count are the same differ in nothing that is read. -/
theorem viewAt_sameRead (pointees : Pointees) (hsize : 160 ≤ (u64At memory 0).toNat)
    (h : ∀ i, Counts memory i → memory i = memory' i) :
    SameRead (viewAt pointees memory) (viewAt pointees memory') where
  presentFields := u64At_congr (sameAt_plain hsize h (by omega))
  timestamp := fun hp => u64At_congr (sameAt_timestamp hsize h hp)
  observedTimestamp := fun hp => u64At_congr (sameAt_observedTimestamp hsize h hp)
  severityNumber := u32At_congr (sameAt_plain hsize h (by omega))
  reservedFlags := u32At_congr (sameAt_plain hsize h (by omega))
  body := valueAt_congr pointees (sameAt_plain hsize h (by omega))
  attributes := by
    simp only [viewAt]
    exact sliceAt_congr pointees.nodes (sameAt_plain hsize h (by omega))
  valueNodes := by
    simp only [viewAt]
    exact sliceAt_congr pointees.nodes (sameAt_plain hsize h (by omega))
  traceContext := by
    intro hp
    have hsame := sameAt_traceContext hsize h hp
    show traceContextAt memory 96 = traceContextAt memory' 96
    exact traceContextAt_congr hsame
  reserved := by
    have hword : ∀ offset, 128 ≤ offset → offset + 8 ≤ 160 →
        u64At memory offset = u64At memory' offset := fun offset hstart hstop =>
      u64At_congr (sameAt_plain hsize h (.inr (.inr ⟨hstart, hstop⟩)))
    apply Subtype.ext
    show [u64At memory 128, u64At memory 136, u64At memory 144, u64At memory 152] =
      [u64At memory' 128, u64At memory' 136, u64At memory' 144, u64At memory' 152]
    rw [hword 128 (by omega) (by omega), hword 136 (by omega) (by omega),
      hword 144 (by omega) (by omega), hword 152 (by omega) (by omega)]

end Memories

/-! ### One or none -/

theorem loggerEmitAt_nullCtx (severityName : Severity → Str) (pointees : Pointees)
    (record : Option Memory) : loggerEmitAt severityName pointees true record =
      Commit.ofExcept (fail .invalidArgument "logger context is NULL") := by
  unfold loggerEmitAt
  exact if_pos rfl

theorem loggerEmitAt_null (severityName : Severity → Str) (pointees : Pointees) :
    loggerEmitAt severityName pointees false none =
      Commit.ofExcept (fail .invalidArgument "log record view must not be NULL") := by
  unfold loggerEmitAt
  exact if_neg Bool.false_ne_true

theorem loggerEmitAt_some (severityName : Severity → Str) (pointees : Pointees) (memory : Memory) :
    loggerEmitAt severityName pointees false (some memory) =
      if (u64At memory 0).toNat < recordViewSize then
        Commit.ofExcept (fail .invalidArgument
          "log record view struct_size is smaller than the supported prefix")
      else emitRecordSteps severityName (viewAt pointees memory) := by
  unfold loggerEmitAt
  exact if_neg Bool.false_ne_true

theorem exec_loggerEmitAt (severityName : Severity → Str) (pointees : Pointees)
    (loggerCtxIsNull : Bool) (record : Option Memory) (records : List SdkLogRecord) :
    (∃ memory emitted, loggerCtxIsNull = false ∧ record = some memory ∧
      recordViewSize ≤ (u64At memory 0).toNat ∧ Emits severityName (viewAt pointees memory) emitted ∧
      exec (loggerEmitAt severityName pointees loggerCtxIsNull record) records =
        (.ok (), records ++ [emitted])) ∨
    ∃ e, exec (loggerEmitAt severityName pointees loggerCtxIsNull record) records =
      (.error e, records) := by
  cases loggerCtxIsNull with
  | true =>
    rw [loggerEmitAt_nullCtx]
    exact .inr ⟨_, exec_ofExcept _ _⟩
  | false =>
    cases record with
    | none =>
      rw [loggerEmitAt_null]
      exact .inr ⟨_, exec_ofExcept _ _⟩
    | some memory =>
      rw [loggerEmitAt_some]
      by_cases hsize : (u64At memory 0).toNat < recordViewSize
      · rw [if_pos hsize]
        exact .inr ⟨_, exec_ofExcept _ _⟩
      · rw [if_neg hsize, exec_emitRecordSteps]
        cases hrecord : recordOfView severityName (viewAt pointees memory) with
        | error e => exact .inr ⟨e, rfl⟩
        | ok emitted =>
          exact .inl ⟨memory, emitted, rfl, rfl, Nat.le_of_not_lt hsize,
            recordOfView_ok_iff.mp hrecord, rfl⟩

/-- Records of one size are emitted alike when their bytes that count are the same. -/
theorem loggerEmitAt_congr (severityName : Severity → Str) (pointees : Pointees)
    (loggerCtxIsNull : Bool) {memory memory' : Memory} (hsize : u64At memory 0 = u64At memory' 0)
    (h : ∀ i, Counts memory i → memory i = memory' i) (records : List SdkLogRecord) :
    exec (loggerEmitAt severityName pointees loggerCtxIsNull (some memory)) records =
      exec (loggerEmitAt severityName pointees loggerCtxIsNull (some memory')) records := by
  cases loggerCtxIsNull with
  | true => rw [loggerEmitAt_nullCtx, loggerEmitAt_nullCtx]
  | false =>
    rw [loggerEmitAt_some, loggerEmitAt_some, ← hsize]
    by_cases hsmall : (u64At memory 0).toNat < recordViewSize
    · rw [if_pos hsmall, if_pos hsmall]
    · have hview := viewAt_sameRead pointees (Nat.le_of_not_lt hsmall) h
      rw [if_neg hsmall, if_neg hsmall, exec_emitRecordSteps, exec_emitRecordSteps,
        recordOfView_congr severityName hview]

/-- **A record is emitted whole or not at all.**  An emission that returns OK has handed the logger one
record, the one the view becomes, and an emission that fails has handed it none.  Neither the bytes
behind the declared size nor the fields that are not present have a say in it. -/
theorem emission_all_or_nothing (severityName : Severity → Str) (pointees : Pointees)
    (loggerCtxIsNull : Bool) (record : Option Memory) (records : List SdkLogRecord) :
    ((∃ memory emitted, loggerCtxIsNull = false ∧ record = some memory ∧
        recordViewSize ≤ (u64At memory 0).toNat ∧
        Emits severityName (viewAt pointees memory) emitted ∧
        exec (loggerEmitAt severityName pointees loggerCtxIsNull record) records =
          (.ok (), records ++ [emitted])) ∨
      ∃ e : Fail, exec (loggerEmitAt severityName pointees loggerCtxIsNull record) records =
        (.error e, records)) ∧
    ∀ memory memory' : Memory, record = some memory → u64At memory 0 = u64At memory' 0 →
      (∀ i, Counts memory i → memory i = memory' i) →
      exec (loggerEmitAt severityName pointees loggerCtxIsNull (some memory')) records =
        exec (loggerEmitAt severityName pointees loggerCtxIsNull record) records := by
  refine ⟨exec_loggerEmitAt severityName pointees loggerCtxIsNull record records, ?_⟩
  intro memory memory' hrecord hsize h
  rw [hrecord]
  exact (loggerEmitAt_congr severityName pointees loggerCtxIsNull hsize h records).symm

/-- A record of severity 9 and the time 7, with `fill` in the times and the context that it has not and
behind its size. -/
def timedRecord (fill : UInt8) : Memory := fun i =>
  if 24 ≤ i ∧ i < 32 ∨ 96 ≤ i ∧ i < 128 ∨ 160 ≤ i then fill
  else if i = 0 then 160 else if i = 8 then 1 else if i = 16 then 7 else if i = 32 then 9 else 0

theorem counts_timedRecord {i : Nat} (h : Counts (timedRecord 0) i) :
    ¬(24 ≤ i ∧ i < 32 ∨ 96 ≤ i ∧ i < 128 ∨ 160 ≤ i) := by
  obtain ⟨hsize, -, hobserved, hcontext⟩ := h
  have hlt : i < 160 := hsize
  rintro (⟨hle, hlt⟩ | ⟨hle, hlt⟩ | hle)
  · exact hobserved hle hlt (by decide)
  · exact hcontext hle hlt (by decide)
  · omega

/-- No pointer leads anywhere but to zeros. -/
def nowhere : Pointees where
  bytes := fun _ n => ⟨List.replicate n 0, List.length_replicate⟩
  nodes := fun _ n => ⟨List.replicate n ⟨.null 0, ⟨0, 0, {}⟩⟩, List.length_replicate⟩

theorem emission_all_or_nothing_timed :
    exec (loggerEmitAt (fun _ => lit "INFO") nowhere false (some (timedRecord 0xFF))) [] =
      (.ok (), [{ SdkLogRecord.new with
        timestamp := some 7
        severityNumber := some .info
        severityText := some (lit "INFO") }]) := by
  have hemitted := (emission_all_or_nothing (fun _ => lit "INFO") nowhere false
    (some (timedRecord 0)) []).2 (timedRecord 0) (timedRecord 0xFF) rfl (by decide) fun i hi => by
      rw [timedRecord, timedRecord, if_neg (counts_timedRecord hi), if_neg (counts_timedRecord hi)]
  rw [hemitted]
  rfl

end OtelC.Logs
