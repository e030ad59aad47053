import OtelC.Logs.Export
import OtelC.Sdk.Resource

/-!
# Exporting a batch of log records

A custom exporter is called with one batch, the resource of the provider and every scope of the batch.
The conversion is all or nothing, and it puts the limits of the borrowed view on the resource and the
scopes too, which the SDK builder and the loggers accept beyond these limits.

* `convertBatch_ok_iff`: when a batch is converted.
* `convertBatch_accepted`: when a batch of accepted records is converted.
-/

namespace OtelC.Logs

open Sdk

/-! ### Scopes -/

/-- `OTEL_LOG_EXPORT_MAX_RECORDS`. -/
def exportMaxRecords : Nat := 65536

/-- `size_of::<OtelLogExportScopeView>()`. -/
def exportScopeViewSize : UInt64 := 104

structure ConvertedScope where
  view : OtelLogExportScopeView
  attributes : List OtelLogValueNode
  nodes : List OtelLogValueNode

/-- The attributes of a resource or a scope, to be flattened. -/
def attributeSources (attributes : List KeyValue) : List (Str × Source) :=
  attributes.map fun kv => (kv.key, .attr kv.value)

/-- `convert_scope`. -/
def convertScope (scope : InstrumentationScope) : Except Fail ConvertedScope := do
  let flattened ← flatten none (attributeSources scope.attributes)
  let name ← stringView scope.name
  let version ← optionalStringView scope.version
  let schemaUrl ← optionalStringView scope.schemaUrl
  .ok {
    view := {
      structSize := exportScopeViewSize
      name := name
      version := version
      schemaUrl := schemaUrl
      attributes := .null flattened.attributes.length
      valueNodes := .null flattened.nodes.length
      reserved := [0, 0] }
    attributes := flattened.attributes
    nodes := flattened.nodes }

/-! ### The records of a batch -/

/-- A batch borrows its records and their scopes; a scope is known by its address. -/
structure LogBatch where
  entries : List (SdkLogRecord × Nat)
  scopeAt : Nat → InstrumentationScope

/-- The vectors that `convert_batch` fills. -/
structure BatchState where
  recordCount : Nat
  scopeKeys : List Nat
  scopes : List ConvertedScope
  records : List ConvertedRecord

def BatchState.start : BatchState := ⟨0, [], [], []⟩

/-- The index of the scope at an address, which is converted when it is met first. -/
def scopeIndex (scopeAt : Nat → InstrumentationScope) (st : BatchState) (key : Nat) :
    Except Fail (BatchState × Nat) :=
  match st.scopeKeys.idxOf? key with
  | some i => .ok (st, i)
  | none => do
    let converted ← convertScope (scopeAt key)
    .ok ({ st with
      scopeKeys := st.scopeKeys ++ [key]
      scopes := st.scopes ++ [converted] }, st.scopes.length)

/-- One turn of the loop over the batch. -/
def convertEntry (scopeAt : Nat → InstrumentationScope) (st : BatchState)
    (entry : SdkLogRecord × Nat) : Except Fail BatchState :=
  if st.recordCount + 1 > exportMaxRecords then
    fail .exportFailed s!"exported log batch carries more than {exportMaxRecords} records"
  else do
    let found ← scopeIndex scopeAt { st with recordCount := st.recordCount + 1 } entry.2
    let converted ← convertRecord entry.1 found.2
    .ok { found.1 with records := found.1.records ++ [converted] }

/-! ### The batch -/

structure OtelLogExportBatchView where
  structSize : UInt64
  records : List OtelLogExportRecordView
  resourceSchemaUrl : OtelStringView
  resourceAttributes : CSlice OtelLogValueNode
  resourceValueNodes : CSlice OtelLogValueNode
  reserved : List UInt64

/-- `size_of::<OtelLogExportBatchView>()`. -/
def exportBatchViewSize : UInt64 := 104

/-- A scope view with its interior pointers. -/
def ConvertedScope.patched (scope : ConvertedScope) : OtelLogExportScopeView :=
  { scope.view with
    attributes := .elems scope.attributes
    valueNodes := .elems scope.nodes }

/-- A record view with its interior pointers. -/
def ConvertedRecord.patched (scopes : List OtelLogExportScopeView) (record : ConvertedRecord) :
    OtelLogExportRecordView :=
  { record.view with
    attributes := .elems record.attributes
    valueNodes := .elems record.nodes
    scope := scopes[record.scopeIndex]? }

/-- `convert_batch`. -/
def convertBatch (batch : LogBatch) (resource : Resource) :
    Except Fail OtelLogExportBatchView := do
  let flattened ← flatten none (attributeSources resource.attributes)
  let st ← batch.entries.foldlM (convertEntry batch.scopeAt) .start
  let schemaUrl ← optionalStringView resource.schemaUrl
  .ok {
    structSize := exportBatchViewSize
    records := st.records.map (·.patched (st.scopes.map ConvertedScope.patched))
    resourceSchemaUrl := schemaUrl
    resourceAttributes := .elems flattened.attributes
    resourceValueNodes := .elems flattened.nodes
    reserved := [0, 0, 0, 0] }

/-! ### When a batch is converted -/

/-- The trees of the attributes of a resource or a scope. -/
def attributeTrees (attributes : List KeyValue) : List AnyValue :=
  attributes.map fun kv => attributeTree kv.value

/-- A resource or a scope whose attributes are within the limits of the flattener. -/
def AttributesConvert (attributes : List KeyValue) : Prop :=
  OwnerFits (attributes.map KeyValue.key) (attributeTrees attributes)

/-- A scope within the limits of the export. -/
structure ScopeConverts (scope : InstrumentationScope) : Prop where
  attributes : AttributesConvert scope.attributes
  name : scope.name.len ≤ maxStringLen
  version : TextFits scope.version
  schemaUrl : TextFits scope.schemaUrl

theorem denotes_attributeSources (attributes : List KeyValue) :
    List.Forall₂ Source.Denotes ((attributeSources attributes).map Prod.snd)
      (attributeTrees attributes) := by
  rw [attributeSources, attributeTrees, List.map_map, List.forall₂_map_left_iff,
    List.forall₂_map_right_iff, List.forall₂_same]
  exact fun _ _ => rfl

theorem flatten_attributes_ok_iff {attributes : List KeyValue} :
    (∃ out, flatten none (attributeSources attributes) = .ok out) ↔
      AttributesConvert attributes := by
  rw [flatten_ok_iff_fits (denotes_attributeSources attributes), attributeSources, List.map_map]
  exact Iff.rfl

theorem convertScope_ok_iff {scope : InstrumentationScope} :
    (∃ out, convertScope scope = .ok out) ↔ ScopeConverts scope := by
  constructor
  · intro h
    obtain ⟨out, h⟩ := h
    obtain ⟨flattened, hflatten, h⟩ := Checked.bind_eq_ok.mp h
    obtain ⟨name, hname, h⟩ := Checked.bind_eq_ok.mp h
    obtain ⟨version, hversion, h⟩ := Checked.bind_eq_ok.mp h
    obtain ⟨schemaUrl, hschemaUrl, -⟩ := Checked.bind_eq_ok.mp h
    exact ⟨flatten_attributes_ok_iff.mp ⟨flattened, hflatten⟩, (stringView_ok_iff.mp hname).1,
      (optionalStringView_ok_iff.mp hversion).1, (optionalStringView_ok_iff.mp hschemaUrl).1⟩
  · intro h
    obtain ⟨flattened, hflatten⟩ := flatten_attributes_ok_iff.mpr h.attributes
    exact ⟨_, Checked.bind_eq_ok.mpr ⟨flattened, hflatten,
      Checked.bind_eq_ok.mpr ⟨_, stringView_ok_iff.mpr ⟨h.name, rfl⟩,
      Checked.bind_eq_ok.mpr ⟨_, optionalStringView_ok_iff.mpr ⟨h.version, rfl⟩,
      Checked.bind_eq_ok.mpr ⟨_, optionalStringView_ok_iff.mpr ⟨h.schemaUrl, rfl⟩, rfl⟩⟩⟩⟩⟩

section Entries

variable {scopeAt : Nat → InstrumentationScope} {st st' : BatchState}

theorem scopeIndex_ok_iff {key : Nat} :
    (∃ found, scopeIndex scopeAt st key = .ok found) ↔
      key ∈ st.scopeKeys ∨ ScopeConverts (scopeAt key) := by
  rw [← convertScope_ok_iff, scopeIndex]
  split
  · rename_i i hi
    obtain ⟨hlt, hkey, -⟩ := List.idxOf?_eq_some_iff.mp hi
    exact iff_of_true ⟨_, rfl⟩ (.inl (hkey ▸ List.getElem_mem hlt))
  · rename_i hnone
    have hnew : key ∉ st.scopeKeys := List.idxOf?_eq_none_iff.mp hnone
    constructor
    · intro h
      obtain ⟨found, h⟩ := h
      obtain ⟨converted, hconverted, -⟩ := Checked.bind_eq_ok.mp h
      exact .inr ⟨converted, hconverted⟩
    · intro h
      obtain ⟨converted, hconverted⟩ := h.resolve_left hnew
      exact ⟨_, Checked.bind_eq_ok.mpr ⟨converted, hconverted, rfl⟩⟩

/-- The scopes that can be looked up do not depend on the count. -/
theorem scopeIndex_counted_ok_iff {key n : Nat} :
    (∃ found, scopeIndex scopeAt { st with recordCount := n } key = .ok found) ↔
      key ∈ st.scopeKeys ∨ ScopeConverts (scopeAt key) := scopeIndex_ok_iff

/-- Looking a scope up counts no record, and makes its address one of the known ones. -/
theorem scopeIndex_ok {key : Nat} {found : BatchState × Nat}
    (h : scopeIndex scopeAt st key = .ok found) :
    found.1.recordCount = st.recordCount ∧
      ∀ k, k ∈ found.1.scopeKeys ↔ k ∈ st.scopeKeys ∨ k = key := by
  rw [scopeIndex] at h
  split at h
  · rename_i i hi
    obtain ⟨hlt, hkey, -⟩ := List.idxOf?_eq_some_iff.mp hi
    obtain rfl := Except.ok.inj h
    refine ⟨rfl, fun k => (or_iff_left_of_imp ?_).symm⟩
    intro hk
    rw [hk, ← hkey]
    exact List.getElem_mem hlt
  · obtain ⟨converted, -, h⟩ := Checked.bind_eq_ok.mp h
    obtain rfl := Except.ok.inj h
    refine ⟨rfl, fun k => ?_⟩
    rw [List.mem_append, List.mem_singleton]

theorem convertEntry_ok_iff {entry : SdkLogRecord × Nat} :
    (∃ st', convertEntry scopeAt st entry = .ok st') ↔
      st.recordCount < exportMaxRecords ∧ RecordFits entry.1 ∧
        (entry.2 ∈ st.scopeKeys ∨ ScopeConverts (scopeAt entry.2)) := by
  constructor
  · intro h
    obtain ⟨st', h⟩ := h
    obtain ⟨hcount, h⟩ := Checked.guard_eq_ok.mp h
    obtain ⟨found, hfound, h⟩ := Checked.bind_eq_ok.mp h
    obtain ⟨converted, hconverted, -⟩ := Checked.bind_eq_ok.mp h
    exact ⟨Nat.not_lt.mp hcount, convertRecord_ok_iff.mp ⟨converted, hconverted⟩,
      scopeIndex_counted_ok_iff.mp ⟨found, hfound⟩⟩
  · intro h
    obtain ⟨hcount, hrecord, hscope⟩ := h
    obtain ⟨found, hfound⟩ := scopeIndex_counted_ok_iff.mpr hscope
    obtain ⟨converted, hconverted⟩ := convertRecord_ok_iff.mpr hrecord
    exact ⟨_, Checked.guard_eq_ok.mpr ⟨Nat.not_lt.mpr hcount,
      Checked.bind_eq_ok.mpr ⟨found, hfound,
      Checked.bind_eq_ok.mpr ⟨converted, hconverted, rfl⟩⟩⟩⟩

/-- What one record leaves: it is counted, and the address of its scope is known. -/
theorem convertEntry_ok {entry : SdkLogRecord × Nat} (h : convertEntry scopeAt st entry = .ok st') :
    st'.recordCount = st.recordCount + 1 ∧
      ∀ k, k ∈ st'.scopeKeys ↔ k ∈ st.scopeKeys ∨ k = entry.2 := by
  obtain ⟨-, h⟩ := Checked.guard_eq_ok.mp h
  obtain ⟨found, hfound, h⟩ := Checked.bind_eq_ok.mp h
  obtain ⟨converted, -, h⟩ := Checked.bind_eq_ok.mp h
  obtain rfl := Except.ok.inj h
  exact scopeIndex_ok hfound

theorem convertEntries_ok_iff {entries : List (SdkLogRecord × Nat)}
    (hcount : st.recordCount ≤ exportMaxRecords) :
    (∃ out, entries.foldlM (convertEntry scopeAt) st = .ok out) ↔
      st.recordCount + entries.length ≤ exportMaxRecords ∧
        ∀ entry ∈ entries, RecordFits entry.1 ∧
          (entry.2 ∈ st.scopeKeys ∨ ScopeConverts (scopeAt entry.2)) := by
  induction entries generalizing st with
  | nil =>
    refine iff_of_true ⟨st, rfl⟩ ⟨hcount, ?_⟩
    intro entry hentry
    cases hentry
  | cons entry entries ih =>
    simp only [List.foldlM_cons, List.forall_mem_cons, List.length_cons]
    constructor
    · intro h
      obtain ⟨out, h⟩ := h
      obtain ⟨st', hst', h⟩ := Checked.bind_eq_ok.mp h
      obtain ⟨hroom, hhead⟩ := convertEntry_ok_iff.mp ⟨st', hst'⟩
      obtain ⟨hnext, hkeys⟩ := convertEntry_ok hst'
      obtain ⟨hlen, hrest⟩ := (ih (by omega)).mp ⟨out, h⟩
      refine ⟨by omega, hhead, fun other hother => ?_⟩
      obtain ⟨hrecord, hscope⟩ := hrest other hother
      refine ⟨hrecord, ?_⟩
      rcases hscope with hknown | hscope
      · rcases (hkeys _).mp hknown with hknown | hsame
        · exact .inl hknown
        · rw [hsame]
          exact hhead.2
      · exact .inr hscope
    · intro h
      obtain ⟨hlen, hhead, hrest⟩ := h
      obtain ⟨st', hst'⟩ := convertEntry_ok_iff.mpr ⟨by omega, hhead⟩
      obtain ⟨hnext, hkeys⟩ := convertEntry_ok hst'
      have htail : ∀ other ∈ entries, RecordFits other.1 ∧
          (other.2 ∈ st'.scopeKeys ∨ ScopeConverts (scopeAt other.2)) := fun other hother =>
        ⟨(hrest other hother).1,
          (hrest other hother).2.imp_left fun hknown => (hkeys _).mpr (.inl hknown)⟩
      obtain ⟨out, hout⟩ := (ih (by omega)).mpr ⟨by omega, htail⟩
      exact ⟨out, Checked.bind_eq_ok.mpr ⟨st', hst', hout⟩⟩

end Entries

/-- **When a batch is converted.** -/
theorem convertBatch_ok_iff {batch : LogBatch} {resource : Resource} :
    (∃ view, convertBatch batch resource = .ok view) ↔
      AttributesConvert resource.attributes ∧ TextFits resource.schemaUrl ∧
        batch.entries.length ≤ exportMaxRecords ∧
        ∀ entry ∈ batch.entries, RecordFits entry.1 ∧ ScopeConverts (batch.scopeAt entry.2) := by
  have hentries : (∃ st, batch.entries.foldlM (convertEntry batch.scopeAt) .start = .ok st) ↔
      batch.entries.length ≤ exportMaxRecords ∧
        ∀ entry ∈ batch.entries, RecordFits entry.1 ∧ ScopeConverts (batch.scopeAt entry.2) := by
    rw [convertEntries_ok_iff (Nat.zero_le _)]
    simp only [BatchState.start, Nat.zero_add, List.not_mem_nil, false_or]
  constructor
  · intro h
    obtain ⟨view, h⟩ := h
    obtain ⟨flattened, hflatten, h⟩ := Checked.bind_eq_ok.mp h
    obtain ⟨st, hst, h⟩ := Checked.bind_eq_ok.mp h
    obtain ⟨schemaUrl, hschemaUrl, -⟩ := Checked.bind_eq_ok.mp h
    exact ⟨flatten_attributes_ok_iff.mp ⟨flattened, hflatten⟩,
      (optionalStringView_ok_iff.mp hschemaUrl).1, hentries.mp ⟨st, hst⟩⟩
  · intro h
    obtain ⟨hattributes, hschemaUrl, hrest⟩ := h
    obtain ⟨flattened, hflatten⟩ := flatten_attributes_ok_iff.mpr hattributes
    obtain ⟨st, hst⟩ := hentries.mpr hrest
    exact ⟨_, Checked.bind_eq_ok.mpr ⟨flattened, hflatten,
      Checked.bind_eq_ok.mpr ⟨st, hst,
      Checked.bind_eq_ok.mpr ⟨_, optionalStringView_ok_iff.mpr ⟨hschemaUrl, rfl⟩, rfl⟩⟩⟩⟩

/-! ### What the builder and the loggers accept -/

/-- An attribute value within the limit on texts. -/
def ValueFits : Value → Prop
  | .string s => s.len ≤ maxStringLen
  | _ => True

/-- Attributes within the limits on their number and their texts. -/
structure AttributesFit (attributes : List KeyValue) : Prop where
  count : attributes.length ≤ maxAttributes
  keys : ∀ kv ∈ attributes, kv.key.len ≤ maxStringLen
  values : ∀ kv ∈ attributes, ValueFits kv.value

/-- A scope within the limits on the number of its attributes and on its texts. -/
structure ScopeFits (scope : InstrumentationScope) : Prop where
  attributes : AttributesFit scope.attributes
  name : scope.name.len ≤ maxStringLen
  version : TextFits scope.version
  schemaUrl : TextFits scope.schemaUrl

/-- The values below an attribute. -/
def below (kv : KeyValue) : Nat := ((attributeTree kv.value).children.map AnyValue.size).sum

theorem belowRoots_attributeTrees (attributes : List KeyValue) :
    belowRoots (attributeTrees attributes) = (attributes.map below).sum := by
  rw [belowRoots, attributeTrees, List.map_map]
  rfl

theorem children_of_scalar {v : Value} (h : v.IsScalar) : (attributeTree v).children = [] := by
  cases v with
  | array values => cases h
  | bool b => rfl
  | i64 n => rfl
  | f64 x => rfl
  | string s => rfl

theorem fits_of_scalar {v : Value} (h : v.IsScalar) (hfits : ValueFits v) :
    (attributeTree v).Fits ∧ (attributeTree v).height ≤ maxValueDepth := by
  have hchildren := children_of_scalar h
  constructor
  · rw [AnyValue.fits_iff, hchildren]
    refine ⟨?_, fun child hchild => by cases hchild⟩
    cases v with
    | array values => cases h
    | string s => exact hfits
    | bool b => trivial
    | i64 n => trivial
    | f64 x => trivial
  · rw [AnyValue.height_eq, hchildren]
    decide

theorem valueFits_of_fits {v : Value} (h : (attributeTree v).Fits) : ValueFits v := by
  cases v with
  | string s => exact (AnyValue.fits_iff.mp h).1
  | array values => trivial
  | bool b => trivial
  | i64 n => trivial
  | f64 x => trivial

/-- An attribute that is a scalar, or an array within the limits. -/
def ScalarOrFits (v : Value) : Prop :=
  v.IsScalar ∨ (attributeTree v).Fits ∧ (attributeTree v).height ≤ maxValueDepth

theorem attributesConvert_iff {attributes : List KeyValue}
    (hvalues : ∀ kv ∈ attributes, ScalarOrFits kv.value)
    (hnodes : (attributes.map below).sum ≤ maxValueNodes) :
    AttributesConvert attributes ↔ AttributesFit attributes := by
  constructor
  · intro h
    have hcount := h.count
    have htrees := h.values
    rw [List.length_map] at hcount
    rw [attributeTrees, List.forall_mem_map] at htrees
    exact ⟨hcount, List.forall_mem_map.mp h.keys,
      fun kv hkv => valueFits_of_fits (htrees kv hkv).1⟩
  · intro h
    apply OwnerFits.mk
    · rw [List.length_map]
      exact h.count
    · exact List.forall_mem_map.mpr h.keys
    · rw [attributeTrees, List.forall_mem_map]
      intro kv hkv
      rcases hvalues kv hkv with hscalar | hfits
      · exact fits_of_scalar hscalar (h.values kv hkv)
      · exact hfits
    · rw [belowRoots_attributeTrees]
      exact hnodes

theorem sum_below_of_scalar {attributes : List KeyValue}
    (h : ∀ kv ∈ attributes, kv.value.IsScalar) : (attributes.map below).sum = 0 := by
  rw [List.sum_eq_zero]
  rw [List.forall_mem_map]
  intro kv hkv
  rw [below, children_of_scalar (h kv hkv)]
  rfl

theorem scopeConverts_iff {config : OtelScopeConfig} {scope : InstrumentationScope}
    (h : buildLogger false config = .ok scope) : ScopeConverts scope ↔ ScopeFits scope := by
  have hscalar := buildLogger_scalar h
  have hattributes : AttributesConvert scope.attributes ↔ AttributesFit scope.attributes :=
    attributesConvert_iff (fun kv hkv => .inl (hscalar kv hkv))
      (by rw [sum_below_of_scalar hscalar]; exact Nat.zero_le _)
  constructor
  · intro h
    exact ⟨hattributes.mp h.attributes, h.name, h.version, h.schemaUrl⟩
  · intro h
    exact ⟨hattributes.mpr h.attributes, h.name, h.version, h.schemaUrl⟩

/-- What resource detectors add is within the limits of the export. -/
structure Detected (detected : Resource) : Prop where
  attributes : AttributesConvert detected.attributes
  schemaUrl : TextFits detected.schemaUrl

theorem attributesFit_perm {a b : List KeyValue} (h : a.Perm b) (hfit : AttributesFit a) :
    AttributesFit b :=
  ⟨h.length_eq ▸ hfit.count, fun kv hkv => hfit.keys kv (h.mem_iff.mpr hkv),
    fun kv hkv => hfit.values kv (h.mem_iff.mpr hkv)⟩

/-- The resource of a builder is within the limits just when the settings that stand are few and short
enough. -/
theorem resourceConverts_iff {calls : List ResourceCall} {detected resource : Resource}
    (hdetected : Detected detected)
    (hbuilt : resource.IsBuilt detected (Run.run ResourceSettings.step .new calls)) :
    AttributesConvert resource.attributes ↔
      AttributesFit (effective (detected.attributes ++
        (Run.run ResourceSettings.step .new calls).settings)) := by
  have hperm := hbuilt.attributes
  have hsettings := (ok_run calls).scalar
  generalize (Run.run ResourceSettings.step .new calls).settings = settings at hperm hsettings ⊢
  have hdetectedNodes := hdetected.attributes.nodes
  have hdetectedValues := hdetected.attributes.values
  rw [belowRoots_attributeTrees] at hdetectedNodes
  rw [attributeTrees, List.forall_mem_map] at hdetectedValues
  have hvalues : ∀ kv ∈ resource.attributes, ScalarOrFits kv.value := by
    intro kv hkv
    have hmem : kv ∈ detected.attributes ++ settings := Keyed.mem_lastWins (hperm.mem_iff.mp hkv)
    rcases List.mem_append.mp hmem with hkv | hkv
    · exact .inr (hdetectedValues kv hkv)
    · exact .inl (hsettings kv hkv)
  have hnodes : (resource.attributes.map below).sum ≤ maxValueNodes := by
    have hle := Keyed.sum_lastWins_le KeyValue.key below (detected.attributes ++ settings).length
      (detected.attributes ++ settings)
    rw [(hperm.map below).sum_nat]
    refine hle.trans ?_
    rw [List.map_append, List.sum_append, sum_below_of_scalar hsettings, Nat.add_zero]
    exact hdetectedNodes
  rw [attributesConvert_iff hvalues hnodes]
  exact ⟨attributesFit_perm hperm, attributesFit_perm hperm.symm⟩

/-! ### Accepted batches -/

/-- **What was accepted is converted just when it is small enough.**  Of all that the SDK accepts, only the
number of the resource's and the scopes' attributes and the length of their texts can make a batch
fail. -/
theorem convertBatch_accepted (severityName : Severity → Str)
    (hname : ∀ severity, (severityName severity).len ≤ maxStringLen)
    (calls : List ResourceCall) (detected resource : Resource) (hdetected : Detected detected)
    (hbuilt : resource.IsBuilt detected (Run.run ResourceSettings.step .new calls))
    (batch : LogBatch)
    (hscopes : ∀ entry ∈ batch.entries,
      ∃ config, buildLogger false config = .ok (batch.scopeAt entry.2))
    (hrecords : ∀ entry ∈ batch.entries, ∃ view record,
      (emitRecord severityName view).emitted = some record ∧ Delivered record entry.1)
    (hcount : batch.entries.length ≤ exportMaxRecords) :
    (∃ view, convertBatch batch resource = .ok view) ↔
      AttributesFit (effective (detected.attributes ++
        (Run.run ResourceSettings.step .new calls).settings)) ∧
      ∀ entry ∈ batch.entries, ScopeFits (batch.scopeAt entry.2) := by
  have hschemaUrl : TextFits resource.schemaUrl := by
    rw [hbuilt.schemaUrl]
    exact hdetected.schemaUrl
  have hfits : ∀ entry ∈ batch.entries, RecordFits entry.1 := by
    intro entry hentry
    obtain ⟨view, record, hemitted, hdelivered⟩ := hrecords entry hentry
    exact (emits_of_emitted hemitted).delivered_fits hname hdelivered
  rw [convertBatch_ok_iff, resourceConverts_iff hdetected hbuilt]
  constructor
  · intro h
    obtain ⟨hresource, -, -, hentries⟩ := h
    refine ⟨hresource, fun entry hentry => ?_⟩
    obtain ⟨config, hconfig⟩ := hscopes entry hentry
    exact (scopeConverts_iff hconfig).mp (hentries entry hentry).2
  · intro h
    obtain ⟨hresource, hentries⟩ := h
    refine ⟨hresource, hschemaUrl, hcount, fun entry hentry => ⟨hfits entry hentry, ?_⟩⟩
    obtain ⟨config, hconfig⟩ := hscopes entry hentry
    exact (scopeConverts_iff hconfig).mpr (hentries entry hentry)

/-- An attribute with a flag, under a key of `n + 1` letters. -/
def flagAttribute (n : Nat) : OtelKeyValue where
  key := viewOf (List.replicate (n + 1) 'a')
  valueType := 1
  value := ⟨.null 0, 1, 0, 0⟩

/-- A service name and an attribute. -/
def shopCalls : List ResourceCall :=
  [.setServiceName (viewOf (lit "shop")), .addResourceAttribute (flagAttribute 0)]

def detectedHost : Resource := ⟨none, [⟨lit "host.name", .string (lit "db1")⟩]⟩

def shopResource : Resource where
  schemaUrl := none
  attributes := [⟨lit "host.name", .string (lit "db1")⟩, ⟨lit "service.name", .string (lit "shop")⟩,
    ⟨lit "a", .bool true⟩]

/-- A logger with a version and an attribute. -/
def flaggedScope : OtelScopeConfig :=
  ⟨viewOf (lit "app"), viewOf (lit "1.2"), .null 0, .elems [flagAttribute 0]⟩

/-- What is emitted for `nestedRecord`. -/
def nestedEmitted : SdkLogRecord where
  timestamp := some 1700000000000000000
  observedTimestamp := none
  severityNumber := some .info
  severityText := some (lit "INFO")
  traceContext := none
  body := some (.listAny [.map [(lit "k", .string (lit "v"))]])
  attributes := [(lit "user.id", .int 7)]
  eventName := none
  target := none

def shopBatch : LogBatch where
  entries := [(nestedEmitted, 0)]
  scopeAt _ := ⟨lit "app", some (lit "1.2"), none, [⟨lit "a", .bool true⟩]⟩

theorem isBuilt_shop :
    shopResource.IsBuilt detectedHost (Run.run ResourceSettings.step .new shopCalls) :=
  ⟨rfl, by decide⟩

theorem textFits_none : TextFits none := by
  intro s hs
  cases hs

theorem detected_host : Detected detectedHost := by
  have hshort : AttributesFit detectedHost.attributes := by
    refine ⟨by decide, by decide, fun kv hkv => ?_⟩
    obtain rfl := List.mem_singleton.mp hkv
    show Str.len (lit "db1") ≤ maxStringLen
    decide
  have hscalar : ∀ kv ∈ detectedHost.attributes, ScalarOrFits kv.value := by
    intro kv hkv
    obtain rfl := List.mem_singleton.mp hkv
    exact .inl trivial
  exact ⟨(attributesConvert_iff hscalar (by decide)).mpr hshort, textFits_none⟩

theorem attributesFit_shop : AttributesFit shopResource.attributes := by
  refine ⟨by decide, by decide, List.forall_mem_cons.mpr ⟨?_, List.forall_mem_cons.mpr ⟨?_, ?_⟩⟩⟩
  · show Str.len (lit "db1") ≤ maxStringLen
    decide
  · show Str.len (lit "shop") ≤ maxStringLen
    decide
  · intro kv hkv
    obtain rfl := List.mem_singleton.mp hkv
    exact trivial

theorem emitted_shop : ∀ entry ∈ shopBatch.entries, ∃ view record,
    (emitRecord (fun _ => lit "INFO") view).emitted = some record ∧ Delivered record entry.1 := by
  intro entry hentry
  obtain rfl := List.mem_singleton.mp hentry
  exact ⟨nestedRecord, nestedEmitted, rfl, delivered_self ⟨0, rfl⟩⟩

theorem scopeFits_shop : ∀ entry ∈ shopBatch.entries, ScopeFits (shopBatch.scopeAt entry.2) := by
  intro entry hentry
  obtain rfl := List.mem_singleton.mp hentry
  refine ⟨⟨by decide, by decide, ?_⟩, by decide, ?_, textFits_none⟩
  · intro kv hkv
    obtain rfl := List.mem_singleton.mp hkv
    exact trivial
  · intro s hs
    obtain rfl := Option.some.inj hs
    decide

/-- A service name and a resource attribute beside a detected one, and a record with a body and an
attribute from a logger with an attribute of its own. -/
theorem convertBatch_accepted_shop :
    shopResource.IsBuilt detectedHost (Run.run ResourceSettings.step .new shopCalls) ∧
      ∃ view, convertBatch shopBatch shopResource = .ok view := by
  have heffective : effective (detectedHost.attributes ++
      (Run.run ResourceSettings.step .new shopCalls).settings) = shopResource.attributes := by decide
  refine ⟨isBuilt_shop, (convertBatch_accepted (fun _ => lit "INFO") (fun _ => by decide) shopCalls
    detectedHost shopResource detected_host isBuilt_shop shopBatch
    (fun _ _ => ⟨flaggedScope, rfl⟩) emitted_shop (by decide)).mpr ⟨?_, scopeFits_shop⟩⟩
  rw [heffective]
  exact attributesFit_shop
/-- A logger with a name only. -/
def plainScope : OtelScopeConfig := ⟨viewOf (lit "app"), .null 0, .null 0, .null 0⟩

/-- What is emitted for an empty record. -/
def plainRecord : SdkLogRecord where
  timestamp := none
  observedTimestamp := none
  severityNumber := none
  severityText := none
  traceContext := none
  body := none
  attributes := []
  eventName := none
  target := none

/-- An empty record of one logger. -/
def plainBatch : LogBatch := ⟨[(plainRecord, 0)], fun _ => ⟨lit "app", none, none, []⟩⟩

theorem buildLogger_plain : ∀ entry ∈ plainBatch.entries,
    ∃ config, buildLogger false config = .ok (plainBatch.scopeAt entry.2) :=
  fun _ _ => ⟨plainScope, rfl⟩

theorem emitted_plain : ∀ entry ∈ plainBatch.entries, ∃ view record,
    (emitRecord (fun _ => lit "INFO") view).emitted = some record ∧ Delivered record entry.1 := by
  intro entry hentry
  obtain rfl := List.mem_singleton.mp hentry
  exact ⟨emptyRecord, plainRecord, rfl, delivered_self ⟨0, rfl⟩⟩

theorem detected_nothing : Detected ⟨none, []⟩ :=
  ⟨⟨by decide, by simp, by simp [attributeTrees], by decide⟩, textFits_none⟩

theorem isBuilt_of_nodup {builder : ResourceSettings}
    (h : (builder.settings.map KeyValue.key).Nodup) :
    Resource.IsBuilt ⟨none, builder.settings⟩ ⟨none, []⟩ builder :=
  ⟨rfl, by rw [List.nil_append, effective, Keyed.lastWins_of_nodup h (Nat.le_refl _)]⟩

theorem len_replicate (n : Nat) : Str.len (List.replicate n 'a') = n := by
  induction n with
  | zero => rfl
  | succ n ih =>
    rw [List.replicate_succ, ← List.singleton_append, Str.len_append, ih]
    show 1 + n = n + 1
    rw [Nat.add_comm]

theorem mapM_flagAttribute {l : List Nat} (h : ∀ n ∈ l, n < isizeMax) :
    (l.map flagAttribute).mapM toKeyValue =
      .ok (l.map fun n => ⟨List.replicate (n + 1) 'a', .bool true⟩) := by
  induction l with
  | nil => rfl
  | cons n l ih =>
    rw [List.forall_mem_cons] at h
    have hkey : asStr (flagAttribute n).key = .ok (List.replicate (n + 1) 'a') := by
      apply asStr_viewOf
      rw [len_replicate]
      exact h.1
    rw [List.map_cons, Checked.mapM_cons, ih h.2]
    rw [toKeyValue, hkey]
    rfl

/-- The attributes under keys of up to 257 letters, one more than an export can carry. -/
def manyFlags : List ResourceCall :=
  ((List.range 257).map flagAttribute).map .addResourceAttribute

theorem settings_manyFlags : (Run.run ResourceSettings.step .new manyFlags).settings =
    (List.range 257).map fun n => ⟨List.replicate (n + 1) 'a', .bool true⟩ := by
  have hsmall : ∀ n ∈ List.range 257, n < isizeMax := by
    intro n hn
    have := List.mem_range.mp hn
    rw [isizeMax]
    omega
  have hconvert := mapM_flagAttribute hsmall
  have hroom : ResourceSettings.new.resourceAttributes.length +
      ((List.range 257).map flagAttribute).length ≤ maxResourceAttributes := by
    rw [List.length_map, List.length_range]
    decide
  rw [manyFlags, run_addResourceAttribute hconvert hroom]
  rfl

theorem nodup_manyFlags :
    ((Run.run ResourceSettings.step .new manyFlags).settings.map KeyValue.key).Nodup := by
  rw [settings_manyFlags, List.map_map]
  apply List.Nodup.map _ List.nodup_range
  intro m n h
  have hlen := congrArg List.length h
  simpa using hlen

/-- A resource with 257 attributes is accepted, and every batch is lost. -/
theorem convertBatch_accepted_loses :
    ¬∀ severityName : Severity → Str, (∀ severity, (severityName severity).len ≤ maxStringLen) →
      ∀ (calls : List ResourceCall) (detected resource : Resource), Detected detected →
      resource.IsBuilt detected (Run.run ResourceSettings.step .new calls) →
      ∀ batch : LogBatch,
      (∀ entry ∈ batch.entries, ∃ config,
        buildLogger false config = .ok (batch.scopeAt entry.2)) →
      (∀ entry ∈ batch.entries, ∃ view record,
        (emitRecord severityName view).emitted = some record ∧ Delivered record entry.1) →
      batch.entries.length ≤ exportMaxRecords →
      ∃ view, convertBatch batch resource = .ok view := by
  intro h
  have hbatch := h (fun _ => lit "INFO") (fun _ => by decide) manyFlags ⟨none, []⟩ _
    detected_nothing (isBuilt_of_nodup nodup_manyFlags) plainBatch buildLogger_plain emitted_plain
    (by decide)
  obtain ⟨hattributes, -⟩ := convertBatch_ok_iff.mp hbatch
  have hcount := hattributes.count
  rw [settings_manyFlags, List.length_map, List.length_map, List.length_range] at hcount
  exact absurd hcount (by decide)

end OtelC.Logs
