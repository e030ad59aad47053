import OtelC.Logs.Batch

/-!
# Records and scopes of a batch

`convert_batch` knows a scope by its address and refers to it by its place in a vector that still grows.
Places in the vector keep what they hold (`Entries.entry`), so every record of an exported batch is that
of its input and refers to the scope of its input (`batch_keeps_order`).
-/

namespace OtelC.Logs

open Sdk

/-! ### Exported scopes -/

/-- An exported scope reads as a scope of the SDK. -/
structure OtelLogExportScopeView.Denotes (view : OtelLogExportScopeView)
    (scope : InstrumentationScope) : Prop where
  name : asStr view.name = .ok scope.name
  version : view.version = (scope.version.map viewOf).getD emptyView
  schemaUrl : view.schemaUrl = (scope.schemaUrl.map viewOf).getD emptyView
  texts : ∀ text, text ∈ scope.version ∨ text ∈ scope.schemaUrl → asStr (viewOf text) = .ok text
  keys : (view.attributes.read.map fun node => asStr node.key) =
    scope.attributes.map fun kv => .ok kv.key
  values : ReadsAll view.valueNodes.read (view.attributes.read.map OtelLogValueNode.value)
    (attributeTrees scope.attributes)

theorem convertScope_ok {scope : InstrumentationScope} {out : ConvertedScope}
    (h : convertScope scope = .ok out) : out.patched.Denotes scope := by
  have hfits := convertScope_ok_iff.mp ⟨out, h⟩
  obtain ⟨flattened, hflatten, h⟩ := Checked.bind_eq_ok.mp h
  obtain ⟨name, hname, h⟩ := Checked.bind_eq_ok.mp h
  obtain ⟨version, hversion, h⟩ := Checked.bind_eq_ok.mp h
  obtain ⟨schemaUrl, hschemaUrl, h⟩ := Checked.bind_eq_ok.mp h
  obtain rfl := Except.ok.inj h
  obtain ⟨hlen, rfl⟩ := stringView_ok_iff.mp hname
  obtain ⟨-, rfl⟩ := optionalStringView_ok_iff.mp hversion
  obtain ⟨-, rfl⟩ := optionalStringView_ok_iff.mp hschemaUrl
  obtain ⟨hreads, hkeys⟩ := flatten_reads (denotes_attributeSources scope.attributes) hflatten
  refine ⟨asStr_of_fits hlen, rfl, rfl, fun text htext => ?_, ?_, hreads⟩
  · rcases htext with htext | htext
    · exact asStr_of_fits (hfits.version text htext)
    · exact asStr_of_fits (hfits.schemaUrl text htext)
  · have hmap := congrArg (List.map asStr) hkeys
    rw [attributeSources, List.map_map, List.map_map, List.map_map] at hmap
    refine hmap.trans (List.map_congr_left fun kv hkv => asStr_of_fits ?_)
    exact hfits.attributes.keys kv.key (List.mem_map_of_mem hkv)

/-! ### The vectors of a batch -/

/-- The vectors after these entries: a converted scope for each known address, and a record for each
entry, which refers to the place of the entry's scope. -/
structure Entries (scopeAt : Nat → InstrumentationScope) (done : List (SdkLogRecord × Nat))
    (st : BatchState) : Prop where
  scopes : List.Forall₂ (fun key scope => convertScope (scopeAt key) = .ok scope)
    st.scopeKeys st.scopes
  records : List.Forall₂ (fun entry record =>
    convertRecord entry.1 record.scopeIndex = .ok record ∧
      st.scopeKeys[record.scopeIndex]? = some entry.2) done st.records

theorem entries_start (scopeAt : Nat → InstrumentationScope) : Entries scopeAt [] .start :=
  ⟨.nil, .nil⟩

section Entries

variable {scopeAt : Nat → InstrumentationScope} {done : List (SdkLogRecord × Nat)}
  {st st' : BatchState}

/-- A place in the vector of addresses keeps its address when another is pushed. -/
theorem place_push {keys : List Nat} {i key new : Nat} (h : keys[i]? = some key) :
    (keys ++ [new])[i]? = some key := by
  rw [List.getElem?_append_left (List.getElem?_eq_some_iff.mp h).1]
  exact h

/-- Looking a scope up keeps what is there, and finds the place of its address. -/
theorem Entries.scopeIndex (h : Entries scopeAt done st) {key : Nat} {found : BatchState × Nat}
    (hfound : scopeIndex scopeAt st key = .ok found) :
    Entries scopeAt done found.1 ∧ found.1.scopeKeys[found.2]? = some key := by
  rw [Logs.scopeIndex] at hfound
  split at hfound
  · rename_i i hi
    obtain ⟨hlt, hkey, -⟩ := List.idxOf?_eq_some_iff.mp hi
    obtain rfl := Except.ok.inj hfound
    exact ⟨h, by rw [← hkey]; exact List.getElem?_eq_getElem hlt⟩
  · obtain ⟨converted, hconverted, hfound⟩ := Checked.bind_eq_ok.mp hfound
    obtain rfl := Except.ok.inj hfound
    refine ⟨⟨List.rel_append h.scopes (.cons hconverted .nil), ?_⟩, ?_⟩
    · exact h.records.imp fun entry record hrecord => ⟨hrecord.1, place_push hrecord.2⟩
    · show (st.scopeKeys ++ [key])[st.scopes.length]? = some key
      rw [← h.scopes.length_eq]
      exact List.getElem?_concat_length

theorem scopeIndex_of_convertRecord {record : SdkLogRecord} {k : Nat} {out : ConvertedRecord}
    (h : convertRecord record k = .ok out) : out.scopeIndex = k := by
  obtain ⟨_, _, _, -, -, -, rfl⟩ := convertRecord_ok h
  rfl

/-- One turn of the loop adds the record of its entry. -/
theorem Entries.entry (h : Entries scopeAt done st) {entry : SdkLogRecord × Nat}
    (hentry : convertEntry scopeAt st entry = .ok st') : Entries scopeAt (done ++ [entry]) st' := by
  obtain ⟨-, hentry⟩ := Checked.guard_eq_ok.mp hentry
  obtain ⟨found, hfound, hentry⟩ := Checked.bind_eq_ok.mp hentry
  obtain ⟨converted, hconverted, hentry⟩ := Checked.bind_eq_ok.mp hentry
  obtain rfl := Except.ok.inj hentry
  have hcounted : Entries scopeAt done { st with recordCount := st.recordCount + 1 } :=
    ⟨h.scopes, h.records⟩
  obtain ⟨hfinished, hplace⟩ := hcounted.scopeIndex hfound
  have hindex := scopeIndex_of_convertRecord hconverted
  refine ⟨hfinished.scopes, List.rel_append hfinished.records (.cons ⟨?_, ?_⟩ .nil)⟩
  · rw [hindex]
    exact hconverted
  · rw [hindex]
    exact hplace

theorem Entries.run (h : Entries scopeAt done st) {entries : List (SdkLogRecord × Nat)}
    (hrun : entries.foldlM (convertEntry scopeAt) st = .ok st') :
    Entries scopeAt (done ++ entries) st' := by
  induction entries generalizing done st with
  | nil =>
    obtain rfl := Except.ok.inj hrun
    rwa [List.append_nil]
  | cons entry entries ih =>
    rw [List.foldlM_cons] at hrun
    obtain ⟨next, hnext, hrun⟩ := Checked.bind_eq_ok.mp hrun
    have := ih (h.entry hnext) hrun
    rwa [List.append_assoc, List.singleton_append] at this

end Entries

/-! ### The exported batch -/

/-- An exported record is the conversion of an input, with a pointer to the scope of the input. -/
def ExportsEntry (scopeAt : Nat → InstrumentationScope) (entry : SdkLogRecord × Nat)
    (record : OtelLogExportRecordView) : Prop :=
  ∃ k converted scope, convertRecord entry.1 k = .ok converted ∧
    record = { converted.view with
      attributes := .elems converted.attributes
      valueNodes := .elems converted.nodes
      scope := some scope } ∧
    scope.Denotes (scopeAt entry.2)

theorem Entries.patched {scopeAt : Nat → InstrumentationScope} {done : List (SdkLogRecord × Nat)}
    {st : BatchState} (h : Entries scopeAt done st) :
    List.Forall₂ (ExportsEntry scopeAt) done
      (st.records.map (·.patched (st.scopes.map ConvertedScope.patched))) := by
  rw [List.forall₂_map_right_iff]
  refine h.records.imp fun entry record hrecord => ?_
  obtain ⟨hconverted, hplace⟩ := hrecord
  obtain ⟨hlt, hkey⟩ := List.getElem?_eq_some_iff.mp hplace
  have hscope := (List.forall₂_iff_get.mp h.scopes).2 record.scopeIndex hlt
    (h.scopes.length_eq ▸ hlt)
  simp only [List.get_eq_getElem, hkey] at hscope
  refine ⟨record.scopeIndex, record, _, hconverted, ?_, convertScope_ok hscope⟩
  rw [ConvertedRecord.patched, List.getElem?_map,
    List.getElem?_eq_getElem (h.scopes.length_eq ▸ hlt), Option.map_some]

/-- **A batch keeps its records and their scopes.**  It is not converted at all, or it becomes one
record for each input, in the order of the inputs, and each refers to a scope that reads as the scope
of its input. -/
theorem batch_keeps_order (batch : LogBatch) (resource : Resource) :
    (∃ e, convertBatch batch resource = .error e) ∨
      ∃ view, convertBatch batch resource = .ok view ∧
        List.Forall₂ (ExportsEntry batch.scopeAt) batch.entries view.records := by
  cases hbatch : convertBatch batch resource with
  | error e => exact .inl ⟨e, rfl⟩
  | ok view =>
    obtain ⟨flattened, -, h⟩ := Checked.bind_eq_ok.mp hbatch
    obtain ⟨st, hst, h⟩ := Checked.bind_eq_ok.mp h
    obtain ⟨schemaUrl, -, h⟩ := Checked.bind_eq_ok.mp h
    obtain rfl := Except.ok.inj h
    exact .inr ⟨_, rfl, ((entries_start batch.scopeAt).run hst).patched⟩

/-- Three records of two scopes, the first scope again after the second. -/
def interleavedBatch : LogBatch where
  entries := [(plainRecord, 7), (nestedEmitted, 3), (plainRecord, 7)]
  scopeAt address := ⟨if address = 7 then lit "app" else lit "db", none, none, []⟩

theorem recordFits_interleaved : ∀ entry ∈ interleavedBatch.entries, RecordFits entry.1 := by
  have hname : ∀ _ : Severity, (lit "INFO").len ≤ maxStringLen := fun _ => by decide
  have hplain : Emits (fun _ => lit "INFO") emptyRecord plainRecord := emits_of_emitted rfl
  have hnested : Emits (fun _ => lit "INFO") nestedRecord nestedEmitted := emits_of_emitted rfl
  have hplain := hplain.delivered_fits hname (delivered_self ⟨0, rfl⟩)
  have hnested := hnested.delivered_fits hname (delivered_self ⟨0, rfl⟩)
  exact List.forall_mem_cons.mpr ⟨hplain, List.forall_mem_cons.mpr ⟨hnested,
    List.forall_mem_singleton.mpr hplain⟩⟩

theorem scopeConverts_interleaved (address : Nat) :
    ScopeConverts (interleavedBatch.scopeAt address) := by
  refine ⟨detected_nothing.attributes, ?_, textFits_none, textFits_none⟩
  show Str.len (if address = 7 then lit "app" else lit "db") ≤ maxStringLen
  split
  · decide
  · decide

theorem batch_keeps_order_interleaved :
    ∃ view, convertBatch interleavedBatch ⟨none, []⟩ = .ok view ∧
      List.Forall₂ (ExportsEntry interleavedBatch.scopeAt) interleavedBatch.entries view.records := by
  obtain ⟨view, hview⟩ := convertBatch_ok_iff.mpr ⟨detected_nothing.attributes, textFits_none,
    show interleavedBatch.entries.length ≤ exportMaxRecords by decide,
    fun entry hentry => ⟨recordFits_interleaved entry hentry, scopeConverts_interleaved entry.2⟩⟩
  rcases batch_keeps_order interleavedBatch ⟨none, []⟩ with ⟨e, herror⟩ | ⟨view', hview', hexports⟩
  · cases hview.symm.trans herror
  · exact ⟨view', hview', hexports⟩

end OtelC.Logs
