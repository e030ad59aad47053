import OtelC.Baggage.Emit

/-!
# Runs of the baggage entry points

A process holds builders and baggages behind handles.  `step` is one call of the library on them;
calls that only read (`count`, `get`, `visit`, `inject`) change nothing and need no step.

* `atomic_builderSet`, `atomic_builderRemove`: a call that is refused has written nothing.
* `wellFormed_run`: builders and baggages hold at most 64 entries, with distinct keys.
* `forall_entries_run`: a property of entries that every accepted `set` and every readable header
  member has, every stored entry has.
-/

namespace OtelC.Baggage

/-! ### Handles and calls -/

/-- What was allocated at an address. -/
inductive Object where
  | builder (entries : List BaggageEntry)
  | baggage (entries : List BaggageEntry)
  | destroyed

def Object.entries : Object → List BaggageEntry
  | .builder entries => entries
  | .baggage entries => entries
  | .destroyed => []

abbrev Heap := List Object

/-- A pointer: NULL or the address of an allocation. -/
abbrev Handle := Option Nat

def builderAt (heap : Heap) (handle : Handle) : HandleArg (List BaggageEntry) :=
  match handle with
  | none => .null
  | some address =>
    match heap[address]? with
    | some (.builder entries) => .live entries
    | some (.baggage _) => .wrongKind
    | _ => .dead

def baggageAt (heap : Heap) (handle : Handle) : HandleArg (List BaggageEntry) :=
  match handle with
  | none => .null
  | some address =>
    match heap[address]? with
    | some (.baggage entries) => .live entries
    | some (.builder _) => .wrongKind
    | _ => .dead

/-- Overwrite the object behind a handle. -/
def store (heap : Heap) (handle : Handle) (object : Object) : Heap :=
  match handle with
  | none => heap
  | some address => heap.set address object

/-- `into_raw` of the baggage a call returns, if it returns one. -/
def allocate (heap : Heap) (call : OutCall (List BaggageEntry)) : Heap :=
  match call.out with
  | some (some entries) => heap ++ [.baggage entries]
  | _ => heap

inductive Call where
  | builderCreate
  | builderSet (builder : Handle) (key value metadata : OtelStringView)
  | builderRemove (builder : Handle) (key : OtelStringView)
  | builderBuild (builder : Handle) (outIsNull : Bool)
  | builderDestroy (builder : Handle)
  | clone (baggage : Handle)
  | destroy (baggage : Handle)
  | extract (header : OtelStringView) (outIsNull : Bool)

/-- `checked_mut`, and then the body of the call on the entries of the builder. -/
def onBuilder (builder : Handle) (body : Commit.Call (List BaggageEntry) Fail Unit) :
    Commit.Call Heap Fail Unit :=
  Commit.zoom (fun heap => checkedRef (builderAt heap builder))
    (fun heap entries => store heap builder (.builder entries)) body

def otelBaggageBuilderSet (builder : Handle) (key value metadata : OtelStringView) :
    Commit.Call Heap Fail Unit :=
  onBuilder builder (builderSet key value metadata)

def otelBaggageBuilderRemove (builder : Handle) (key : OtelStringView) :
    Commit.Call Heap Fail Unit :=
  onBuilder builder (builderRemove key)

/-- `otel_baggage_clone`, which shares the immutable data. -/
def otelBaggageClone (baggage : Handle) : Commit.Call Heap Fail Nat := do
  let heap ← Commit.state
  let entries ← Commit.ofExcept (checkedRef (baggageAt heap baggage))
  Commit.update fun heap => heap ++ [.baggage entries]
  pure heap.length

/-- `destroy` ignores what is not a live handle of the expected kind. -/
def destroyAt (heap : Heap) (handle : Handle) (found : HandleArg (List BaggageEntry)) : Heap :=
  match found with
  | .live _ => store heap handle .destroyed
  | _ => heap

/-- The heap after one call. -/
def step (heap : Heap) : Call → Heap
  | .builderCreate => heap ++ [.builder []]
  | .builderSet builder key value metadata =>
    (Commit.exec (otelBaggageBuilderSet builder key value metadata) heap).2
  | .builderRemove builder key => (Commit.exec (otelBaggageBuilderRemove builder key) heap).2
  | .builderBuild builder outIsNull =>
    allocate heap (otelBaggageBuilderBuild (builderAt heap builder) outIsNull)
  | .builderDestroy builder => destroyAt heap builder (builderAt heap builder)
  | .clone baggage => (Commit.exec (otelBaggageClone baggage) heap).2
  | .destroy baggage => destroyAt heap baggage (baggageAt heap baggage)
  | .extract header outIsNull => allocate heap (otelBaggagePropagationExtract header outIsNull)

/-- The heap after a sequence of calls from the start of the process. -/
def run (calls : List Call) : Heap := Run.run step [] calls

/-! ### What one call does to the entries -/

theorem stringFromView_ok {view : OtelStringView} {field : String} {s : Str}
    (h : stringFromView view field = .ok s) : view.read = Utf8.encode s := by
  unfold stringFromView at h
  split at h
  · simp [fail] at h
  · split at h
    · rename_i t ht
      obtain rfl := Except.ok.inj h
      exact Utf8.fromUtf8_eq_some.mp ht
    · simp [fail] at h

/-- The bytes of the entry that a `set` with this key replaces. -/
def replacedLen (entries : List BaggageEntry) (key : Str) : Nat :=
  (((position entries key).bind (entries[·]?)).map BaggageEntry.storedLen).getD 0

/-- An accepted `set` replaces the entry with its key in place or appends a new one, and what it
projected fits. -/
theorem builderSet_ok {entries entries' : List BaggageEntry} {key value metadata : OtelStringView}
    (h : Commit.exec (builderSet key value metadata) entries = (.ok (), entries')) :
    ∃ e : BaggageEntry, key.read = Utf8.encode e.key ∧ value.read = Utf8.encode e.value ∧
      metadata.read = Utf8.encode e.metadata ∧ e.key ≠ [] ∧
      storedBytes entries - replacedLen entries e.key + e.storedLen ≤ maxBaggageBytes ∧
      ((∃ i, position entries e.key = some i ∧ entries' = entries.set i e) ∨
        position entries e.key = none ∧ entries.length ≠ maxBaggageItems ∧
          entries' = entries ++ [e]) := by
  unfold builderSet at h
  simp only [fail] at h
  obtain ⟨-, h⟩ := Commit.guard_eq_ok.mp h
  obtain ⟨-, h⟩ := Commit.guard_eq_ok.mp h
  obtain ⟨k, hk, h⟩ := Commit.ofExcept_bind_eq_ok.mp h
  obtain ⟨hempty, h⟩ := Commit.guard_eq_ok.mp h
  obtain ⟨v, hv, h⟩ := Commit.ofExcept_bind_eq_ok.mp h
  obtain ⟨m, hm, h⟩ := Commit.ofExcept_bind_eq_ok.mp h
  rw [Commit.exec_bind_of_ok (Commit.exec_state entries)] at h
  obtain ⟨hprojected, h⟩ := Commit.guard_eq_ok.mp h
  obtain ⟨hfull, h⟩ := Commit.guard_eq_ok.mp h
  refine ⟨⟨k, v, m⟩, stringFromView_ok hk, stringFromView_ok hv, stringFromView_ok hm,
    by simpa using hempty, Nat.not_lt.mp hprojected, ?_⟩
  cases hpos : position entries k with
  | some i =>
    rw [hpos] at h
    exact .inl ⟨i, rfl, (congrArg Prod.snd h).symm⟩
  | none =>
    rw [hpos] at h hfull
    exact .inr ⟨rfl, by simpa using hfull, (congrArg Prod.snd h).symm⟩

theorem builderRemove_sublist {entries entries' : List BaggageEntry} {key : OtelStringView}
    (h : Commit.exec (builderRemove key) entries = (.ok (), entries')) :
    entries'.Sublist entries := by
  obtain ⟨k, -, h⟩ := Commit.ofExcept_bind_eq_ok.mp h
  rw [Commit.exec_bind_of_ok (Commit.exec_state entries)] at h
  split at h
  · obtain rfl := congrArg Prod.snd h
    exact List.eraseIdx_sublist entries _
  · obtain rfl := congrArg Prod.snd h
    exact List.Sublist.refl _

theorem builderBuild_ok {entries entries' : List BaggageEntry}
    (h : builderBuild entries = .ok entries') : entries' = entries := by
  obtain ⟨_, -, h⟩ := Checked.bind_eq_ok.mp h
  exact (Except.ok.inj h).symm

/-- What is extracted comes from a header within the limit, or is nothing. -/
theorem extractBody_ok {header : OtelStringView} {entries : List BaggageEntry}
    (h : extractBody header = .ok entries) :
    entries = [] ∨ ∃ text : Str, text.len ≤ maxBaggageBytes ∧ entries = extractEntries text := by
  unfold extractBody at h
  split at h
  · simp [fail] at h
  · split at h
    · rename_i hlen
      obtain ⟨text, htext, h⟩ := Checked.bind_eq_ok.mp h
      refine .inr ⟨text, ?_, (Except.ok.inj h).symm⟩
      have hread : header.read.length = text.len := congrArg List.length (stringFromView_ok htext)
      rw [← hread]
      cases header with
      | null n => exact Nat.zero_le _
      | elems xs => exact hlen
    · exact .inl (Except.ok.inj h).symm

/-! ### What a run keeps -/

theorem builderAt_mem {heap : Heap} {handle : Handle} {entries : List BaggageEntry}
    (h : checkedRef (builderAt heap handle) = .ok entries) : Object.builder entries ∈ heap := by
  unfold builderAt at h
  split at h
  · simp [checkedRef, fail] at h
  · split at h
    · rename_i heq
      obtain rfl := Except.ok.inj h
      exact List.mem_of_getElem? heq
    · simp [checkedRef, fail] at h
    · simp [checkedRef, fail] at h

theorem baggageAt_mem {heap : Heap} {handle : Handle} {entries : List BaggageEntry}
    (h : checkedRef (baggageAt heap handle) = .ok entries) : Object.baggage entries ∈ heap := by
  unfold baggageAt at h
  split at h
  · simp [checkedRef, fail] at h
  · split at h
    · rename_i heq
      obtain rfl := Except.ok.inj h
      exact List.mem_of_getElem? heq
    · simp [checkedRef, fail] at h
    · simp [checkedRef, fail] at h

theorem mem_store {heap : Heap} {handle : Handle} {object x : Object}
    (h : x ∈ store heap handle object) : x ∈ heap ∨ x = object := by
  cases handle with
  | none => exact .inl h
  | some address => exact List.mem_or_eq_of_mem_set h

theorem mem_allocate {heap : Heap} {call : OutCall (List BaggageEntry)} {x : Object}
    (h : x ∈ allocate heap call) :
    x ∈ heap ∨ ∃ entries, call.out = some (some entries) ∧ x = .baggage entries := by
  unfold allocate at h
  split at h
  · rename_i entries heq
    rcases List.mem_append.mp h with h | h
    · exact .inl h
    · exact .inr ⟨entries, heq, List.mem_singleton.mp h⟩
  · exact .inl h

theorem mem_destroyAt {heap : Heap} {handle : Handle} {found : HandleArg (List BaggageEntry)}
    {x : Object} (h : x ∈ destroyAt heap handle found) : x ∈ heap ∨ x = .destroyed := by
  unfold destroyAt at h
  split at h
  · exact mem_store h
  · exact .inl h

/-! ### A refused call leaves everything as it was -/

/-- `set` checks everything before it writes. -/
theorem atomic_builderSet (key value metadata : OtelStringView) :
    Commit.Atomic (builderSet key value metadata) := by
  refine (Commit.readOnly_ofExcept _).atomic.ite ((Commit.readOnly_ofExcept _).atomic.ite ?_)
  refine (Commit.readOnly_ofExcept _).bind fun key => ?_
  refine (Commit.readOnly_ofExcept _).atomic.ite ?_
  refine (Commit.readOnly_ofExcept _).bind fun value => ?_
  refine (Commit.readOnly_ofExcept _).bind fun metadata => ?_
  refine Commit.readOnly_state.bind fun entries => ?_
  refine (Commit.readOnly_ofExcept _).atomic.ite ((Commit.readOnly_ofExcept _).atomic.ite ?_)
  cases position entries key with
  | some i => exact (Commit.neverFails_update _).atomic
  | none => exact (Commit.neverFails_update _).atomic

theorem atomic_builderRemove (key : OtelStringView) : Commit.Atomic (builderRemove key) := by
  refine (Commit.readOnly_ofExcept _).bind fun key => ?_
  refine Commit.readOnly_state.bind fun entries => ?_
  cases position entries key with
  | some i => exact (Commit.neverFails_update _).atomic
  | none => exact (Commit.neverFails_pure _).atomic

theorem store_builderAt {heap : Heap} {builder : Handle} {entries : List BaggageEntry}
    (h : checkedRef (builderAt heap builder) = .ok entries) :
    store heap builder (.builder entries) = heap := by
  unfold builderAt at h
  split at h
  · simp [checkedRef, fail] at h
  · split at h
    · rename_i heq
      obtain rfl := Except.ok.inj h
      obtain ⟨hlt, hget⟩ := List.getElem?_eq_some_iff.mp heq
      exact hget ▸ List.set_getElem_self hlt
    · simp [checkedRef, fail] at h
    · simp [checkedRef, fail] at h

theorem exec_onBuilder_of_error {heap : Heap} {builder : Handle}
    {body : Commit.Call (List BaggageEntry) Fail Unit} {e : Fail}
    (h : checkedRef (builderAt heap builder) = .error e) :
    Commit.exec (onBuilder builder body) heap = (.error e, heap) :=
  Commit.exec_zoom_of_error h

theorem exec_onBuilder_of_ok {heap : Heap} {builder : Handle}
    {body : Commit.Call (List BaggageEntry) Fail Unit} {entries : List BaggageEntry}
    (h : checkedRef (builderAt heap builder) = .ok entries) :
    Commit.exec (onBuilder builder body) heap =
      ((Commit.exec body entries).1,
        store heap builder (.builder (Commit.exec body entries).2)) :=
  Commit.exec_zoom_of_ok h

theorem atomic_onBuilder {builder : Handle} {body : Commit.Call (List BaggageEntry) Fail Unit}
    (hbody : Commit.Atomic body) : Commit.Atomic (onBuilder builder body) :=
  hbody.zoom fun _ _ => store_builderAt

theorem atomic_otelBaggageClone (baggage : Handle) : Commit.Atomic (otelBaggageClone baggage) := by
  refine Commit.readOnly_state.bind fun heap => ?_
  refine (Commit.readOnly_ofExcept _).bind fun entries => ?_
  exact ((Commit.neverFails_update _).bind fun _ => Commit.neverFails_pure _).atomic

theorem otelBaggageClone_ok {heap heap' : Heap} {baggage : Handle} {address : Nat}
    (h : Commit.exec (otelBaggageClone baggage) heap = (.ok address, heap')) :
    ∃ entries, checkedRef (baggageAt heap baggage) = .ok entries ∧
      heap' = heap ++ [.baggage entries] := by
  rw [otelBaggageClone, Commit.exec_bind_of_ok (Commit.exec_state heap)] at h
  obtain ⟨entries, hentries, h⟩ := Commit.ofExcept_bind_eq_ok.mp h
  exact ⟨entries, hentries, (congrArg Prod.snd h).symm⟩

/-- What a call on a builder leaves there, where it succeeds. -/
theorem mem_onBuilder {heap : Heap} {builder : Handle} {x : Object}
    {body : Commit.Call (List BaggageEntry) Fail Unit} (hbody : Commit.Atomic body)
    (h : x ∈ (Commit.exec (onBuilder builder body) heap).2) :
    x ∈ heap ∨ ∃ y ∈ heap, Commit.exec body y.entries = (.ok (), x.entries) := by
  cases hentries : checkedRef (builderAt heap builder) with
  | error e =>
    rw [exec_onBuilder_of_error hentries] at h
    exact .inl h
  | ok entries =>
    rcases hexec : Commit.exec body entries with ⟨result, entries'⟩
    rw [exec_onBuilder_of_ok hentries, hexec] at h
    rcases mem_store h with h | rfl
    · exact .inl h
    · cases result with
      | error e =>
        obtain rfl := hbody _ _ _ hexec
        exact .inl (builderAt_mem hentries)
      | ok u => exact .inr ⟨_, builderAt_mem hentries, hexec⟩

/-- **What one call can leave on the heap**: an object that was there, an empty list, the entries
of a live object, a builder after an accepted `set` or `remove`, or the entries of a header. -/
theorem mem_step {heap : Heap} {call : Call} {x : Object} (h : x ∈ step heap call) :
    x ∈ heap ∨ x.entries = [] ∨ (∃ y ∈ heap, x.entries = y.entries) ∨
      (∃ builder key value metadata, call = .builderSet builder key value metadata ∧
        ∃ y ∈ heap, Commit.exec (builderSet key value metadata) y.entries = (.ok (), x.entries)) ∨
      (∃ y ∈ heap, ∃ key, Commit.exec (builderRemove key) y.entries = (.ok (), x.entries)) ∨
      ∃ text : Str, text.len ≤ maxBaggageBytes ∧ x.entries = extractEntries text := by
  cases call with
  | builderCreate =>
    rcases List.mem_append.mp h with h | h
    · exact .inl h
    · obtain rfl := List.mem_singleton.mp h
      exact .inr (.inl rfl)
  | builderSet builder key value metadata =>
    rcases mem_onBuilder (atomic_builderSet key value metadata) h with h | ⟨y, hy, hset⟩
    · exact .inl h
    · exact .inr (.inr (.inr (.inl ⟨builder, key, value, metadata, rfl, y, hy, hset⟩)))
  | builderRemove builder key =>
    rcases mem_onBuilder (atomic_builderRemove key) h with h | ⟨y, hy, hremove⟩
    · exact .inl h
    · exact .inr (.inr (.inr (.inr (.inl ⟨y, hy, key, hremove⟩))))
  | builderBuild builder outIsNull =>
    rcases mem_allocate h with h | ⟨entries, hout, rfl⟩
    · exact .inl h
    · obtain ⟨entries', hentries', hbuild⟩ := Checked.bind_eq_ok.mp (withOut_out hout)
      exact .inr (.inr (.inl ⟨_, builderAt_mem hentries', builderBuild_ok hbuild⟩))
  | builderDestroy builder =>
    rcases mem_destroyAt h with h | rfl
    · exact .inl h
    · exact .inr (.inl rfl)
  | clone baggage =>
    rw [step] at h
    rcases hexec : Commit.exec (otelBaggageClone baggage) heap with ⟨result, heap'⟩
    rw [hexec] at h
    cases result with
    | error e =>
      obtain rfl := atomic_otelBaggageClone baggage _ _ _ hexec
      exact .inl h
    | ok address =>
      obtain ⟨entries, hentries, rfl⟩ := otelBaggageClone_ok hexec
      rcases List.mem_append.mp h with h | h
      · exact .inl h
      · obtain rfl := List.mem_singleton.mp h
        exact .inr (.inr (.inl ⟨_, baggageAt_mem hentries, rfl⟩))
  | destroy baggage =>
    rcases mem_destroyAt h with h | rfl
    · exact .inl h
    · exact .inr (.inl rfl)
  | extract header outIsNull =>
    rcases mem_allocate h with h | ⟨entries, hout, rfl⟩
    · exact .inl h
    · rcases extractBody_ok (withOut_out hout) with rfl | ⟨text, hlen, rfl⟩
      · exact .inr (.inl rfl)
      · exact .inr (.inr (.inr (.inr (.inr ⟨text, hlen, rfl⟩))))

/-- A property of entry lists that every call keeps holds of every object of every run. -/
theorem forall_objects_run {p : List BaggageEntry → Prop} {calls : List Call} (hnil : p [])
    (hset : ∀ builder key value metadata, .builderSet builder key value metadata ∈ calls →
      ∀ entries entries', p entries →
        Commit.exec (builderSet key value metadata) entries = (.ok (), entries') → p entries')
    (hremove : ∀ entries entries', p entries → entries'.Sublist entries → p entries')
    (hextract : ∀ text : Str, text.len ≤ maxBaggageBytes → p (extractEntries text)) :
    ∀ x ∈ run calls, p x.entries := by
  refine Run.run_invariant (p := fun heap : Heap => ∀ x ∈ heap, p x.entries) (by simp)
    fun heap call hcall hheap x hx => ?_
  rcases mem_step hx with h | h | ⟨y, hy, h⟩ | ⟨b, k, v, m, rfl, y, hy, h⟩ | ⟨y, hy, k, h⟩ |
    ⟨text, hlen, h⟩
  · exact hheap x h
  · rw [h]
    exact hnil
  · rw [h]
    exact hheap y hy
  · exact hset b k v m hcall _ _ (hheap y hy) h
  · exact hremove _ _ (hheap y hy) (builderRemove_sublist h)
  · rw [h]
    exact hextract text hlen

/-- A list of entries a builder or a baggage can hold. -/
structure WellFormed (entries : List BaggageEntry) : Prop where
  nodup : (entries.map BaggageEntry.key).Nodup
  length_le : entries.length ≤ maxBaggageItems

theorem wellFormed_extract (text : Str) : WellFormed (extractEntries text) := by
  rw [extractEntries_eq]
  exact ⟨Keyed.nodup_foldl_put _ _ _, Keyed.length_foldl_put_le _ _ _⟩

theorem wellFormed_run {calls : List Call} {x : Object} (h : x ∈ run calls) :
    WellFormed x.entries := by
  refine forall_objects_run (p := WellFormed) ⟨List.nodup_nil, Nat.zero_le _⟩ ?_ ?_
    (fun text _ => wellFormed_extract text) x h
  · intro _ _ _ _ _ entries entries' hwf hset
    obtain ⟨e, -, -, -, -, -, ⟨i, hi, rfl⟩ | ⟨hnone, hlen, rfl⟩⟩ := builderSet_ok hset
    · exact ⟨Keyed.nodup_set hwf.nodup hi, by simpa using hwf.length_le⟩
    · refine ⟨Keyed.nodup_append hwf.nodup hnone, ?_⟩
      have := hwf.length_le
      rw [List.length_append, List.length_singleton]
      omega
  · intro entries entries' hwf hsub
    exact ⟨hwf.nodup.sublist (hsub.map _), hsub.length_le.trans hwf.length_le⟩

/-- What every accepted `set` and every header member satisfies, every stored entry satisfies. -/
theorem forall_entries_run {p : BaggageEntry → Prop} {calls : List Call}
    (hset : ∀ builder key value metadata, .builderSet builder key value metadata ∈ calls →
      ∀ e : BaggageEntry, key.read = Utf8.encode e.key → value.read = Utf8.encode e.value →
        metadata.read = Utf8.encode e.metadata → e.key ≠ [] → p e)
    (hparse : ∀ member e, parseMember member = some e → p e) :
    ∀ x ∈ run calls, ∀ e ∈ x.entries, p e := by
  refine forall_objects_run (p := fun entries => ∀ e ∈ entries, p e) (by simp) ?_ ?_ ?_
  · intro b k v m hcall entries entries' hp hok e he
    obtain ⟨new, hk, hv, hm, hne, -, ⟨i, -, rfl⟩ | ⟨-, -, rfl⟩⟩ := builderSet_ok hok
    · rcases List.mem_or_eq_of_mem_set he with he | rfl
      · exact hp e he
      · exact hset b k v m hcall _ hk hv hm hne
    · rcases List.mem_append.mp he with he | he
      · exact hp e he
      · obtain rfl := List.mem_singleton.mp he
        exact hset b k v m hcall _ hk hv hm hne
  · intro entries entries' hp hsub e he
    exact hp e (hsub.subset he)
  · intro text _ e he
    rw [extractEntries_eq] at he
    obtain ⟨member, -, hm⟩ := List.mem_filterMap.mp (Keyed.mem_foldl_put he)
    exact hparse member e hm

end OtelC.Baggage
