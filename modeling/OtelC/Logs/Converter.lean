import OtelC.Logs.Reading

/-!
# Converting a value pool

The converter turns the nodes of a checked pool into owned values, from the highest index down, and
moves each child out of its slot into its container.  The lemmas follow the set of slots that are
full.

* `convertValue_ok`: a value whose children are all in their slots.
* `convertPool_ok`: the slots still full after the pool are those of the roots' children.
* `validate_and_convert`: what the validator accepts and how it is converted.
-/

namespace OtelC.Logs

/-- `Converter::converted`: the values of the pool that no container has taken yet. -/
abbrev Slots := List (Option AnyValue)

/-- `Converter::new`. -/
def newSlots (nodes : List OtelLogValueNode) : Slots := List.replicate nodes.length none

/-- `take_child`. -/
def takeChild (converted : Slots) (i : Nat) : Except Fail (AnyValue × Slots) := do
  match ← index converted i with
  | some value => .ok (value, converted.set i none)
  | none => fail .internalError "log value node was consumed twice"

/-- The children of an array. -/
def takeItems (converted : Slots) : List Nat → Except Fail (List AnyValue × Slots)
  | [] => .ok ([], converted)
  | j :: rest => do
    let (item, converted) ← takeChild converted j
    let (items, converted) ← takeItems converted rest
    .ok (item :: items, converted)

/-- `HashMap::insert`. -/
def insertEntry (entries : List (Str × AnyValue)) (key : Str) (value : AnyValue) :
    List (Str × AnyValue) :=
  entries.filter (fun entry => entry.1 ≠ key) ++ [(key, value)]

/-- The children of a map, inserted one after the other. -/
def takeEntries (nodes : List OtelLogValueNode) (converted : Slots) :
    List Nat → List (Str × AnyValue) → Except Fail (List (Str × AnyValue) × Slots)
  | [], entries => .ok (entries, converted)
  | j :: rest, entries => do
    let node ← index nodes j
    let key ← asStr node.key
    let (value, converted) ← takeChild converted j
    takeEntries nodes converted rest (insertEntry entries key value)

/-- `convert_value`. -/
def convertValue (nodes : List OtelLogValueNode) (converted : Slots) (value : OtelLogValue) :
    Except Fail (AnyValue × Slots) :=
  match value.tag with
  | none => fail .internalError "log value tag changed during conversion"
  | some .empty => fail .internalError "an empty log value reached conversion"
  | some .string => do
    let s ← asStr value.value.stringValue
    .ok (.string s, converted)
  | some .bool => .ok (.boolean (value.value.boolValue ≠ 0), converted)
  | some .int64 => .ok (.int value.value.int64Value, converted)
  | some .double => .ok (.double value.value.doubleValue, converted)
  | some .bytes => do
    let bytes ← asSlice value.value.bytesValue
    .ok (.bytes bytes, converted)
  | some .array => do
    let (items, converted) ← takeItems converted value.value.children.indices
    .ok (.listAny items, converted)
  | some .map => do
    let (entries, converted) ← takeEntries nodes converted value.value.children.indices []
    .ok (.map entries, converted)

/-- `convert_pool` over the indices below a bound. -/
def convertPool (nodes : List OtelLogValueNode) : Nat → Slots → Except Fail Slots
  | 0, converted => .ok converted
  | i + 1, converted => do
    let node ← index nodes i
    let (value, converted) ← convertValue nodes converted node.value
    convertPool nodes i (converted.set i (some value))

/-- Converting root values one after the other. -/
def convertValues (nodes : List OtelLogValueNode) (converted : Slots) :
    List OtelLogValue → Except Fail (List AnyValue × Slots)
  | [] => .ok ([], converted)
  | root :: rest => do
    let (value, converted) ← convertValue nodes converted root
    let (values, converted) ← convertValues nodes converted rest
    .ok (value :: values, converted)

/-! ### Full slots -/

/-- The slots of these indices hold what their nodes read as, and all others are empty. -/
structure Holds (nodes : List OtelLogValueNode) (full : Nat → Prop) (slots : Slots) : Prop where
  length : slots.length = nodes.length
  filled : ∀ j < nodes.length, full j →
    ∃ item, slots[j]? = some (some item) ∧ ∃ levels, ReadsItem nodes levels j item
  empty : ∀ j < nodes.length, ¬full j → slots[j]? = some none

theorem Holds.congr {nodes : List OtelLogValueNode} {full full' : Nat → Prop} {slots : Slots}
    (h : Holds nodes full slots) (hiff : ∀ j < nodes.length, full j ↔ full' j) :
    Holds nodes full' slots where
  length := h.length
  filled := fun j hj hfull => h.filled j hj ((hiff j hj).mpr hfull)
  empty := fun j hj hempty => h.empty j hj fun hfull => hempty ((hiff j hj).mp hfull)

theorem holds_newSlots (nodes : List OtelLogValueNode) :
    Holds nodes (fun _ => False) (newSlots nodes) where
  length := by simp [newSlots]
  filled := fun _ _ h => h.elim
  empty := fun j hj _ => by simp [newSlots, hj]

/-- Slots that hold nothing are the slots at the start. -/
theorem Holds.eq_newSlots {nodes : List OtelLogValueNode} {full : Nat → Prop} {slots : Slots}
    (h : Holds nodes full slots) (hnone : ∀ j < nodes.length, ¬full j) :
    slots = newSlots nodes := by
  refine List.ext_getElem? fun j => ?_
  by_cases hj : j < nodes.length
  · rw [h.empty j hj (hnone j hj)]
    simp [newSlots, hj]
  · rw [List.getElem?_eq_none (by rw [h.length]; omega),
      List.getElem?_eq_none (by simp [newSlots]; omega)]

theorem takeChild_ok {nodes : List OtelLogValueNode} {full : Nat → Prop} {slots : Slots}
    (h : Holds nodes full slots) {j : Nat} (hj : j < nodes.length) (hfull : full j) :
    ∃ item slots', takeChild slots j = .ok (item, slots') ∧
      (∃ levels, ReadsItem nodes levels j item) ∧
      Holds nodes (fun i => full i ∧ i ≠ j) slots' := by
  obtain ⟨item, hitem, hreads⟩ := h.filled j hj hfull
  refine ⟨item, slots.set j none, ?_, hreads, by simp [h.length], fun i hi hi' => ?_,
    fun i hi hi' => ?_⟩
  · rw [takeChild, index_eq_ok.mpr hitem, Checked.ok_bind]
  · rw [List.getElem?_set_ne (Ne.symm hi'.2)]
    exact h.filled i hi hi'.1
  · by_cases heq : j = i
    · subst heq
      rw [List.getElem?_set_self (by rw [h.length]; exact hi)]
    · rw [List.getElem?_set_ne heq]
      exact h.empty i hi fun hfull => hi' ⟨hfull, Ne.symm heq⟩

theorem takeItems_ok {nodes : List OtelLogValueNode} {full : Nat → Prop} {slots : Slots}
    (h : Holds nodes full slots) {range : List Nat} (hbound : ∀ j ∈ range, j < nodes.length)
    (hfull : ∀ j ∈ range, full j) (hnodup : range.Nodup) :
    ∃ items slots', takeItems slots range = .ok (items, slots') ∧
      List.Forall₂ (fun j item => ∃ levels, ReadsItem nodes levels j item) range items ∧
      Holds nodes (fun i => full i ∧ i ∉ range) slots' := by
  induction range generalizing full slots with
  | nil => exact ⟨[], slots, rfl, .nil, h.congr fun j _ => by simp⟩
  | cons j rest ih =>
    rw [List.forall_mem_cons] at hbound hfull
    obtain ⟨hnew, hnodup⟩ := List.nodup_cons.mp hnodup
    obtain ⟨item, slots', htake, hitem, h'⟩ := takeChild_ok h hbound.1 hfull.1
    obtain ⟨items, slots'', hrest, hitems, h''⟩ := ih h' hbound.2
      (fun i hi => ⟨hfull.2 i hi, fun heq => hnew (heq ▸ hi)⟩) hnodup
    refine ⟨item :: items, slots'', ?_, .cons hitem hitems, h''.congr fun i _ => ?_⟩
    · simp only [takeItems, htake, Checked.ok_bind, hrest]
    · simp only [List.mem_cons, not_or, and_assoc]

/-- Inserting under a new key adds an entry. -/
theorem insertEntry_of_notMem {entries : List (Str × AnyValue)} {key : Str}
    (h : key ∉ entries.map Prod.fst) (value : AnyValue) :
    insertEntry entries key value = entries ++ [(key, value)] := by
  rw [insertEntry, List.filter_eq_self.mpr]
  intro entry hentry
  have hne : entry.1 ≠ key := fun heq => h (heq ▸ List.mem_map_of_mem hentry)
  simpa using hne

theorem takeEntries_ok {nodes : List OtelLogValueNode} {full : Nat → Prop} {slots : Slots}
    (h : Holds nodes full slots) {range : List Nat} (hbound : ∀ j ∈ range, j < nodes.length)
    (hfull : ∀ j ∈ range, full j) (hnodup : range.Nodup)
    (hkeys : ∀ j ∈ range, ∃ key, keyAt nodes j = some key) {entries : List (Str × AnyValue)}
    (hdistinct : ((entries.map Prod.fst).map some ++ range.map (keyAt nodes)).Nodup) :
    ∃ news slots', takeEntries nodes slots range entries = .ok (entries ++ news, slots') ∧
      List.Forall₂ (fun j (entry : Str × AnyValue) => keyAt nodes j = some entry.1) range news ∧
      List.Forall₂ (fun j item => ∃ levels, ReadsItem nodes levels j item) range
        (news.map Prod.snd) ∧
      Holds nodes (fun i => full i ∧ i ∉ range) slots' := by
  induction range generalizing full slots entries with
  | nil => exact ⟨[], slots, by simp [takeEntries], .nil, .nil, h.congr fun j _ => by simp⟩
  | cons j rest ih =>
    rw [List.forall_mem_cons] at hbound hfull hkeys
    obtain ⟨hnew, hnodup⟩ := List.nodup_cons.mp hnodup
    obtain ⟨key, hkey⟩ := hkeys.1
    obtain ⟨node, hnode, hstr⟩ := keyAt_eq_some.mp hkey
    obtain ⟨item, slots', htake, hitem, h'⟩ := takeChild_ok h hbound.1 hfull.1
    rw [List.map_cons, hkey, List.append_cons] at hdistinct
    have hfresh : key ∉ entries.map Prod.fst := by
      have := (List.nodup_append.mp hdistinct).1
      rw [List.nodup_append_comm] at this
      intro hmem
      exact (List.nodup_cons.mp this).1 (List.mem_map_of_mem hmem)
    have hdistinct' : (((entries ++ [(key, item)]).map Prod.fst).map some ++
        rest.map (keyAt nodes)).Nodup := by
      simpa using hdistinct
    obtain ⟨news, slots'', hrest, hnews, hitems, h''⟩ := ih h' hbound.2
      (fun i hi => ⟨hfull.2 i hi, fun heq => hnew (heq ▸ hi)⟩) hnodup hkeys.2 hdistinct'
    refine ⟨(key, item) :: news, slots'', ?_, .cons hkey hnews, .cons hitem hitems,
      h''.congr fun i _ => ?_⟩
    · simp only [takeEntries, index_eq_ok.mpr hnode, Checked.ok_bind, hstr, htake,
        insertEntry_of_notMem hfresh, hrest, List.append_assoc, List.singleton_append]
    · simp only [List.mem_cons, not_or, and_assoc]

/-! ### Converting one value -/

/-- **A value whose children are all in their slots** is converted to what it reads as, and takes
exactly these children. -/
theorem convertValue_ok {nodes : List OtelLogValueNode} {full : Nat → Prop} {slots : Slots}
    (h : Holds nodes full slots) {value : OtelLogValue} (hvalue : ValueOk value)
    (hchildren : ChildrenOk nodes value) (hbound : ∀ j ∈ value.kids, j < nodes.length)
    (hfull : ∀ j ∈ value.kids, full j) (hnodup : value.kids.Nodup) :
    ∃ v slots', convertValue nodes slots value = .ok (v, slots') ∧ Reads nodes value v ∧
      Holds nodes (fun i => full i ∧ i ∉ value.kids) slots' := by
  obtain ⟨tag, htag, hne⟩ := hvalue.tag
  -- a scalar takes no child
  have hscalar : ¬tag.IsContainer → Holds nodes (fun i => full i ∧ i ∉ value.kids) slots :=
    fun hs => h.congr fun j _ => by simp [kids_of_scalar htag hs]
  unfold convertValue
  cases tag with
  | empty => exact absurd rfl hne
  | string =>
    obtain ⟨s, hs, -⟩ := hvalue.string htag
    rw [htag]
    refine ⟨.string s, slots, ?_, ⟨1, ?_⟩, hscalar (by decide)⟩
    · simp only [hs, Checked.ok_bind]
    · simp [readValue, htag, hs, Except.toOption]
  | bytes =>
    obtain ⟨b, hb, -⟩ := hvalue.bytes htag
    rw [htag]
    refine ⟨.bytes b, slots, ?_, ⟨1, ?_⟩, hscalar (by decide)⟩
    · simp only [hb, Checked.ok_bind]
    · simp [readValue, htag, hb, Except.toOption]
  | bool =>
    rw [htag]
    exact ⟨_, slots, rfl, ⟨1, by rw [readValue, htag]⟩, hscalar (by decide)⟩
  | int64 =>
    rw [htag]
    exact ⟨_, slots, rfl, ⟨1, by rw [readValue, htag]⟩, hscalar (by decide)⟩
  | double =>
    rw [htag]
    exact ⟨_, slots, rfl, ⟨1, by rw [readValue, htag]⟩, hscalar (by decide)⟩
  | array =>
    obtain ⟨items, slots', htake, hitems, h'⟩ := takeItems_ok h hbound hfull hnodup
    refine ⟨.listAny items, slots', ?_, reads_array htag hitems, h'⟩
    rw [kids_of_container htag (.inl rfl)] at htake
    simp only [htag, htake, Checked.ok_bind]
  | map =>
    obtain ⟨-, hkeys, hdistinct⟩ := hchildren.map htag
    have hstart : ((([] : List (Str × AnyValue)).map Prod.fst).map some ++
        value.kids.map (keyAt nodes)).Nodup := by simpa using hdistinct
    obtain ⟨entries, slots', htake, hkey, hitems, h'⟩ := takeEntries_ok h hbound hfull hnodup
      (fun j hj => (hkeys j hj).imp fun _ hkey => hkey.1) hstart
    refine ⟨.map entries, slots', ?_, reads_map htag hkey hitems, h'⟩
    rw [kids_of_container htag (.inr rfl)] at htake
    simp only [htag, htake, Checked.ok_bind, List.nil_append]

/-! ### Converting the pool and the roots -/

/-- The children of the containers from an index on. -/
def takenFrom (nodes : List OtelLogValueNode) (k : Nat) : List Nat :=
  (nodes.drop k).flatMap fun node => node.value.kids

theorem takenFrom_of_getElem? {nodes : List OtelLogValueNode} {k : Nat} {node : OtelLogValueNode}
    (h : nodes[k]? = some node) :
    takenFrom nodes k = node.value.kids ++ takenFrom nodes (k + 1) := by
  obtain ⟨hk, rfl⟩ := List.getElem?_eq_some_iff.mp h
  rw [takenFrom, List.drop_eq_getElem_cons hk, List.flatMap_cons, takenFrom]

theorem claims_eq (nodes : List OtelLogValueNode) (roots : List OtelLogValue) :
    claims nodes roots = takenFrom nodes 0 ++ roots.flatMap OtelLogValue.kids := by
  rw [claims, allValues, List.flatMap_append, List.flatMap_map]
  rfl

section WellFormedPool

variable {nodes : List OtelLogValueNode} {roots : List OtelLogValue} (h : WellFormed nodes roots)

include h

theorem claims_nodup : (claims nodes roots).Nodup ∧ ∀ i < nodes.length, i ∈ claims nodes roots := by
  refine (Forest.nodup_covers_iff fun i hi => ?_).mpr h.claimedOnce
  obtain ⟨value, hvalue, hi⟩ := List.mem_flatMap.mp hi
  exact h.inBounds value hvalue i hi

theorem takenFrom_nodup (k : Nat) : (takenFrom nodes k).Nodup := by
  have hnodup := (claims_nodup h).1
  rw [claims_eq, takenFrom, List.drop_zero, ← List.take_append_drop k nodes, List.flatMap_append,
    List.append_assoc] at hnodup
  exact (List.nodup_append.mp (List.nodup_append.mp hnodup).2.1).1

/-- What the containers from an index on take lies behind that index. -/
theorem lt_of_mem_takenFrom {k j : Nat} (hj : j ∈ takenFrom nodes k) : k < j := by
  obtain ⟨node, hnode, hj⟩ := List.mem_flatMap.mp hj
  obtain ⟨i, hi⟩ := List.mem_iff_getElem?.mp hnode
  rw [List.getElem?_drop] at hi
  have := h.forward (k + i) node hi j hj
  omega

/-- The slots full when the pool is converted from index `k` on: those not taken since. -/
theorem convertPool_ok {k : Nat} (hk : k ≤ nodes.length) {slots : Slots}
    (hslots : Holds nodes (fun j => k ≤ j ∧ j ∉ takenFrom nodes k) slots) :
    ∃ slots', convertPool nodes k slots = .ok slots' ∧
      Holds nodes (fun j => j ∉ takenFrom nodes 0) slots' := by
  induction k generalizing slots with
  | zero => exact ⟨slots, rfl, hslots.congr fun j _ => by simp⟩
  | succ k ih =>
    have hnode := List.getElem?_eq_getElem (show k < nodes.length by omega)
    have hmem : nodes[k].value ∈ allValues nodes roots := mem_allValues_of_getElem? hnode
    have htaken := takenFrom_of_getElem? hnode
    have hnodup := takenFrom_nodup h k
    rw [htaken] at hnodup
    obtain ⟨hkids, -, hdisjoint⟩ := List.nodup_append.mp hnodup
    obtain ⟨v, slots', hconvert, hreads, hslots'⟩ := convertValue_ok hslots
      (h.values _ hmem) (h.children _ hmem) (h.inBounds _ hmem)
      (fun j hj => ⟨h.forward k _ hnode j hj, fun hj' => hdisjoint j hj j hj' rfl⟩) hkids
    obtain ⟨final, hfinal, hdone⟩ := ih (by omega) <|
      show Holds nodes (fun j => k ≤ j ∧ j ∉ takenFrom nodes k) (slots'.set k (some v)) by
      refine ⟨by simp [hslots'.length], fun j hj hfull => ?_, fun j hj hempty => ?_⟩
      · rw [htaken, List.mem_append, not_or] at hfull
        by_cases heq : k = j
        · subst heq
          obtain ⟨levels, hreads⟩ := hreads
          exact ⟨v, List.getElem?_set_self (by rw [hslots'.length]; exact hj), levels, _, hnode, hreads⟩
        · rw [List.getElem?_set_ne heq]
          exact hslots'.filled j hj ⟨⟨by omega, hfull.2.2⟩, hfull.2.1⟩
      · by_cases heq : k = j
        · subst heq
          exact absurd ⟨le_rfl, fun hmem => absurd (lt_of_mem_takenFrom h hmem) (by omega)⟩ hempty
        · rw [List.getElem?_set_ne heq]
          refine hslots'.empty j hj fun hfull => hempty ⟨by omega, ?_⟩
          rw [htaken, List.mem_append, not_or]
          exact ⟨hfull.2, hfull.1.2⟩
    refine ⟨final, ?_, hdone⟩
    rw [convertPool, index_eq_ok.mpr hnode]
    simp only [Checked.ok_bind, hconvert, hfinal]

omit h in
theorem convertValues_ok {full : Nat → Prop} {slots : Slots} (hslots : Holds nodes full slots)
    (hvalues : ∀ root ∈ roots, ValueOk root) (hchildren : ∀ root ∈ roots, ChildrenOk nodes root)
    (hbound : ∀ root ∈ roots, ∀ j ∈ root.kids, j < nodes.length)
    (hfull : ∀ j ∈ roots.flatMap OtelLogValue.kids, full j)
    (hnodup : (roots.flatMap OtelLogValue.kids).Nodup) :
    ∃ values slots', convertValues nodes slots roots = .ok (values, slots') ∧
      List.Forall₂ (Reads nodes) roots values ∧
      Holds nodes (fun j => full j ∧ j ∉ roots.flatMap OtelLogValue.kids) slots' := by
  induction roots generalizing full slots with
  | nil => exact ⟨[], slots, rfl, .nil, hslots.congr fun j _ => by simp⟩
  | cons root rest ih =>
    rw [List.forall_mem_cons] at hvalues hchildren hbound
    rw [List.flatMap_cons] at hfull hnodup
    obtain ⟨hkids, hrestNodup, hdisjoint⟩ := List.nodup_append.mp hnodup
    rw [List.forall_mem_append] at hfull
    obtain ⟨v, slots', hconvert, hreads, hslots'⟩ := convertValue_ok hslots hvalues.1 hchildren.1
      hbound.1 hfull.1 hkids
    obtain ⟨values, slots'', hrest, hall, hslots''⟩ := ih hslots' hvalues.2 hchildren.2 hbound.2
      (fun j hj => ⟨hfull.2 j hj, fun hj' => hdisjoint j hj' j hj rfl⟩) hrestNodup
    refine ⟨v :: values, slots'', ?_, .cons hreads hall, hslots''.congr fun j _ => ?_⟩
    · simp only [convertValues, hconvert, Checked.ok_bind, hrest]
    · rw [List.flatMap_cons, List.mem_append, not_or, and_assoc]

/-- **Converting a well-formed pool** never fails, leaves every slot empty, and yields what the
roots read as. -/
theorem convert_ok :
    ∃ slots, convertPool nodes nodes.length (newSlots nodes) = .ok slots ∧
      ∃ values, convertValues nodes slots roots = .ok (values, newSlots nodes) ∧
        List.Forall₂ (fun root v => readValue nodes maxValueDepth root = some v) roots values := by
  obtain ⟨hnodup, hcover⟩ := claims_nodup h
  rw [claims_eq] at hnodup hcover
  obtain ⟨-, hrootsNodup, hdisjoint⟩ := List.nodup_append.mp hnodup
  have hroot : ∀ root ∈ roots, root ∈ allValues nodes roots := fun root hmem =>
    mem_allValues_of_root hmem
  obtain ⟨slots, hpool, hslots⟩ := convertPool_ok h le_rfl <|
    (holds_newSlots nodes).congr fun j hj => ⟨False.elim, fun hfull => by omega⟩
  obtain ⟨values, slots', hvalues, hreads, hslots'⟩ := convertValues_ok hslots
    (fun root hmem => h.values _ (hroot root hmem)) (fun root hmem => h.children _ (hroot root hmem))
    (fun root hmem => h.inBounds _ (hroot root hmem))
    (fun j hj hj' => hdisjoint j hj' j hj rfl) hrootsNodup
  obtain rfl := hslots'.eq_newSlots fun j hj hfull => by
    rcases List.mem_append.mp (hcover j hj) with hmem | hmem
    · exact hfull.1 hmem
    · exact hfull.2 hmem
  refine ⟨slots, hpool, values, hvalues, ?_⟩
  -- a root reads as some tree within the depth limit, and that is the converted one
  have hdepth : ∀ root ∈ roots, ∃ v, readValue nodes maxValueDepth root = some v :=
    fun root hmem => readValue_of_wellFormed h (hroot root hmem) (h.depth root hmem)
  refine ((List.forall₂_and_left _ _).mpr ⟨hdepth, hreads⟩).imp fun root v => ?_
  rintro ⟨⟨w, hw⟩, hv⟩
  rwa [hv.unique ⟨maxValueDepth, hw⟩]

end WellFormedPool

/-- Every index of the pool is taken by one container or root. -/
theorem claims_perm {nodes : List OtelLogValueNode} {roots : List OtelLogValue}
    (h : WellFormed nodes roots) : (claims nodes roots).Perm (List.range nodes.length) := by
  obtain ⟨hnodup, hcover⟩ := claims_nodup h
  refine (List.perm_ext_iff_of_nodup hnodup List.nodup_range).mpr fun i => ?_
  rw [List.mem_range]
  refine ⟨fun hi => ?_, hcover i⟩
  obtain ⟨value, hvalue, hi⟩ := List.mem_flatMap.mp hi
  exact h.inBounds value hvalue i hi

/-- **The validator accepts exactly the well-formed pools, and what it accepts is converted.**  Every
index of an accepted pool is taken once, by a container of the pool or by a root; the conversion of
pool and roots then succeeds, leaves no slot full, and yields the trees the roots read as. -/
theorem validate_and_convert (nodes : List OtelLogValueNode) (roots : List OtelLogValue) :
    ((∃ info, validate nodes roots = .ok info) ↔ WellFormed nodes roots) ∧
    ((∃ info, validate nodes roots = .ok info) →
      (claims nodes roots).Perm (List.range nodes.length) ∧
      ∃ slots, convertPool nodes nodes.length (newSlots nodes) = .ok slots ∧
        ∃ values, convertValues nodes slots roots = .ok (values, newSlots nodes) ∧
          List.Forall₂ (fun root v => readValue nodes maxValueDepth root = some v) roots values) := by
  refine ⟨validate_ok_iff, fun haccepted => ?_⟩
  have h := validate_ok_iff.mp haccepted
  exact ⟨claims_perm h, convert_ok h⟩

/-- An array of one map of one text. -/
theorem validate_and_convert_nested :
    ∃ slots, convertPool
        [⟨viewOf [], ⟨7, 0, { children := ⟨1, 1⟩ }⟩⟩,
          ⟨viewOf (lit "k"), ⟨1, 0, { stringValue := viewOf (lit "v") }⟩⟩] 2 [none, none] =
        .ok slots ∧
      ∃ values, convertValues
        [⟨viewOf [], ⟨7, 0, { children := ⟨1, 1⟩ }⟩⟩,
          ⟨viewOf (lit "k"), ⟨1, 0, { stringValue := viewOf (lit "v") }⟩⟩] slots
        [⟨6, 0, { children := ⟨0, 1⟩ }⟩] = .ok (values, [none, none]) := by
  obtain ⟨-, slots, hpool, values, hvalues, -⟩ := (validate_and_convert
    [⟨viewOf [], ⟨7, 0, { children := ⟨1, 1⟩ }⟩⟩,
      ⟨viewOf (lit "k"), ⟨1, 0, { stringValue := viewOf (lit "v") }⟩⟩]
    [⟨6, 0, { children := ⟨0, 1⟩ }⟩]).2 ⟨_, by rfl⟩
  exact ⟨slots, hpool, values, hvalues⟩

end OtelC.Logs
