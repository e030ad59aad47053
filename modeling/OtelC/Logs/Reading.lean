import OtelC.Logs.WellFormed

/-!
# Reading a value pool

A reader who goes down more levels finds the same tree (`readValue_mono`), and one who goes down as
many levels as a well-formed pool has finds a tree (`readValue_of_wellFormed`).
-/

namespace OtelC.Logs

theorem mapM_some_iff {α β : Type} {f : α → Option β} {l : List α} {out : List β} :
    l.mapM f = some out ↔ List.Forall₂ (fun a b => f a = some b) l out := by
  induction l generalizing out with
  | nil => simp [List.forall₂_nil_left_iff, eq_comm]
  | cons a l ih =>
    rw [List.mapM_cons, List.forall₂_cons_left_iff]
    simp only [Option.bind_eq_bind, Option.bind_eq_some_iff, Option.pure_def, Option.some.injEq, ih]
    constructor
    · rintro ⟨b, hb, bs, hbs, rfl⟩
      exact ⟨b, bs, hb, hbs, rfl⟩
    · rintro ⟨b, bs, hb, hbs, rfl⟩
      exact ⟨b, hb, bs, hbs, rfl⟩

/-- The child at an index reads as this value. -/
def ReadsItem (nodes : List OtelLogValueNode) (levels : Nat) (j : Nat) (item : AnyValue) : Prop :=
  ∃ node, nodes[j]? = some node ∧ readValue nodes levels node.value = some item

/-- The child at an index reads as this entry. -/
def ReadsEntry (nodes : List OtelLogValueNode) (levels : Nat) (j : Nat) (entry : Str × AnyValue) :
    Prop :=
  keyAt nodes j = some entry.1 ∧ ReadsItem nodes levels j entry.2

theorem readValue_array {nodes : List OtelLogValueNode} {levels : Nat} {value : OtelLogValue}
    (htag : value.tag = some .array) {v : AnyValue} :
    readValue nodes (levels + 1) value = some v ↔
      ∃ items, List.Forall₂ (ReadsItem nodes levels) value.kids items ∧ .listAny items = v := by
  have hitem : ∀ j (item : AnyValue),
      readChild nodes (fun node => readValue nodes levels node.value) j = some item ↔
        ReadsItem nodes levels j item := by
    simp [readChild, Option.bind_eq_some_iff, ReadsItem]
  rw [readValue, htag, kids_of_container htag (.inl rfl)]
  simp only [Option.map_eq_some_iff, mapM_some_iff, hitem]

theorem readValue_map {nodes : List OtelLogValueNode} {levels : Nat} {value : OtelLogValue}
    (htag : value.tag = some .map) {v : AnyValue} :
    readValue nodes (levels + 1) value = some v ↔
      ∃ entries, List.Forall₂ (ReadsEntry nodes levels) value.kids entries ∧ .map entries = v := by
  have hentry : ∀ j (entry : Str × AnyValue),
      (readChild nodes (fun node => do
        let key ← (asStr node.key).toOption
        let child ← readValue nodes levels node.value
        some (key, child)) j = some entry) ↔ ReadsEntry nodes levels j entry := by
    rintro j ⟨key, child⟩
    simp only [readChild, Option.bind_eq_some_iff, Option.bind_eq_bind, ReadsEntry, ReadsItem,
      keyAt_eq_some, toOption_eq_some, Option.some.injEq, Prod.mk.injEq]
    constructor
    · rintro ⟨node, hnode, _, hkey, _, hchild, rfl, rfl⟩
      exact ⟨⟨node, hnode, hkey⟩, node, hnode, hchild⟩
    · rintro ⟨⟨node, hnode, hkey⟩, node', hnode', hchild⟩
      obtain rfl := Option.some.inj (hnode.symm.trans hnode')
      exact ⟨node, hnode, _, hkey, _, hchild, rfl, rfl⟩
  rw [readValue, htag, kids_of_container htag (.inr rfl)]
  simp only [Option.map_eq_some_iff, mapM_some_iff, hentry]

/-- A value that is no container reads the same whatever the levels. -/
theorem readValue_scalar {nodes : List OtelLogValueNode} {value : OtelLogValue}
    {tag : OtelLogValueType} (htag : value.tag = some tag) (hscalar : ¬tag.IsContainer)
    (levels levels' : Nat) :
    readValue nodes (levels + 1) value = readValue nodes (levels' + 1) value := by
  rw [readValue, readValue, htag]
  cases tag with
  | array => exact absurd (.inl rfl) hscalar
  | map => exact absurd (.inr rfl) hscalar
  | empty => rfl
  | string => rfl
  | bool => rfl
  | int64 => rfl
  | double => rfl
  | bytes => rfl

theorem readValue_mono {nodes : List OtelLogValueNode} {levels levels' : Nat}
    (hle : levels ≤ levels') {value : OtelLogValue} {v : AnyValue}
    (h : readValue nodes levels value = some v) : readValue nodes levels' value = some v := by
  induction levels generalizing levels' value v with
  | zero => simp [readValue] at h
  | succ levels ih =>
    obtain ⟨levels', rfl⟩ : ∃ l, levels' = l + 1 := ⟨levels' - 1, by omega⟩
    have hitem : ∀ j item, ReadsItem nodes levels j item → ReadsItem nodes levels' j item :=
      fun j item ⟨node, hnode, hread⟩ => ⟨node, hnode, ih (by omega) hread⟩
    cases htag : value.tag with
    | none => simp [readValue, htag] at h
    | some tag =>
      by_cases hcontainer : tag.IsContainer
      · rcases hcontainer with rfl | rfl
        · obtain ⟨items, hitems, rfl⟩ := (readValue_array htag).mp h
          exact (readValue_array htag).mpr ⟨items, hitems.imp hitem, rfl⟩
        · obtain ⟨entries, hentries, rfl⟩ := (readValue_map htag).mp h
          exact (readValue_map htag).mpr
            ⟨entries, hentries.imp fun j entry hentry => ⟨hentry.1, hitem _ _ hentry.2⟩, rfl⟩
      · rw [readValue_scalar htag hcontainer levels' levels]
        exact h

/-- The value reads as this tree at some level. -/
def Reads (nodes : List OtelLogValueNode) (value : OtelLogValue) (v : AnyValue) : Prop :=
  ∃ levels, readValue nodes levels value = some v

theorem forall₂_of_forall_exists {α β : Type} {r : α → β → Prop} {l : List α}
    (h : ∀ a ∈ l, ∃ b, r a b) : ∃ out, List.Forall₂ r l out := by
  induction l with
  | nil => exact ⟨[], .nil⟩
  | cons a l ih =>
    obtain ⟨b, hb⟩ := h a (by simp)
    obtain ⟨bs, hbs⟩ := ih fun a' ha' => h a' (by simp [ha'])
    exact ⟨b :: bs, .cons hb hbs⟩

/-- A value in order reads as a tree once the reader goes down as far as its chains reach. -/
theorem readValue_of_wellFormed {nodes : List OtelLogValueNode} {roots : List OtelLogValue}
    (h : WellFormed nodes roots) {levels : Nat} {value : OtelLogValue}
    (hvalue : value ∈ allValues nodes roots)
    (hchain : ∀ d, Forest.Chain (childValues nodes) value d → d ≤ levels) :
    ∃ v, readValue nodes levels value = some v := by
  induction levels generalizing value with
  | zero =>
    have := hchain 1 (.single value)
    omega
  | succ levels ih =>
    obtain ⟨tag, htag, hne⟩ := (h.values value hvalue).tag
    have hitem : ∀ j ∈ value.kids, ∃ item, ReadsItem nodes levels j item := by
      intro j hj
      have hnode := List.getElem?_eq_getElem (h.inBounds value hvalue j hj)
      obtain ⟨item, hitem⟩ := ih (mem_allValues_of_getElem? hnode) fun d hd =>
        Nat.le_of_succ_le_succ (hchain (d + 1) (.cons (mem_childValues.mpr ⟨j, hj, _, hnode, rfl⟩) hd))
      exact ⟨item, _, hnode, hitem⟩
    cases tag with
    | empty => exact absurd rfl hne
    | string =>
      obtain ⟨s, hs, -⟩ := (h.values value hvalue).string htag
      exact ⟨.string s, by simp [readValue, htag, hs, Except.toOption]⟩
    | bytes =>
      obtain ⟨b, hb, -⟩ := (h.values value hvalue).bytes htag
      exact ⟨.bytes b, by simp [readValue, htag, hb, Except.toOption]⟩
    | bool => exact ⟨_, by rw [readValue, htag]⟩
    | int64 => exact ⟨_, by rw [readValue, htag]⟩
    | double => exact ⟨_, by rw [readValue, htag]⟩
    | array =>
      obtain ⟨items, hitems⟩ := forall₂_of_forall_exists hitem
      exact ⟨_, (readValue_array htag).mpr ⟨items, hitems, rfl⟩⟩
    | map =>
      have hentry : ∀ j ∈ value.kids, ∃ entry, ReadsEntry nodes levels j entry := by
        intro j hj
        obtain ⟨key, hkey, -⟩ := ((h.children value hvalue).map htag).2.1 j hj
        obtain ⟨item, hitem⟩ := hitem j hj
        exact ⟨(key, item), hkey, hitem⟩
      obtain ⟨entries, hentries⟩ := forall₂_of_forall_exists hentry
      exact ⟨_, (readValue_map htag).mpr ⟨entries, hentries, rfl⟩⟩

/-- At every level at which a value reads as a tree it is the same tree. -/
theorem Reads.unique {nodes : List OtelLogValueNode} {value : OtelLogValue} {v w : AnyValue}
    (hv : Reads nodes value v) (hw : Reads nodes value w) : v = w := by
  obtain ⟨l, hl⟩ := hv
  obtain ⟨m, hm⟩ := hw
  have hl' := readValue_mono (Nat.le_max_left l m) hl
  have hm' := readValue_mono (Nat.le_max_right l m) hm
  exact Option.some.inj (hl'.symm.trans hm')

/-- Trees read level by level have a common level. -/
theorem forall₂_reads {nodes : List OtelLogValueNode} {range : List Nat} {items : List AnyValue}
    (h : List.Forall₂ (fun j item => ∃ levels, ReadsItem nodes levels j item) range items) :
    ∃ levels, List.Forall₂ (ReadsItem nodes levels) range items := by
  induction h with
  | nil => exact ⟨0, .nil⟩
  | cons hhead _ ih =>
    obtain ⟨l, node, hnode, hread⟩ := hhead
    obtain ⟨m, hrest⟩ := ih
    refine ⟨max l m, .cons ⟨node, hnode, readValue_mono (Nat.le_max_left l m) hread⟩ ?_⟩
    exact hrest.imp fun j item ⟨node, hnode, hread⟩ =>
      ⟨node, hnode, readValue_mono (Nat.le_max_right l m) hread⟩

theorem reads_array {nodes : List OtelLogValueNode} {value : OtelLogValue}
    (htag : value.tag = some .array) {items : List AnyValue}
    (h : List.Forall₂ (fun j item => ∃ levels, ReadsItem nodes levels j item) value.kids items) :
    Reads nodes value (.listAny items) := by
  obtain ⟨levels, h⟩ := forall₂_reads h
  exact ⟨levels + 1, (readValue_array htag).mpr ⟨items, h, rfl⟩⟩

theorem reads_map {nodes : List OtelLogValueNode} {value : OtelLogValue}
    (htag : value.tag = some .map) {entries : List (Str × AnyValue)}
    (hkeys : List.Forall₂ (fun j (entry : Str × AnyValue) => keyAt nodes j = some entry.1)
      value.kids entries)
    (h : List.Forall₂ (fun j item => ∃ levels, ReadsItem nodes levels j item) value.kids
      (entries.map Prod.snd)) :
    Reads nodes value (.map entries) := by
  obtain ⟨levels, h⟩ := forall₂_reads h
  rw [List.forall₂_map_right_iff] at h
  refine ⟨levels + 1, (readValue_map htag).mpr ⟨entries, ?_, rfl⟩⟩
  exact hkeys.mp (fun _ _ hkey hitem => ⟨hkey, hitem⟩) h

/-- The roots read as these values within the depth limit. -/
def ReadsAll (nodes : List OtelLogValueNode) (roots : List OtelLogValue) (values : List AnyValue) :
    Prop :=
  List.Forall₂ (fun root v => readValue nodes maxValueDepth root = some v) roots values

theorem ReadsAll.unique {nodes : List OtelLogValueNode} {roots : List OtelLogValue}
    {a b : List AnyValue} (ha : ReadsAll nodes roots a) (hb : ReadsAll nodes roots b) : a = b := by
  induction ha generalizing b with
  | nil => exact (List.forall₂_nil_left_iff.mp hb).symm
  | cons hread _ ih =>
    obtain ⟨v, rest, hv, hrest, rfl⟩ := List.forall₂_cons_left_iff.mp hb
    rw [ih hrest, Option.some.inj (hread.symm.trans hv)]

end OtelC.Logs
