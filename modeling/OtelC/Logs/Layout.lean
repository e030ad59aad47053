import OtelC.Logs.FlattenRun
import OtelC.Logs.ReadTree

/-!
# Reading back a flattened pool

Cells that hold trees in a breadth-first order are a well-formed pool with its roots, and a reader finds
in them the trees that were written.

* `Laid.reads`: every tree is read back at its place.
* `Laid.wellFormed`: the pool is in order if the trees are.
* `flatten_reads`: the same for a flattened owner.
-/

namespace OtelC.Logs

open BreadthFirst (offset)

/-- Trees that are written to cells in a breadth-first order, the roots first. -/
structure Laid (roots order : List AnyValue) (rootCells cells : List OtelLogValueNode) : Prop where
  listed : BreadthFirst AnyValue.children roots order
  counted : rootCells.length = roots.length
  filled : cells = fill (rootCells ++ order.flatMap AnyValue.childNodes) (renderAll 0 order)
  room : belowRoots roots ≤ maxValueNodes

/-! ### Cells and places -/

@[simp] theorem length_renderAll (first : Nat) (order : List AnyValue) :
    (renderAll first order).length = order.length := by
  induction order generalizing first with
  | nil => rfl
  | cons v rest ih => rw [renderAll, List.length_cons, ih, List.length_cons]

theorem getElem?_renderAll (first : Nat) (order : List AnyValue) (k : Nat) :
    (renderAll first order)[k]? =
      order[k]?.map (render (first + offset AnyValue.children order k)) := by
  induction order generalizing first k with
  | nil => rfl
  | cons v rest ih =>
    cases k with
    | zero => rfl
    | succ k =>
      rw [renderAll, List.getElem?_cons_succ, ih, List.getElem?_cons_succ,
        BreadthFirst.offset_cons_succ, Nat.add_assoc]

theorem map_value_fill {nodes : List OtelLogValueNode} {values : List OtelLogValue}
    (h : nodes.length = values.length) : (fill nodes values).map OtelLogValueNode.value = values := by
  induction nodes generalizing values with
  | nil => exact (List.eq_nil_of_length_eq_zero h.symm).symm
  | cons node nodes ih =>
    cases values with
    | nil => cases h
    | cons value values => exact congrArg (List.cons value) (ih (Nat.succ.inj h))

theorem map_key_fill {nodes : List OtelLogValueNode} {values : List OtelLogValue}
    (h : nodes.length = values.length) :
    (fill nodes values).map OtelLogValueNode.key = nodes.map OtelLogValueNode.key := by
  induction nodes generalizing values with
  | nil => rfl
  | cons node nodes ih =>
    cases values with
    | nil => cases h
    | cons value values => exact congrArg (List.cons node.key) (ih (Nat.succ.inj h))

theorem length_flatMap_childNodes (order : List AnyValue) :
    (order.flatMap AnyValue.childNodes).length = (order.flatMap AnyValue.children).length := by
  rw [List.length_flatMap, List.length_flatMap]
  simp only [AnyValue.length_childNodes]

namespace Laid

variable {roots order : List AnyValue} {rootCells cells : List OtelLogValueNode}

theorem length_order (h : Laid roots order rootCells cells) :
    order.length = roots.length + (order.flatMap AnyValue.children).length := by
  rw [← List.length_append]
  exact congrArg List.length h.listed.eq_append

theorem length_below (h : Laid roots order rootCells cells) :
    (order.flatMap AnyValue.children).length = belowRoots roots := by
  have hlength := h.listed.length_eq AnyValue.size_eq
  rw [sum_size_eq, h.length_order] at hlength
  omega

theorem length_cells (h : Laid roots order rootCells cells) : cells.length = order.length := by
  rw [h.filled, fill, List.length_zipWith, length_renderAll, List.length_append, h.counted,
    length_flatMap_childNodes, ← h.length_order, Nat.min_self]

theorem length_nodes (h : Laid roots order rootCells cells) :
    (cells.drop roots.length).length = (order.flatMap AnyValue.children).length := by
  rw [List.length_drop, h.length_cells, h.length_order, Nat.add_sub_cancel_left]

/-- What stands at a place. -/
theorem getElem?_cells (h : Laid roots order rootCells cells) {k : Nat} {v : AnyValue}
    (hv : order[k]? = some v) :
    ∃ node, (rootCells ++ order.flatMap AnyValue.childNodes)[k]? = some node ∧
      cells[k]? = some (node.put (render (offset AnyValue.children order k) v)) := by
  have hk : k < (rootCells ++ order.flatMap AnyValue.childNodes).length := by
    rw [List.length_append, h.counted, length_flatMap_childNodes, ← h.length_order]
    exact (List.getElem?_eq_some_iff.mp hv).1
  refine ⟨_, List.getElem?_eq_getElem hk, ?_⟩
  rw [h.filled, fill, List.getElem?_zipWith, List.getElem?_eq_getElem hk, getElem?_renderAll, hv,
    Nat.zero_add]
  rfl

theorem value_of_cell (h : Laid roots order rootCells cells) {k : Nat} {cell : OtelLogValueNode}
    (hcell : cells[k]? = some cell) :
    ∃ v, order[k]? = some v ∧ cell.value = render (offset AnyValue.children order k) v := by
  have hk : k < order.length := by
    rw [← h.length_cells]
    exact (List.getElem?_eq_some_iff.mp hcell).1
  obtain ⟨node, -, hnode⟩ := h.getElem?_cells (List.getElem?_eq_getElem hk)
  obtain rfl := Option.some.inj (hnode.symm.trans hcell)
  exact ⟨_, List.getElem?_eq_getElem hk, rfl⟩

/-- What stands at the node of a child. -/
theorem getElem?_child (h : Laid roots order rootCells cells) {k i : Nat} {v : AnyValue}
    (hv : order[k]? = some v) (hi : i < v.children.length) :
    ∃ node child, v.childNodes[i]? = some node ∧ v.children[i]? = some child ∧
      order[roots.length + (offset AnyValue.children order k + i)]? = some child ∧
      (cells.drop roots.length)[offset AnyValue.children order k + i]? = some (node.put
        (render (offset AnyValue.children order
          (roots.length + (offset AnyValue.children order k + i))) child)) := by
  have hchild := h.listed.getElem?_child hv hi
  rw [List.getElem?_eq_getElem hi] at hchild
  obtain ⟨node, hnode, hcell⟩ := h.getElem?_cells hchild
  rw [← h.counted, List.getElem?_append_right (Nat.le_add_right _ _), Nat.add_sub_cancel_left,
    BreadthFirst.getElem?_flatMap AnyValue.length_childNodes hv hi] at hnode
  refine ⟨node, _, hnode, List.getElem?_eq_getElem hi, hchild, ?_⟩
  rw [List.getElem?_drop, hcell]

/-- The children of a tree lie in the pool. -/
theorem offset_add_le (h : Laid roots order rootCells cells) {k : Nat} {v : AnyValue}
    (hv : order[k]? = some v) :
    offset AnyValue.children order k + v.children.length ≤ belowRoots roots := by
  rw [← h.length_below]
  exact BreadthFirst.offset_add_le hv

end Laid

/-! ### Written values -/

@[simp] theorem tag_scalar (tag : OtelLogValueType) (payload : OtelLogValuePayload) :
    (scalar tag payload).tag = some tag :=
  fromU32_toU32 tag

/-- The indices a written value addresses. -/
theorem kids_render {first : Nat} {v : AnyValue} (h : first + v.children.length ≤ maxValueNodes) :
    (render first v).kids = List.range' first v.children.length := by
  have hrange : ∀ {n}, n = v.children.length → OtelLogValueRange.indices
      ⟨UInt32.ofNat first, UInt32.ofNat n⟩ = List.range' first v.children.length := by
    intro n hn
    rw [OtelLogValueRange.indices, toNat_ofNat (Nat.le_of_add_right_le h), hn,
      toNat_ofNat (Nat.le_of_add_left_le h)]
  have hleaf : ∀ {tag : OtelLogValueType} {payload : OtelLogValuePayload}, ¬tag.IsContainer →
      (scalar tag payload).kids = [] := fun hc => kids_of_scalar (tag_scalar _ _) hc
  cases v with
  | listAny values =>
    rw [render, kids_of_container (tag_scalar _ _) (.inl rfl)]
    exact hrange rfl
  | map entries =>
    rw [render, kids_of_container (tag_scalar _ _) (.inr rfl)]
    exact hrange (List.length_map _).symm
  | int n => exact hleaf (by decide)
  | double x => exact hleaf (by decide)
  | string s => exact hleaf (by decide)
  | boolean b => exact hleaf (by decide)
  | bytes data => exact hleaf (by decide)

theorem maxStringLen_le : maxStringLen ≤ isizeMax := by decide

theorem asStr_of_fits {s : Str} (h : s.len ≤ maxStringLen) : asStr (viewOf s) = .ok s :=
  asStr_viewOf (h.trans maxStringLen_le)

theorem asSlice_of_fits {data : List UInt8} (h : data.length ≤ maxBytesLen) :
    asSlice (.elems data) = .ok data := by
  have hmax : maxBytesLen ≤ isizeMax := by decide
  rw [asSlice]
  split
  · rename_i hempty
    rw [List.eq_nil_of_length_eq_zero hempty]
  · rw [if_neg (by simp [CSlice.isNull])]
    exact if_neg (Nat.not_lt.mpr (h.trans hmax))

/-- A value that is no container. -/
def AnyValue.IsLeaf : AnyValue → Prop
  | .listAny _ => False
  | .map _ => False
  | _ => True

/-- A value that is no container is read back wherever it stands. -/
theorem readValue_leaf {nodes : List OtelLogValueNode} {first : Nat} {v : AnyValue}
    (hfits : v.PayloadFits) (hleaf : v.IsLeaf) :
    readValue nodes 1 (render first v) = some v := by
  cases v with
  | listAny values => exact hleaf.elim
  | map entries => exact hleaf.elim
  | int n => rfl
  | double x => rfl
  | string s =>
    rw [readValue, render, tag_scalar]
    show (asStr (viewOf s)).toOption.map AnyValue.string = some (.string s)
    rw [asStr_of_fits hfits]
    rfl
  | boolean b => cases b <;> rfl
  | bytes data =>
    rw [readValue, render, tag_scalar]
    show (asSlice (.elems data)).toOption.map AnyValue.bytes = some (.bytes data)
    rw [asSlice_of_fits hfits]
    rfl

/-- The fields of a written value are in order. -/
theorem valueOk_render {first : Nat} {v : AnyValue} (hfits : v.PayloadFits) :
    ValueOk (render first v) := by
  have hok : ∀ {tag payload}, tag ≠ .empty →
      (tag = .string → ∃ s, asStr payload.stringValue = .ok s ∧ s.len ≤ maxStringLen) →
      (tag = .bytes → ∃ b, asSlice payload.bytesValue = .ok b ∧ b.length ≤ maxBytesLen) →
      ValueOk (scalar tag payload) := by
    intro tag payload hempty hstring hbytes
    refine ⟨rfl, ⟨tag, tag_scalar _ _, hempty⟩, fun h => hstring ?_, fun h => hbytes ?_⟩
    · exact Option.some.inj ((tag_scalar tag payload).symm.trans h)
    · exact Option.some.inj ((tag_scalar tag payload).symm.trans h)
  cases v with
  | string s => exact hok (by decide) (fun _ => ⟨s, asStr_of_fits hfits, hfits⟩) nofun
  | bytes data => exact hok (by decide) nofun fun _ => ⟨data, asSlice_of_fits hfits, hfits⟩
  | listAny values => exact hok (by decide) nofun nofun
  | map entries => exact hok (by decide) nofun nofun
  | int n => exact hok (by decide) nofun nofun
  | double x => exact hok (by decide) nofun nofun
  | boolean b => exact hok (by decide) nofun nofun

theorem eq_listAny_of_tag {first : Nat} {v : AnyValue} (h : (render first v).tag = some .array) :
    ∃ values, v = .listAny values := by
  cases v with
  | listAny values => exact ⟨values, rfl⟩
  | map entries => cases (tag_scalar _ _).symm.trans h
  | int n => cases (tag_scalar _ _).symm.trans h
  | double x => cases (tag_scalar _ _).symm.trans h
  | string s => cases (tag_scalar _ _).symm.trans h
  | boolean b => cases (tag_scalar _ _).symm.trans h
  | bytes data => cases (tag_scalar _ _).symm.trans h

theorem eq_map_of_tag {first : Nat} {v : AnyValue} (h : (render first v).tag = some .map) :
    ∃ entries, v = .map entries := by
  cases v with
  | map entries => exact ⟨entries, rfl⟩
  | listAny values => cases (tag_scalar _ _).symm.trans h
  | int n => cases (tag_scalar _ _).symm.trans h
  | double x => cases (tag_scalar _ _).symm.trans h
  | string s => cases (tag_scalar _ _).symm.trans h
  | boolean b => cases (tag_scalar _ _).symm.trans h
  | bytes data => cases (tag_scalar _ _).symm.trans h

/-! ### Reading the trees back -/

/-- A relation along a block of indices, index by index. -/
theorem forall₂_range' {α : Type} {r : Nat → α → Prop} {first : Nat} {l : List α}
    (h : ∀ i a, l[i]? = some a → r (first + i) a) :
    List.Forall₂ r (List.range' first l.length) l := by
  induction l generalizing first with
  | nil => exact .nil
  | cons a l ih =>
    rw [List.length_cons, List.range'_succ]
    refine .cons (h 0 a rfl) (ih fun i b hb => ?_)
    rw [Nat.add_assoc, Nat.add_comm 1]
    exact h (i + 1) b hb

namespace Laid

variable {roots order : List AnyValue} {rootCells cells : List OtelLogValueNode}

theorem keyAt_child (h : Laid roots order rootCells cells) {k i : Nat} {v : AnyValue}
    {node : OtelLogValueNode} (hv : order[k]? = some v) (hnode : v.childNodes[i]? = some node) :
    keyAt (cells.drop roots.length) (offset AnyValue.children order k + i) =
      (asStr node.key).toOption := by
  have hi : i < v.children.length := by
    rw [← AnyValue.length_childNodes]
    exact (List.getElem?_eq_some_iff.mp hnode).1
  obtain ⟨node', child, hnode', -, -, hcell⟩ := h.getElem?_child hv hi
  obtain rfl := Option.some.inj (hnode'.symm.trans hnode)
  rw [keyAt, hcell]
  rfl

/-- The keys of a map stand at the nodes of its entries. -/
theorem keyAt_entry (h : Laid roots order rootCells cells) {k i : Nat}
    {entries : List (Str × AnyValue)} {entry : Str × AnyValue}
    (hv : order[k]? = some (.map entries)) (hentry : entries[i]? = some entry)
    (hfits : entry.1.len ≤ maxStringLen) :
    keyAt (cells.drop roots.length) (offset AnyValue.children order k + i) = some entry.1 := by
  have hnode : (AnyValue.map entries).childNodes[i]? = some ⟨viewOf entry.1, emptyValue⟩ := by
    rw [AnyValue.childNodes, List.getElem?_map, hentry]
    rfl
  rw [h.keyAt_child hv hnode, asStr_of_fits hfits]
  rfl

/-- **Every tree is read back at its place.** -/
theorem reads (h : Laid roots order rootCells cells) {k : Nat} {v : AnyValue}
    (hv : order[k]? = some v) (hfits : v.Fits) :
    Reads (cells.drop roots.length) (render (offset AnyValue.children order k) v) v := by
  induction v using AnyValue.children_induction generalizing k with
  | step v ih =>
    obtain ⟨hpayload, hbelow⟩ := AnyValue.fits_iff.mp hfits
    have hkids := kids_render ((h.offset_add_le hv).trans h.room)
    -- every child is read back at its node
    have hitems : List.Forall₂
        (fun j item => ∃ levels, ReadsItem (cells.drop roots.length) levels j item)
        (render (offset AnyValue.children order k) v).kids v.children := by
      rw [hkids]
      refine forall₂_range' fun i child hchild => ?_
      have hi := (List.getElem?_eq_some_iff.mp hchild).1
      obtain ⟨node, child', -, hchild', hplace, hcell⟩ := h.getElem?_child hv hi
      obtain rfl := Option.some.inj (hchild'.symm.trans hchild)
      have hmem := List.mem_of_getElem? hchild
      obtain ⟨levels, hread⟩ := ih _ hmem hplace (hbelow _ hmem)
      exact ⟨levels, _, hcell, hread⟩
    cases v with
    | listAny values => exact reads_array (tag_scalar _ _) hitems
    | map entries =>
      refine reads_map (tag_scalar _ _) ?_ hitems
      show List.Forall₂ _ (render _ (.map entries)).kids entries
      rw [hkids, AnyValue.children, List.length_map]
      refine forall₂_range' fun i entry hentry => ?_
      exact h.keyAt_entry hv hentry (hpayload.2 entry (List.mem_of_getElem? hentry))
    | int n => exact ⟨1, readValue_leaf hpayload trivial⟩
    | double x => exact ⟨1, readValue_leaf hpayload trivial⟩
    | string s => exact ⟨1, readValue_leaf hpayload trivial⟩
    | boolean b => exact ⟨1, readValue_leaf hpayload trivial⟩
    | bytes data => exact ⟨1, readValue_leaf hpayload trivial⟩

/-- No walk down from a tree is longer than the tree is high. -/
theorem chain_le (h : Laid roots order rootCells cells) {value : OtelLogValue} {d : Nat}
    (hchain : Forest.Chain (childValues (cells.drop roots.length)) value d) {k : Nat} {v : AnyValue}
    (hv : order[k]? = some v) (hvalue : value = render (offset AnyValue.children order k) v) :
    d ≤ v.height := by
  induction hchain generalizing k v with
  | single value => exact v.one_le_height
  | cons hstep rest ih =>
    obtain ⟨j, hj, node, hnode, rfl⟩ := mem_childValues.mp hstep
    rw [hvalue, kids_render ((h.offset_add_le hv).trans h.room)] at hj
    obtain ⟨hfirst, hlast⟩ := List.mem_range'_1.mp hj
    obtain ⟨i, rfl⟩ := Nat.exists_eq_add_of_le hfirst
    obtain ⟨cell, child, -, hchild, hplace, hcell⟩ :=
      h.getElem?_child hv (Nat.lt_of_add_lt_add_left hlast)
    obtain rfl := Option.some.inj (hnode.symm.trans hcell)
    have hle := ih hplace rfl
    have hmax := Forest.le_maxOf (f := AnyValue.height) (List.mem_of_getElem? hchild)
    rw [AnyValue.height_eq]
    omega

/-! ### The pool is in order -/

/-- The values of the pool and of its roots, in the order in which they were written. -/
theorem values_perm (cells : List OtelLogValueNode) (n : Nat) :
    (allValues (cells.drop n) ((cells.take n).map OtelLogValueNode.value)).Perm
      (cells.map OtelLogValueNode.value) := by
  rw [allValues]
  refine List.perm_append_comm.trans ?_
  rw [← List.map_append, List.take_append_drop]

theorem values_eq (h : Laid roots order rootCells cells) :
    cells.map OtelLogValueNode.value = renderAll 0 order := by
  rw [h.filled, map_value_fill]
  rw [List.length_append, h.counted, length_flatMap_childNodes, ← h.length_order, length_renderAll]

theorem mem_allValues (h : Laid roots order rootCells cells) {value : OtelLogValue}
    (hvalue : value ∈ allValues (cells.drop roots.length)
      ((cells.take roots.length).map OtelLogValueNode.value)) :
    ∃ k v, order[k]? = some v ∧ value = render (offset AnyValue.children order k) v := by
  rw [(values_perm cells roots.length).mem_iff, h.values_eq] at hvalue
  obtain ⟨k, hk⟩ := List.mem_iff_getElem?.mp hvalue
  rw [getElem?_renderAll, Nat.zero_add] at hk
  obtain ⟨v, hv, rfl⟩ := Option.map_eq_some_iff.mp hk
  exact ⟨k, v, hv, rfl⟩

/-- The written values address the pool front to back. -/
theorem flatMap_kids_renderAll {first : Nat} {order : List AnyValue}
    (hroom : first + (order.flatMap AnyValue.children).length ≤ maxValueNodes) :
    (renderAll first order).flatMap OtelLogValue.kids =
      List.range' first (order.flatMap AnyValue.children).length := by
  induction order generalizing first with
  | nil => rfl
  | cons v rest ih =>
    rw [List.flatMap_cons, List.length_append] at hroom ⊢
    rw [renderAll, List.flatMap_cons, ih (by omega), kids_render (by omega), List.range'_append_1]

theorem claims_perm (h : Laid roots order rootCells cells) :
    (claims (cells.drop roots.length)
      ((cells.take roots.length).map OtelLogValueNode.value)).Perm
      (List.range (cells.drop roots.length).length) := by
  have hroom := h.room
  rw [← h.length_below] at hroom
  rw [claims, h.length_nodes, List.range_eq_range', ← flatMap_kids_renderAll (by omega),
    ← h.values_eq]
  exact (values_perm cells roots.length).flatMap_right _

/-- The children of a written container are within its limits and have the keys of its kind. -/
theorem childrenOk (h : Laid roots order rootCells cells) {k : Nat} {v : AnyValue}
    (hv : order[k]? = some v) (hfits : v.PayloadFits) (hkeys : v.KeysOk) :
    ChildrenOk (cells.drop roots.length) (render (offset AnyValue.children order k) v) := by
  have hkids := kids_render ((h.offset_add_le hv).trans h.room)
  constructor
  · intro htag
    obtain ⟨values, rfl⟩ := eq_listAny_of_tag htag
    rw [hkids, List.length_range', forall_mem_range']
    refine ⟨hfits, fun i hi => ?_⟩
    have hnode : (AnyValue.listAny values).childNodes[i]? = some emptyNode :=
      List.getElem?_replicate_of_lt hi
    rw [h.keyAt_child hv hnode]
    rfl
  · intro htag
    obtain ⟨entries, rfl⟩ := eq_map_of_tag htag
    have hentry : List.Forall₂ (fun j (entry : Str × AnyValue) =>
        keyAt (cells.drop roots.length) j = some entry.1)
        (List.range' (offset AnyValue.children order k) entries.length) entries :=
      forall₂_range' fun i entry hentry =>
        h.keyAt_entry hv hentry (hfits.2 entry (List.mem_of_getElem? hentry))
    rw [hkids, AnyValue.children, List.length_map]
    refine ⟨by rw [List.length_range']; exact hfits.1, forall_mem_range'.mpr fun i hi => ?_, ?_⟩
    · have hget := List.getElem?_eq_getElem hi
      have hmem := List.mem_of_getElem? hget
      exact ⟨_, h.keyAt_entry hv hget (hfits.2 _ hmem), hkeys.2 _ hmem, hfits.2 _ hmem⟩
    · have hmap : (List.range' (offset AnyValue.children order k) entries.length).map
          (keyAt (cells.drop roots.length)) = (entries.map Prod.fst).map some := by
        rw [← List.forall₂_eq_eq_eq, List.forall₂_map_left_iff, List.map_map,
          List.forall₂_map_right_iff]
        exact hentry
      rw [hmap]
      exact hkeys.1.map (Option.some_injective _)

/-- **The pool is in order if the trees are.** -/
theorem wellFormed (h : Laid roots order rootCells cells)
    (hroots : ∀ t ∈ roots, t.Fits ∧ t.height ≤ maxValueDepth) (hmaps : ∀ t ∈ roots, t.MapsOk) :
    WellFormed (cells.drop roots.length) ((cells.take roots.length).map OtelLogValueNode.value) := by
  have hfits : ∀ v ∈ order, v.Fits :=
    h.listed.forall_mem (fun t ht => (hroots t ht).1) fun v hv => (AnyValue.fits_iff.mp hv).2
  have hkeys : ∀ v ∈ order, v.MapsOk :=
    h.listed.forall_mem hmaps fun v hv => (AnyValue.mapsOk_iff.mp hv).2
  constructor
  · intro value hvalue
    obtain ⟨k, v, hv, rfl⟩ := h.mem_allValues hvalue
    exact valueOk_render (AnyValue.fits_iff.mp (hfits v (List.mem_of_getElem? hv))).1
  · intro value hvalue
    obtain ⟨k, v, hv, rfl⟩ := h.mem_allValues hvalue
    have hmem := List.mem_of_getElem? hv
    exact h.childrenOk hv (AnyValue.fits_iff.mp (hfits v hmem)).1
      (AnyValue.mapsOk_iff.mp (hkeys v hmem)).1
  · intro value hvalue j hj
    obtain ⟨k, v, hv, rfl⟩ := h.mem_allValues hvalue
    rw [kids_render ((h.offset_add_le hv).trans h.room)] at hj
    rw [h.length_nodes]
    have hfit : offset AnyValue.children order k + v.children.length ≤
        (order.flatMap AnyValue.children).length := BreadthFirst.offset_add_le hv
    have := (List.mem_range'_1.mp hj).2
    omega
  · intro i node hnode j hj
    rw [List.getElem?_drop] at hnode
    obtain ⟨v, hv, hvalue⟩ := h.value_of_cell hnode
    rw [hvalue, kids_render ((h.offset_add_le hv).trans h.room)] at hj
    have hlt := h.listed.lt_offset (List.getElem?_eq_some_iff.mp hv).1
    have := (List.mem_range'_1.mp hj).1
    omega
  · intro i hi
    rw [h.claims_perm.count_eq, List.count_eq_one_of_mem List.nodup_range (List.mem_range.mpr hi)]
  · intro root hroot d hchain
    obtain ⟨cell, hcell, rfl⟩ := List.mem_map.mp hroot
    obtain ⟨k, hk, rfl⟩ := List.mem_take_iff_getElem.mp hcell
    have hlt : k < roots.length := Nat.lt_of_lt_of_le hk (Nat.min_le_left _ _)
    obtain ⟨v, hv, hvalue⟩ := h.value_of_cell (List.getElem?_eq_getElem _)
    have hle := h.chain_le hchain hv hvalue
    rw [h.listed.eq_append, List.getElem?_append_left hlt] at hv
    exact hle.trans (hroots v (List.mem_of_getElem? hv)).2

/-- **The roots read as their trees** within the depth limit. -/
theorem readsAll (h : Laid roots order rootCells cells)
    (hroots : ∀ t ∈ roots, t.Fits ∧ t.height ≤ maxValueDepth) :
    ReadsAll (cells.drop roots.length) ((cells.take roots.length).map OtelLogValueNode.value)
      roots := by
  have hlength : roots.length ≤ cells.length := by
    rw [h.length_cells, h.length_order]
    exact Nat.le_add_right _ _
  rw [ReadsAll, List.forall₂_map_left_iff, List.forall₂_iff_get]
  refine ⟨by rw [List.length_take, Nat.min_eq_left hlength], fun i hi hi' => ?_⟩
  obtain ⟨v, hv, hvalue⟩ := h.value_of_cell (List.getElem?_eq_getElem (Nat.lt_of_lt_of_le hi' hlength))
  have hroot : roots[i]? = order[i]? :=
    (List.getElem?_append_left hi').symm.trans (congrArg (fun l : List AnyValue => l[i]?)
      h.listed.eq_append.symm)
  rw [hv] at hroot
  have hfits := hroots v (List.mem_of_getElem? hroot)
  have hread := readValue_mono hfits.2 (readValue_height (h.reads hv hfits.1))
  simp only [List.get_eq_getElem, List.getElem_take, (List.getElem?_eq_some_iff.mp hroot).2]
  rwa [hvalue]

/-- The keys are those of the cells before anything was written. -/
theorem map_key (h : Laid roots order rootCells cells) :
    cells.map OtelLogValueNode.key =
      (rootCells ++ order.flatMap AnyValue.childNodes).map OtelLogValueNode.key := by
  rw [h.filled, map_key_fill]
  rw [List.length_append, h.counted, length_flatMap_childNodes, ← h.length_order, length_renderAll]

end Laid

/-! ### A flattened owner -/

/-- The roots of a flattened owner. -/
def ownerRoots (body : Option AnyValue) (out : Flattened) : List OtelLogValue :=
  body.toList.map (fun _ => out.body) ++ out.attributes.map OtelLogValueNode.value

section Owner

variable {body : Option AnyValue} {attributes : List (Str × Source)} {trees : List AnyValue}
  {out : Flattened}

theorem laid_of_flatten (h : List.Forall₂ Source.Denotes (attributes.map Prod.snd) trees)
    (hok : flatten body attributes = .ok out) :
    ∃ order, Laid (ownerTrees body trees) order (ownerCells body (attributes.map Prod.fst))
      (FlattenState.bodyCells body.isSome out.body ++ out.attributes ++ out.nodes) := by
  obtain ⟨order, horder, hcells, -, -⟩ := flatten_ok h hok
  obtain ⟨-, -, -, hroom⟩ := (flatten_ok_iff h).mp ⟨out, hok⟩
  refine ⟨order, horder, ?_, hcells, hroom⟩
  have hlength := h.length_eq
  rw [List.length_map] at hlength
  rw [ownerCells, ownerTrees, List.length_append, List.length_append, List.length_map,
    List.length_map, List.length_map, List.length_map, hlength]

/-- The cells of a flattened owner are its roots and its pool. -/
theorem cells_of_flatten (h : List.Forall₂ Source.Denotes (attributes.map Prod.snd) trees)
    (hok : flatten body attributes = .ok out) :
    (FlattenState.bodyCells body.isSome out.body ++ out.attributes ++ out.nodes).drop
        (ownerTrees body trees).length = out.nodes ∧
      ((FlattenState.bodyCells body.isSome out.body ++ out.attributes ++ out.nodes).take
        (ownerTrees body trees).length).map OtelLogValueNode.value = ownerRoots body out := by
  obtain ⟨-, -, -, hattributes, -⟩ := flatten_ok h hok
  have hlength : (FlattenState.bodyCells body.isSome out.body ++ out.attributes).length =
      (ownerTrees body trees).length := by
    rw [ownerTrees, List.length_append, List.length_append, FlattenState.length_bodyCells,
      hattributes, ← h.length_eq, List.length_map, List.length_map]
    cases body <;> rfl
  rw [List.drop_left' hlength, List.take_left' hlength, ownerRoots, List.map_append]
  refine ⟨rfl, congrArg (· ++ _) ?_⟩
  cases body <;> rfl

/-- **A flattened owner reads as its trees**, with the keys of its attributes. -/
theorem flatten_reads (h : List.Forall₂ Source.Denotes (attributes.map Prod.snd) trees)
    (hok : flatten body attributes = .ok out) :
    ReadsAll out.nodes (ownerRoots body out) (ownerTrees body trees) ∧
      out.attributes.map OtelLogValueNode.key = attributes.map fun a => viewOf a.1 := by
  obtain ⟨order, hlaid⟩ := laid_of_flatten h hok
  obtain ⟨hnodes, hroots⟩ := cells_of_flatten h hok
  obtain ⟨-, -, hfits, -⟩ := (flatten_ok_iff h).mp ⟨out, hok⟩
  constructor
  · have hreads := hlaid.readsAll hfits
    rwa [hnodes, hroots] at hreads
  · obtain ⟨-, -, -, hattributes, -⟩ := flatten_ok h hok
    have hkeys := hlaid.map_key
    simp only [ownerCells, List.map_append, List.append_assoc] at hkeys
    have hbody : ((FlattenState.bodyCells body.isSome out.body).map OtelLogValueNode.key).length =
        ((body.toList.map fun _ => emptyNode).map OtelLogValueNode.key).length := by
      rw [List.length_map, FlattenState.length_bodyCells]
      cases body <;> rfl
    have hrest := (List.append_inj hkeys hbody).2
    have hlength : (out.attributes.map OtelLogValueNode.key).length =
        (((attributes.map Prod.fst).map fun key => OtelLogValueNode.mk (viewOf key) emptyValue).map
          OtelLogValueNode.key).length := by
      simp only [List.length_map, hattributes]
    rw [(List.append_inj hrest hlength).1, List.map_map, List.map_map]
    rfl

/-- **The pool of a flattened owner is in order**, if the keys of its maps are. -/
theorem flatten_wellFormed (h : List.Forall₂ Source.Denotes (attributes.map Prod.snd) trees)
    (hok : flatten body attributes = .ok out) (hmaps : ∀ t ∈ ownerTrees body trees, t.MapsOk) :
    WellFormed out.nodes (ownerRoots body out) := by
  obtain ⟨order, hlaid⟩ := laid_of_flatten h hok
  obtain ⟨hnodes, hroots⟩ := cells_of_flatten h hok
  obtain ⟨-, -, hfits, -⟩ := (flatten_ok_iff h).mp ⟨out, hok⟩
  have hwf := hlaid.wellFormed hfits hmaps
  rwa [hnodes, hroots] at hwf

end Owner

end OtelC.Logs
