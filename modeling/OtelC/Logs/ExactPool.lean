import OtelC.Logs.Export

/-!
# The pool of an owner is exact

The flattener is given a body and attributes of two kinds.  It succeeds just when they keep the limits,
and then its pool holds them and nothing else: containers address consecutive nodes behind them, every
node is addressed once, and a reader who starts at the roots finds the body and the attributes.

* `Laid.exactPool`: the pool of trees that are laid out breadth first.
* `flattening_exact`: the same for what `flatten` is given.
-/

namespace OtelC.Logs

open OtelC.Sdk (Value)
open BreadthFirst (offset)

/-! ### Keys in order -/

/-- The entries of a map stand in key order. -/
def AnyValue.InOrder : AnyValue → Prop
  | .map entries => entries.Pairwise fun a b => keyLe a.1 b.1
  | _ => True

theorem AnyValue.inOrder_sorted (v : AnyValue) : v.sorted.InOrder := by
  cases v with
  | map entries =>
    rw [sorted_map]
    show ((sortEntries entries).map fun entry => (entry.1, entry.2.sorted)).Pairwise
      fun a b => keyLe a.1 b.1
    rw [List.pairwise_map]
    exact pairwise_sortEntries entries
  | listAny values =>
    rw [sorted_listAny]
    trivial
  | int n => rw [sorted_of_children_nil rfl]; trivial
  | double x => rw [sorted_of_children_nil rfl]; trivial
  | string s => rw [sorted_of_children_nil rfl]; trivial
  | boolean b => rw [sorted_of_children_nil rfl]; trivial
  | bytes data => rw [sorted_of_children_nil rfl]; trivial

theorem AnyValue.all_inOrder_sorted (v : AnyValue) : All InOrder v.sorted := by
  induction v using children_induction with
  | step v ih => exact all_iff.mpr ⟨v.inOrder_sorted, forall_children_sorted.mpr ih⟩

/-! ### Exact pools -/

/-- Every node of the pool is addressed once, by a container or root before it, and the nodes that a
container addresses have the keys of its kind. -/
structure ExactPool (nodes : List OtelLogValueNode) (roots : List OtelLogValue) : Prop where
  contiguous : ∀ value ∈ allValues nodes roots, ∀ tag, value.tag = some tag → tag.IsContainer →
    value.kids = List.range' value.value.children.first.toNat value.value.children.count.toNat
  inBounds : ∀ value ∈ allValues nodes roots, ∀ tag, value.tag = some tag → tag.IsContainer →
    value.value.children.first.toNat + value.value.children.count.toNat ≤ nodes.length
  after : ∀ i (node : OtelLogValueNode), nodes[i]? = some node →
    ∀ tag, node.value.tag = some tag → tag.IsContainer → i < node.value.value.children.first.toNat
  once : ∀ i < nodes.length, (claims nodes roots).count i = 1
  elements : ∀ value ∈ allValues nodes roots, value.tag = some .array →
    ∀ j ∈ value.kids, ∃ node, nodes[j]? = some node ∧ node.key = emptyView
  entries : ∀ value ∈ allValues nodes roots, value.tag = some .map →
    ∃ keys, List.Forall₂ (fun j key => keyAt nodes j = some key) value.kids keys ∧
      keys.Pairwise keyLe

/-- The range that a container is written with. -/
theorem children_render {first : Nat} {v : AnyValue} {tag : OtelLogValueType}
    (h : first + v.children.length ≤ maxValueNodes) (htag : (render first v).tag = some tag)
    (hc : tag.IsContainer) :
    (render first v).value.children.first.toNat = first ∧
      (render first v).value.children.count.toNat = v.children.length := by
  have hfirst : (UInt32.ofNat first).toNat = first := toNat_ofNat (Nat.le_of_add_right_le h)
  have hcount : (UInt32.ofNat v.children.length).toNat = v.children.length :=
    toNat_ofNat (Nat.le_of_add_left_le h)
  rcases hc with rfl | rfl
  · obtain ⟨values, rfl⟩ := eq_listAny_of_tag htag
    exact ⟨hfirst, hcount⟩
  · obtain ⟨entries, rfl⟩ := eq_map_of_tag htag
    rw [AnyValue.children, List.length_map] at hcount ⊢
    exact ⟨hfirst, hcount⟩

namespace Laid

variable {roots order : List AnyValue} {rootCells cells : List OtelLogValueNode}

/-- The children of an array have no key. -/
theorem key_element (h : Laid roots order rootCells cells) {k : Nat} {values : List AnyValue}
    (hv : order[k]? = some (.listAny values)) {j : Nat}
    (hj : j ∈ (render (offset AnyValue.children order k) (.listAny values)).kids) :
    ∃ node, (cells.drop roots.length)[j]? = some node ∧ node.key = emptyView := by
  rw [kids_render ((h.offset_add_le hv).trans h.room)] at hj
  obtain ⟨hfirst, hlast⟩ := List.mem_range'_1.mp hj
  obtain ⟨i, rfl⟩ := Nat.exists_eq_add_of_le hfirst
  have hi := Nat.lt_of_add_lt_add_left hlast
  obtain ⟨node, child, hnode, -, -, hcell⟩ := h.getElem?_child hv hi
  have hempty : (AnyValue.listAny values).childNodes[i]? = some emptyNode :=
    List.getElem?_replicate_of_lt hi
  obtain rfl := Option.some.inj (hnode.symm.trans hempty)
  exact ⟨_, hcell, rfl⟩

/-- The children of a map have the keys of its entries. -/
theorem keys_entries (h : Laid roots order rootCells cells) {k : Nat}
    {entries : List (Str × AnyValue)} (hv : order[k]? = some (.map entries))
    (hfits : (AnyValue.map entries).PayloadFits) :
    List.Forall₂ (fun j key => keyAt (cells.drop roots.length) j = some key)
      (render (offset AnyValue.children order k) (.map entries)).kids (entries.map Prod.fst) := by
  rw [kids_render ((h.offset_add_le hv).trans h.room), AnyValue.children, List.length_map,
    List.forall₂_map_right_iff]
  apply forall₂_range'
  intro i entry hentry
  exact h.keyAt_entry hv hentry (hfits.2 entry (List.mem_of_getElem? hentry))

/-- **Trees that are laid out breadth first fill an exact pool.** -/
theorem exactPool (h : Laid roots order rootCells cells) (hfits : ∀ t ∈ roots, t.Fits)
    (hsorted : ∀ t ∈ roots, AnyValue.All AnyValue.InOrder t) :
    ExactPool (cells.drop roots.length)
      ((cells.take roots.length).map OtelLogValueNode.value) := by
  have hfits' : ∀ v ∈ order, v.Fits :=
    h.listed.forall_mem hfits fun v hv => (AnyValue.fits_iff.mp hv).2
  have hsorted' : ∀ v ∈ order, AnyValue.All AnyValue.InOrder v :=
    h.listed.forall_mem hsorted fun v hv => (AnyValue.all_iff.mp hv).2
  constructor
  · intro value _ tag htag hc
    exact kids_of_container htag hc
  · intro value hvalue tag htag hc
    obtain ⟨k, v, hv, rfl⟩ := h.mem_allValues hvalue
    obtain ⟨hfirst, hcount⟩ := children_render ((h.offset_add_le hv).trans h.room) htag hc
    rw [hfirst, hcount, h.length_nodes, h.length_below]
    exact h.offset_add_le hv
  · intro i node hnode tag htag hc
    rw [List.getElem?_drop] at hnode
    obtain ⟨v, hv, hvalue⟩ := h.value_of_cell hnode
    rw [hvalue] at htag ⊢
    obtain ⟨hfirst, -⟩ := children_render ((h.offset_add_le hv).trans h.room) htag hc
    have hlt := h.listed.lt_offset (List.getElem?_eq_some_iff.mp hv).1
    rw [hfirst]
    omega
  · intro i hi
    rw [h.claims_perm.count_eq, List.count_eq_one_of_mem List.nodup_range (List.mem_range.mpr hi)]
  · intro value hvalue htag j hj
    obtain ⟨k, v, hv, rfl⟩ := h.mem_allValues hvalue
    obtain ⟨values, rfl⟩ := eq_listAny_of_tag htag
    exact h.key_element hv hj
  · intro value hvalue htag
    obtain ⟨k, v, hv, rfl⟩ := h.mem_allValues hvalue
    obtain ⟨entries, rfl⟩ := eq_map_of_tag htag
    have hmem := List.mem_of_getElem? hv
    refine ⟨entries.map Prod.fst, h.keys_entries hv (AnyValue.fits_iff.mp (hfits' _ hmem)).1, ?_⟩
    have horder : entries.Pairwise fun a b => keyLe a.1 b.1 :=
      (AnyValue.all_iff.mp (hsorted' _ hmem)).1
    exact List.pairwise_map.mpr horder

end Laid

/-! ### What the flattener is given -/

/-- The value of an attribute: of a record, or of a resource or a scope. -/
inductive AttributeValue where
  | record (value : AnyValue)
  | scope (value : Value)

namespace AttributeValue

/-- The source that is queued for the attribute. -/
def source : AttributeValue → Source
  | record value => .any value
  | scope value => .attr value

/-- The value as a log value. -/
def tree : AttributeValue → AnyValue
  | record value => value
  | scope value => attributeTree value

end AttributeValue

theorem sorted_attributeTree (v : Value) : (attributeTree v).sorted = attributeTree v := by
  cases v with
  | array values =>
    show (AnyValue.listAny (arrayElements values)).sorted = .listAny (arrayElements values)
    rw [AnyValue.sorted_listAny]
    refine congrArg AnyValue.listAny ((List.map_congr_left fun element helement => ?_).trans
      (List.map_id _))
    exact AnyValue.sorted_of_children_nil (arrayElement_spec helement).1
  | bool b => exact AnyValue.sorted_of_children_nil rfl
  | i64 n => exact AnyValue.sorted_of_children_nil rfl
  | f64 x => exact AnyValue.sorted_of_children_nil rfl
  | string s => exact AnyValue.sorted_of_children_nil rfl

theorem AttributeValue.denotes (a : AttributeValue) : a.source.Denotes a.tree.sorted := by
  cases a with
  | record value => rfl
  | scope value => exact sorted_attributeTree value

/-- The attributes as they are handed to the flattener. -/
def attributeEntries (attributes : List (Str × AttributeValue)) : List (Str × Source) :=
  attributes.map fun a => (a.1, a.2.source)

/-- The values of an owner: its body, if it has one, and its attributes. -/
def ownerValues (body : Option AnyValue) (attributes : List (Str × AttributeValue)) :
    List AnyValue :=
  body.toList ++ attributes.map fun a => a.2.tree

section Owner

variable (body : Option AnyValue) (attributes : List (Str × AttributeValue))

theorem denotes_entries : List.Forall₂ Source.Denotes ((attributeEntries attributes).map Prod.snd)
    (attributes.map fun a => a.2.tree.sorted) := by
  rw [attributeEntries, List.map_map, List.forall₂_map_left_iff, List.forall₂_map_right_iff,
    List.forall₂_same]
  exact fun a _ => a.2.denotes

theorem ownerTrees_eq : ownerTrees body (attributes.map fun a => a.2.tree.sorted) =
    (ownerValues body attributes).map AnyValue.sorted := by
  rw [ownerTrees, ownerValues, List.map_append, List.map_map]
  rfl

theorem map_fst_entries : (attributeEntries attributes).map Prod.fst = attributes.map Prod.fst := by
  rw [attributeEntries, List.map_map]
  rfl

theorem ownerFits_sorted {keys : List Str} {trees : List AnyValue} :
    OwnerFits keys (trees.map AnyValue.sorted) ↔ OwnerFits keys trees := by
  have hvalues : (∀ t ∈ trees.map AnyValue.sorted, t.Fits ∧ t.height ≤ maxValueDepth) ↔
      ∀ t ∈ trees, t.Fits ∧ t.height ≤ maxValueDepth := by
    rw [List.forall_mem_map]
    simp only [AnyValue.fits_sorted, AnyValue.height_sorted]
  constructor
  · intro h
    exact ⟨h.count, h.keys, hvalues.mp h.values, by rw [← belowRoots_sorted]; exact h.nodes⟩
  · intro h
    exact ⟨h.count, h.keys, hvalues.mpr h.values, by rw [belowRoots_sorted]; exact h.nodes⟩

/-- **The flattener is exact.**  It succeeds just when the owner keeps the limits, and then the pool it
writes is exact and reads as the values of the owner, whose maps it puts in key order. -/
theorem flattening_exact :
    ((∃ out, flatten body (attributeEntries attributes) = .ok out) ↔
      OwnerFits (attributes.map Prod.fst) (ownerValues body attributes)) ∧
    ∀ out, flatten body (attributeEntries attributes) = .ok out →
      ExactPool out.nodes (ownerRoots body out) ∧
      ReadsAll out.nodes (ownerRoots body out)
        ((ownerValues body attributes).map AnyValue.sorted) ∧
      out.attributes.map OtelLogValueNode.key = attributes.map (fun a => viewOf a.1) ∧
      (body = none → out.body = emptyValue) := by
  have hdenotes := denotes_entries attributes
  constructor
  · rw [flatten_ok_iff_fits hdenotes, ownerTrees_eq, map_fst_entries, ownerFits_sorted]
  · intro out hok
    obtain ⟨order, hlaid⟩ := laid_of_flatten hdenotes hok
    obtain ⟨hnodes, hroots⟩ := cells_of_flatten hdenotes hok
    obtain ⟨hreads, hkeys⟩ := flatten_reads hdenotes hok
    obtain ⟨-, -, hfits, -⟩ := (flatten_ok_iff hdenotes).mp ⟨out, hok⟩
    obtain ⟨-, -, -, -, hbody⟩ := flatten_ok hdenotes hok
    rw [ownerTrees_eq] at hreads hfits
    refine ⟨?_, hreads, ?_, hbody⟩
    · have hexact := hlaid.exactPool
        (by rw [ownerTrees_eq]; exact fun t ht => (hfits t ht).1) (by
          rw [ownerTrees_eq, List.forall_mem_map]
          exact fun t _ => t.all_inOrder_sorted)
      rwa [hnodes, hroots] at hexact
    · rw [hkeys, attributeEntries, List.map_map]
      rfl

end Owner

theorem fits_of_leaf {v : AnyValue} (h : v.children = []) (hfits : v.PayloadFits) : v.Fits :=
  AnyValue.fits_iff.mpr ⟨hfits, by simp [h]⟩

theorem height_of_leaf {v : AnyValue} (h : v.children = []) : v.height = 1 := by
  rw [AnyValue.height_eq, h]
  rfl

theorem flattening_exact_array :
    ∃ out, flatten (some (.listAny [.boolean true])) (attributeEntries [(lit "k", .scope (.i64 7))]) =
        .ok out ∧
      ExactPool out.nodes (ownerRoots (some (.listAny [.boolean true])) out) := by
  have h := flattening_exact (some (.listAny [.boolean true])) [(lit "k", .scope (.i64 7))]
  have hfits : OwnerFits [lit "k"]
      (ownerValues (some (.listAny [.boolean true])) [(lit "k", .scope (.i64 7))]) := by
    refine ⟨by decide, by decide, ?_, ?_⟩
    · show ∀ t ∈ [AnyValue.listAny [.boolean true], .int 7], t.Fits ∧ t.height ≤ maxValueDepth
      intro t ht
      rcases List.mem_pair.mp ht with rfl | rfl
      · refine ⟨AnyValue.fits_iff.mpr ⟨show 1 ≤ maxArrayElements by decide, fun child hchild => ?_⟩, ?_⟩
        · obtain rfl := List.mem_singleton.mp hchild
          exact fits_of_leaf rfl trivial
        · rw [AnyValue.height_eq, AnyValue.children, Forest.maxOf_cons,
            Forest.maxOf_nil, height_of_leaf rfl]
          decide
      · exact ⟨fits_of_leaf rfl trivial, by rw [height_of_leaf rfl]; decide⟩
    · show belowRoots [AnyValue.listAny [.boolean true], .int 7] ≤ maxValueNodes
      simp [belowRoots, AnyValue.children, AnyValue.size_eq, maxValueNodes]
  obtain ⟨out, hout⟩ := h.1.mpr hfits
  exact ⟨out, hout, (h.2 out hout).1⟩

end OtelC.Logs
