import OtelC.Logs.Flattener

/-!
# One turn of the flattener

A source stands for a tree.  A turn of the loop writes the value of one tree to its slot, and reserves
and queues slots for the children of the tree.

* `Source.Denotes.fits_iff`: the limits of a tree, spread over the turns that check them.
* `FlattenState.cells_put`: what a written value replaces.
* `flattenStep_ok_iff`: when a turn succeeds, and the state it leaves.
-/

namespace OtelC.Logs

open OtelC.Sdk (Value ArrayValue)

/-! ### Trees in key order -/

namespace AnyValue

/-- The nodes reserved for the children of a tree, with their keys. -/
def childNodes : AnyValue → List OtelLogValueNode
  | .listAny values => List.replicate values.length emptyNode
  | .map entries => entries.map fun entry => ⟨viewOf entry.1, emptyValue⟩
  | _ => []

@[simp] theorem length_childNodes (v : AnyValue) : v.childNodes.length = v.children.length := by
  cases v with
  | listAny values => exact List.length_replicate
  | map entries => rw [childNodes, children, List.length_map, List.length_map]
  | int n => rfl
  | double x => rfl
  | string s => rfl
  | boolean b => rfl
  | bytes data => rfl

end AnyValue

/-! ### Sources and the trees they stand for -/

/-- The tree a source stands for, as a reader of the pool will find it. -/
def Source.Denotes : Source → AnyValue → Prop
  | .any v, t => t = v.sorted
  | .attr v, t => t = attributeTree v
  | .scalar value, t => t.children = [] ∧ t.PayloadFits ∧ ∀ first, value = Logs.render first t

theorem render_sorted (first : Nat) (v : AnyValue) : render first v.sorted = render first v := by
  cases v with
  | listAny values =>
    rw [AnyValue.sorted_listAny, render, render, List.length_map]
  | map entries =>
    rw [AnyValue.sorted_map, render, render, List.length_map, length_sortEntries]
  | int n => rw [AnyValue.sorted_of_children_nil rfl]
  | double x => rw [AnyValue.sorted_of_children_nil rfl]
  | string s => rw [AnyValue.sorted_of_children_nil rfl]
  | boolean b => rw [AnyValue.sorted_of_children_nil rfl]
  | bytes data => rw [AnyValue.sorted_of_children_nil rfl]

namespace Source.Denotes

variable {source : Source} {t : AnyValue}

theorem render_eq (h : source.Denotes t) (first : Nat) :
    source.render first = Logs.render first t := by
  cases source with
  | any v =>
    obtain rfl : t = v.sorted := h
    exact (render_sorted first v).symm
  | attr v =>
    obtain rfl : t = attributeTree v := h
    rfl
  | scalar value => exact h.2.2 first

theorem any_children (v : AnyValue) :
    List.Forall₂ Source.Denotes (Source.any v).children v.sorted.children := by
  cases v with
  | listAny values =>
    rw [AnyValue.sorted_listAny]
    show List.Forall₂ Source.Denotes (values.map .any) (values.map AnyValue.sorted)
    rw [List.forall₂_map_left_iff, List.forall₂_map_right_iff, List.forall₂_same]
    exact fun _ _ => rfl
  | map entries =>
    rw [AnyValue.sorted_map]
    show List.Forall₂ Source.Denotes ((sortEntries entries).map fun entry => .any entry.2)
      (((sortEntries entries).map fun entry => (entry.1, entry.2.sorted)).map Prod.snd)
    rw [List.map_map, List.forall₂_map_left_iff, List.forall₂_map_right_iff, List.forall₂_same]
    exact fun _ _ => rfl
  | int n => rw [AnyValue.sorted_of_children_nil rfl]; exact .nil
  | double x => rw [AnyValue.sorted_of_children_nil rfl]; exact .nil
  | string s => rw [AnyValue.sorted_of_children_nil rfl]; exact .nil
  | boolean b => rw [AnyValue.sorted_of_children_nil rfl]; exact .nil
  | bytes data => rw [AnyValue.sorted_of_children_nil rfl]; exact .nil

theorem attr_children {v : Value} (hfits : (Source.attr v).ConvertFits) :
    List.Forall₂ Source.Denotes (Source.attr v).children (attributeTree v).children := by
  cases v with
  | array values =>
    show List.Forall₂ Source.Denotes
      (((arrayElements values).map (Logs.render 0)).map Source.scalar) (arrayElements values)
    rw [List.map_map, List.forall₂_map_left_iff, List.forall₂_same]
    intro element helement
    have hspec := arrayElement_spec helement
    exact ⟨hspec.1, hfits.1 element helement, hspec.2⟩
  | bool b => exact .nil
  | i64 n => exact .nil
  | f64 x => exact .nil
  | string s => exact .nil

/-- The children of a source stand for the children of its tree. -/
theorem children (h : source.Denotes t) (hfits : source.ConvertFits) :
    List.Forall₂ Source.Denotes source.children t.children := by
  cases source with
  | any v =>
    obtain rfl : t = v.sorted := h
    exact any_children v
  | attr v =>
    obtain rfl : t = attributeTree v := h
    exact attr_children hfits
  | scalar value =>
    rw [h.1]
    exact .nil

theorem childNodes_eq (h : source.Denotes t) : source.childNodes = t.childNodes := by
  cases source with
  | any v =>
    obtain rfl : t = v.sorted := h
    cases v with
    | listAny values =>
      rw [AnyValue.sorted_listAny, AnyValue.childNodes, List.length_map]
      rfl
    | map entries =>
      rw [AnyValue.sorted_map, AnyValue.childNodes, List.map_map]
      rfl
    | int n => rw [AnyValue.sorted_of_children_nil rfl]; rfl
    | double x => rw [AnyValue.sorted_of_children_nil rfl]; rfl
    | string s => rw [AnyValue.sorted_of_children_nil rfl]; rfl
    | boolean b => rw [AnyValue.sorted_of_children_nil rfl]; rfl
    | bytes data => rw [AnyValue.sorted_of_children_nil rfl]; rfl
  | attr v =>
    obtain rfl : t = attributeTree v := h
    cases v with
    | array values =>
      show List.replicate ((arrayElements values).map (Logs.render 0)).length emptyNode =
        List.replicate (arrayElements values).length emptyNode
      rw [List.length_map]
    | bool b => rfl
    | i64 n => rfl
    | f64 x => rfl
    | string s => rfl
  | scalar value =>
    have hlength : t.childNodes.length = 0 := by rw [AnyValue.length_childNodes, h.1]; rfl
    exact (List.eq_nil_of_length_eq_zero hlength).symm

theorem any_payload_iff (v : AnyValue) :
    (Source.any v).ConvertFits ∧ (Source.any v).KeysFit ↔ v.PayloadFits := by
  have hleaf : (Source.any v).pending = none → (Source.any v).KeysFit := by
    intro hpending children hchildren
    rw [hpending] at hchildren
    cases hchildren
  cases v with
  | listAny values =>
    refine and_iff_left ?_
    intro children hchildren
    obtain rfl := Option.some.inj hchildren
    trivial
  | map entries =>
    refine and_congr_right fun _ => ?_
    constructor
    · intro h entry hentry
      exact h _ rfl entry (mem_sortEntries.mpr hentry)
    · intro h children hchildren
      obtain rfl := Option.some.inj hchildren
      exact fun entry hentry => h entry (mem_sortEntries.mp hentry)
  | int n => exact and_iff_left (hleaf rfl)
  | double x => exact and_iff_left (hleaf rfl)
  | string s => exact and_iff_left (hleaf rfl)
  | boolean b => exact and_iff_left (hleaf rfl)
  | bytes data => exact and_iff_left (hleaf rfl)

theorem attr_payload_iff (v : Value) :
    (Source.attr v).ConvertFits ∧ (Source.attr v).KeysFit ↔
      (attributeTree v).PayloadFits ∧ ∀ child ∈ (attributeTree v).children, child.PayloadFits := by
  have hkeys : (Source.attr v).KeysFit := by
    intro children hchildren
    cases v with
    | array values =>
      obtain rfl := Option.some.inj hchildren
      trivial
    | bool b => cases hchildren
    | i64 n => cases hchildren
    | f64 x => cases hchildren
    | string s => cases hchildren
  rw [and_iff_left hkeys]
  have hleaf : ∀ child ∈ ([] : List AnyValue), child.PayloadFits := fun _ h => by cases h
  cases v with
  | array values => exact And.comm
  | bool b => exact (and_iff_left hleaf).symm
  | i64 n => exact (and_iff_left hleaf).symm
  | f64 x => exact (and_iff_left hleaf).symm
  | string s => exact (and_iff_left hleaf).symm

/-- What a tree has to fit, spread over the turns of the loop. -/
theorem fits_iff (h : source.Denotes t) :
    t.Fits ↔ source.ConvertFits ∧ source.KeysFit ∧ ∀ child ∈ t.children, child.Fits := by
  cases source with
  | any v =>
    obtain rfl : t = v.sorted := h
    rw [AnyValue.fits_iff, AnyValue.payloadFits_sorted, ← any_payload_iff, and_assoc]
  | attr v =>
    obtain rfl : t = attributeTree v := h
    rw [← and_assoc, attr_payload_iff, AnyValue.fits_iff]
    constructor
    · intro hfits
      exact ⟨⟨hfits.1, fun child hchild => (AnyValue.fits_iff.mp (hfits.2 child hchild)).1⟩, hfits.2⟩
    · intro hfits
      exact ⟨hfits.1.1, hfits.2⟩
  | scalar value =>
    have hkeys : (Source.scalar value).KeysFit := fun _ hpending => by cases hpending
    rw [AnyValue.fits_iff, h.1, and_iff_right hkeys]
    exact and_congr_left fun _ => iff_of_true h.2.1 trivial

end Source.Denotes

/-! ### Cells -/

def OtelLogValueNode.put (node : OtelLogValueNode) (value : OtelLogValue) : OtelLogValueNode :=
  { node with value := value }

namespace FlattenState

/-- The slots of a state in the order in which they are written; whether the body is one of them is
given. -/
def slots (hasBody : Bool) (st : FlattenState) : List Slot :=
  (if hasBody then [.body] else []) ++ (List.range st.attributes.length).map .attr ++
    (List.range st.nodes.length).map .node

def bodyCells (hasBody : Bool) (body : OtelLogValue) : List OtelLogValueNode :=
  if hasBody then [⟨emptyView, body⟩] else []

@[simp] theorem length_bodyCells (hasBody : Bool) (body : OtelLogValue) :
    (bodyCells hasBody body).length = hasBody.toNat := by
  cases hasBody <;> rfl

/-- What stands in the slots. -/
def cells (hasBody : Bool) (st : FlattenState) : List OtelLogValueNode :=
  bodyCells hasBody st.body ++ st.attributes ++ st.nodes

theorem length_slots (hasBody : Bool) (st : FlattenState) :
    (st.slots hasBody).length = (st.cells hasBody).length := by
  cases hasBody with
  | false => simp [slots, cells]
  | true => simp [slots, cells]; omega

/-- Where a slot stands among the slots, and that it is one of them. -/
def At (hasBody : Bool) (st : FlattenState) (k : Nat) : Slot → Prop
  | .body => hasBody = true ∧ k = 0
  | .attr i => k = hasBody.toNat + i ∧ i < st.attributes.length
  | .node i => k = hasBody.toNat + st.attributes.length + i ∧ i < st.nodes.length

theorem at_of_tail {m n k : Nat} {slot : Slot}
    (h : ((List.range m).map Slot.attr ++ (List.range n).map Slot.node)[k]? = some slot) :
    (slot = .attr k ∧ k < m) ∨ ∃ i, slot = .node i ∧ k = m + i ∧ i < n := by
  rw [List.getElem?_append, List.length_map, List.length_range, List.getElem?_map,
    List.getElem?_map] at h
  split at h
  · rename_i hattr
    rw [List.getElem?_range hattr, Option.map_some, Option.some.injEq] at h
    exact .inl ⟨h.symm, hattr⟩
  · obtain ⟨i, hi, rfl⟩ := Option.map_eq_some_iff.mp h
    obtain ⟨hlt, rfl⟩ := List.getElem?_eq_some_iff.mp hi
    rw [List.length_range] at hlt
    refine .inr ⟨_, rfl, ?_, ?_⟩
    · rw [List.getElem_range]
      omega
    · rwa [List.getElem_range]

theorem at_of_slots {hasBody : Bool} {st : FlattenState} {k : Nat} {slot : Slot}
    (h : (st.slots hasBody)[k]? = some slot) : st.At hasBody k slot := by
  cases hasBody with
  | false =>
    rcases at_of_tail h with ⟨rfl, hk⟩ | ⟨i, rfl, rfl, hi⟩
    · exact ⟨(Nat.zero_add k).symm, hk⟩
    · exact ⟨by simp, hi⟩
  | true =>
    cases k with
    | zero =>
      obtain rfl : Slot.body = slot := Option.some.inj h
      exact ⟨rfl, rfl⟩
    | succ k =>
      rcases at_of_tail h with ⟨rfl, hk⟩ | ⟨i, rfl, rfl, hi⟩
      · exact ⟨Nat.add_comm k 1, hk⟩
      · exact ⟨by simp only [Bool.toNat_true]; omega, hi⟩

/-- The state with a value in a slot. -/
def put (st : FlattenState) (value : OtelLogValue) : Slot → FlattenState
  | .body => { st with body := value }
  | .attr i => { st with attributes := st.attributes.modify i (·.put value) }
  | .node i => { st with nodes := st.nodes.modify i (·.put value) }

variable {hasBody : Bool} {st : FlattenState} {k : Nat} {slot : Slot}

theorem modify_eq_set {α : Type} {xs : List α} {i : Nat} {a : α} (h : xs[i]? = some a)
    (f : α → α) : xs.modify i f = xs.set i (f a) := by
  obtain ⟨hi, rfl⟩ := List.getElem?_eq_some_iff.mp h
  rw [List.modify_eq_take_cons_drop hi, List.set_eq_take_cons_drop _ hi]

theorem modify_append_right {α : Type} (xs ys : List α) (i : Nat) (f : α → α) :
    (xs ++ ys).modify (xs.length + i) f = xs ++ ys.modify i f := by
  induction xs with
  | nil => rw [List.nil_append, List.nil_append, List.length_nil, Nat.zero_add]
  | cons x xs ih =>
    rw [List.length_cons, Nat.add_right_comm, List.cons_append, List.modify_succ_cons, ih,
      List.cons_append]

theorem modify_append_left {α : Type} {xs : List α} {i : Nat} (hi : i < xs.length) (ys : List α)
    (f : α → α) : (xs ++ ys).modify i f = xs.modify i f ++ ys := by
  induction xs generalizing i with
  | nil => simp at hi
  | cons x xs ih =>
    cases i with
    | zero => rfl
    | succ i =>
      rw [List.cons_append, List.modify_succ_cons, List.modify_succ_cons,
        ih (Nat.lt_of_succ_lt_succ hi), List.cons_append]

/-- A written value replaces the one that stood there. -/
theorem cells_put (h : st.At hasBody k slot) (value : OtelLogValue) :
    (st.put value slot).cells hasBody = (st.cells hasBody).modify k (·.put value) := by
  cases slot with
  | body =>
    obtain ⟨rfl, rfl⟩ := h
    rfl
  | attr i =>
    obtain ⟨rfl, hi⟩ := h
    show bodyCells hasBody st.body ++ st.attributes.modify i _ ++ st.nodes =
      (bodyCells hasBody st.body ++ st.attributes ++ st.nodes).modify _ _
    rw [← length_bodyCells hasBody st.body, List.append_assoc, List.append_assoc,
      modify_append_right, modify_append_left hi]
  | node i =>
    obtain ⟨rfl, -⟩ := h
    show bodyCells hasBody st.body ++ st.attributes ++ st.nodes.modify i _ =
      (bodyCells hasBody st.body ++ st.attributes ++ st.nodes).modify _ _
    rw [← length_bodyCells hasBody st.body, ← List.length_append, modify_append_right]

/-- A slot in bounds is written. -/
theorem writeSlot_eq (h : st.At hasBody k slot) (value : OtelLogValue) :
    writeSlot st value slot = .ok (st.put value slot) := by
  cases slot with
  | body => rfl
  | attr i =>
    rw [writeSlot, index_of_lt h.2, Checked.ok_bind, put,
      modify_eq_set (List.getElem?_eq_getElem h.2)]
    rfl
  | node i =>
    rw [writeSlot, index_of_lt h.2, Checked.ok_bind, put,
      modify_eq_set (List.getElem?_eq_getElem h.2)]
    rfl

end FlattenState

/-! ### One turn -/

/-- The keys of a map are written to the nodes reserved for its entries. -/
theorem enqueueEntries_ok_iff {pre : List OtelLogValueNode} {queue : List WorkItem} {depth : Nat}
    {entries : List (Str × AnyValue)} {out : List OtelLogValueNode × List WorkItem} :
    enqueueEntries (pre ++ List.replicate entries.length emptyNode) queue depth pre.length entries =
      .ok out ↔
      (∀ entry ∈ entries, entry.1.len ≤ maxStringLen) ∧ (entries ≠ [] → depth ≤ maxValueDepth) ∧
        out = (pre ++ entries.map fun entry => ⟨viewOf entry.1, emptyValue⟩,
          queue ++ childItems depth pre.length (entries.map fun entry => .any entry.2)) := by
  induction entries generalizing pre queue with
  | nil =>
    simp only [enqueueEntries, List.length_nil, List.replicate_zero, List.append_nil, List.map_nil,
      childItems, Except.ok.injEq, eq_comm (a := out)]
    simp
  | cons entry rest ih =>
    have hset : setKey (pre ++ List.replicate (entry :: rest).length emptyNode) pre.length
        (viewOf entry.1) =
        .ok ((pre ++ [⟨viewOf entry.1, emptyValue⟩]) ++
          List.replicate rest.length emptyNode) := by
      rw [setKey, List.length_cons, List.replicate_succ, index_of_lt (by simp), Checked.ok_bind,
        List.getElem_append_right (Nat.le_refl _), List.set_append_right _ _ (Nat.le_refl _),
        List.append_assoc]
      simp only [Nat.sub_self]
      rfl
    have hlength : pre.length + 1 =
        (pre ++ [OtelLogValueNode.mk (viewOf entry.1) emptyValue]).length := by
      rw [List.length_append, List.length_singleton]
    rw [enqueueEntries, Checked.bind_eq_ok, List.forall_mem_cons]
    constructor
    · intro h
      obtain ⟨view, hview, h⟩ := h
      obtain ⟨hlen, rfl⟩ := stringView_ok_iff.mp hview
      obtain ⟨nodes, hnodes, h⟩ := Checked.bind_eq_ok.mp h
      obtain rfl := Except.ok.inj (hset.symm.trans hnodes)
      obtain ⟨queue', hqueue, h⟩ := Checked.bind_eq_ok.mp h
      obtain ⟨hdepth, rfl⟩ := enqueue_ok_iff.mp hqueue
      rw [hlength] at h
      obtain ⟨hrest, -, rfl⟩ := ih.mp h
      refine ⟨⟨hlen, hrest⟩, fun _ => hdepth, ?_⟩
      rw [← hlength, List.map_cons, List.map_cons, childItems]
      simp only [List.append_assoc, List.singleton_append]
    · intro h
      obtain ⟨⟨hlen, hrest⟩, hdepth, rfl⟩ := h
      have hdepth := hdepth (List.cons_ne_nil entry rest)
      refine ⟨_, stringView_ok_iff.mpr ⟨hlen, rfl⟩, ?_⟩
      rw [hset, Checked.ok_bind, enqueue_ok_iff.mpr ⟨hdepth, rfl⟩, Checked.ok_bind, hlength]
      refine ih.mpr ⟨hrest, fun _ => hdepth, ?_⟩
      rw [← hlength, List.map_cons, List.map_cons, childItems]
      simp only [List.append_assoc, List.singleton_append]

theorem toNat_ofNat {n : Nat} (h : n ≤ maxValueNodes) : (UInt32.ofNat n).toNat = n :=
  UInt32.toNat_ofNat_of_lt' (Nat.lt_of_le_of_lt h (by decide))

/-- Children that have no keys are queued for nodes that stay as they are. -/
theorem enqueueAll_state {st st' : FlattenState} {pre nodes : List OtelLogValueNode}
    {depth first : Nat} {sources : List Source} (hnodes : st.nodes = pre ++ nodes) :
    (do
      let queue ← enqueueAll st.queue depth first sources
      .ok { st with queue := queue }) = (.ok st' : Except Fail FlattenState) ↔
      (sources ≠ [] → depth ≤ maxValueDepth) ∧
        st' = { st with
          nodes := pre ++ nodes
          queue := st.queue ++ childItems depth first sources } := by
  rw [Checked.bind_eq_ok, ← hnodes]
  constructor
  · intro h
    obtain ⟨queue, hqueue, h⟩ := h
    obtain ⟨hdepth, rfl⟩ := enqueueAll_ok_iff.mp hqueue
    exact ⟨hdepth, (Except.ok.inj h).symm⟩
  · intro h
    exact ⟨_, enqueueAll_ok_iff.mpr ⟨h.1, rfl⟩, congrArg Except.ok h.2.symm⟩

/-- The children of a container are queued, and their keys written. -/
theorem enqueueContainer_ok_iff {children : ContainerChildren} {st st' : FlattenState}
    {pre : List OtelLogValueNode} {depth : Nat} {count : UInt32}
    (hnodes : st.nodes = pre ++ List.replicate children.sources.length emptyNode)
    (hpre : pre.length ≤ maxValueNodes) :
    enqueueChildren st depth (some (⟨UInt32.ofNat pre.length, count⟩, children)) = .ok st' ↔
      children.KeysFit ∧ (children.sources ≠ [] → depth + 1 ≤ maxValueDepth) ∧
        st' = { st with
          nodes := pre ++ children.nodes
          queue := st.queue ++ childItems (depth + 1) pre.length children.sources } := by
  have hfirst := toNat_ofNat hpre
  cases children with
  | list values =>
    rw [ContainerChildren.length_sources_list] at hnodes
    rw [enqueueChildren, hfirst, ContainerChildren.KeysFit, true_and]
    · exact enqueueAll_state hnodes
    · simp
  | map entries =>
    rw [ContainerChildren.length_sources_map] at hnodes
    rw [enqueueChildren, hfirst, hnodes, Checked.bind_eq_ok]
    have hne : (ContainerChildren.map entries).sources ≠ [] ↔ entries ≠ [] := by
      rw [ContainerChildren.sources, ne_eq, List.map_eq_nil_iff]
    rw [hne]
    constructor
    · intro h
      obtain ⟨out, hout, h⟩ := h
      obtain ⟨hkeys, hdepth, rfl⟩ := enqueueEntries_ok_iff.mp hout
      exact ⟨hkeys, hdepth, (Except.ok.inj h).symm⟩
    · intro h
      obtain ⟨hkeys, hdepth, rfl⟩ := h
      exact ⟨_, enqueueEntries_ok_iff.mpr ⟨hkeys, hdepth, rfl⟩, rfl⟩
  | scalars values =>
    rw [ContainerChildren.length_sources_scalars] at hnodes
    rw [enqueueChildren, hfirst, ContainerChildren.KeysFit, true_and]
    · exact enqueueAll_state hnodes
    · simp

theorem enqueueChildren_ok_iff {source : Source} {st st' : FlattenState}
    {pre : List OtelLogValueNode} {depth first : Nat} {count : UInt32}
    (hnodes : st.nodes = pre ++ List.replicate source.children.length emptyNode)
    (hfirst : pre.length = first) (hroom : first ≤ maxValueNodes) :
    enqueueChildren st depth (source.pending.map fun children =>
        (⟨UInt32.ofNat first, count⟩, children)) = .ok st' ↔
      source.KeysFit ∧ (source.children ≠ [] → depth + 1 ≤ maxValueDepth) ∧
        st' = { st with
          nodes := pre ++ source.childNodes
          queue := st.queue ++ childItems (depth + 1) first source.children } := by
  subst hfirst
  unfold Source.children at hnodes ⊢
  unfold Source.KeysFit Source.childNodes
  generalize source.pending = pending at *
  cases pending with
  | none =>
    have hst : st = { st with
        nodes := pre ++ []
        queue := st.queue ++ childItems (depth + 1) pre.length [] } := by
      have hnodes : st.nodes = pre ++ [] := hnodes
      rw [childItems, List.append_nil st.queue, ← hnodes]
    show Except.ok st = .ok st' ↔ _
    rw [Except.ok.injEq, eq_comm, ← hst]
    exact ⟨fun h => ⟨fun _ hc => (by cases hc), fun hne => absurd rfl hne, h⟩, fun h => h.2.2⟩
  | some children =>
    have hkeys : (∀ c ∈ some children, c.KeysFit) ↔ children.KeysFit := by
      simp
    rw [hkeys]
    exact enqueueContainer_ok_iff hnodes hroom

/-- The state after a turn that served a source standing for a tree. -/
def FlattenState.next (st : FlattenState) (item : WorkItem) (t : AnyValue) : FlattenState :=
  let written := st.put (render st.nodes.length t) item.slot
  { written with
    nodes := written.nodes ++ t.childNodes
    queue := st.queue ++ childItems (item.depth + 1) st.nodes.length item.source.children }

namespace FlattenState

variable {hasBody : Bool} {st : FlattenState} {k : Nat} {slot : Slot}

/-- The state with room for children. -/
def reserve (st : FlattenState) (nodes : List OtelLogValueNode) : FlattenState :=
  { st with nodes := st.nodes ++ nodes }

theorem At.reserve (h : st.At hasBody k slot) (nodes : List OtelLogValueNode) :
    (st.reserve nodes).At hasBody k slot := by
  cases slot with
  | body => exact h
  | attr i => exact h
  | node i =>
    refine ⟨h.1, ?_⟩
    rw [FlattenState.reserve, List.length_append]
    exact Nat.lt_of_lt_of_le h.2 (Nat.le_add_right _ _)

theorem put_reserve (h : st.At hasBody k slot) (nodes : List OtelLogValueNode)
    (value : OtelLogValue) : (st.reserve nodes).put value slot = (st.put value slot).reserve nodes := by
  cases slot with
  | body => rfl
  | attr i => rfl
  | node i =>
    rw [FlattenState.reserve, FlattenState.reserve, put, put]
    exact congrArg (fun nodes => { st with nodes := nodes }) (modify_append_left h.2 _ _)

@[simp] theorem length_nodes_put (st : FlattenState) (value : OtelLogValue) (slot : Slot) :
    (st.put value slot).nodes.length = st.nodes.length := by
  cases slot with
  | body => rfl
  | attr i => rfl
  | node i => exact List.length_modify _ _ _

@[simp] theorem queue_put (st : FlattenState) (value : OtelLogValue) (slot : Slot) :
    (st.put value slot).queue = st.queue := by
  cases slot <;> rfl

end FlattenState

theorem room_iff {source : Source} {n : Nat} (hn : n ≤ maxValueNodes) :
    source.Room n ↔ n + source.children.length ≤ maxValueNodes := by
  refine ⟨fun h => ?_, .inr⟩
  cases h with
  | inl hnone =>
    rw [Source.children, hnone]
    exact hn
  | inr h => exact h

/-- **One turn of the loop.** -/
theorem flattenStep_ok_iff {hasBody : Bool} {st st' : FlattenState} {item : WorkItem} {k : Nat}
    {t : AnyValue} (hdenotes : item.source.Denotes t) (hslot : st.At hasBody k item.slot)
    (hroom : st.nodes.length ≤ maxValueNodes) :
    flattenStep st item = .ok st' ↔
      item.source.ConvertFits ∧ item.source.KeysFit ∧
        (item.source.children ≠ [] → item.depth + 1 ≤ maxValueDepth) ∧
        st.nodes.length + item.source.children.length ≤ maxValueNodes ∧ st' = st.next item t := by
  have hwrite : writeSlot { st with nodes := (item.source.conversion st.nodes).nodes }
      (item.source.conversion st.nodes).value item.slot =
      .ok ((st.put (render st.nodes.length t) item.slot).reserve
        (List.replicate item.source.children.length emptyNode)) := by
    rw [← hdenotes.render_eq, ← FlattenState.put_reserve hslot]
    exact FlattenState.writeSlot_eq (hslot.reserve _) _
  have hqueue : enqueueChildren ((st.put (render st.nodes.length t) item.slot).reserve
      (List.replicate item.source.children.length emptyNode)) item.depth
        (item.source.conversion st.nodes).pending = .ok st' ↔
      item.source.KeysFit ∧ (item.source.children ≠ [] → item.depth + 1 ≤ maxValueDepth) ∧
        st' = st.next item t := by
    rw [Source.conversion, enqueueChildren_ok_iff rfl (FlattenState.length_nodes_put _ _ _) hroom,
      hdenotes.childNodes_eq, FlattenState.next, ← FlattenState.queue_put st _ item.slot]
    rfl
  rw [flattenStep, Checked.bind_eq_ok]
  constructor
  · intro h
    obtain ⟨c, hc, h⟩ := h
    obtain ⟨hfits, hnodes, rfl⟩ := convertSource_ok_iff.mp hc
    obtain ⟨st₁, hst₁, h⟩ := Checked.bind_eq_ok.mp h
    obtain rfl := Except.ok.inj (hwrite.symm.trans hst₁)
    obtain ⟨hkeys, hdepth, hst'⟩ := hqueue.mp h
    exact ⟨hfits, hkeys, hdepth, (room_iff hroom).mp hnodes, hst'⟩
  · intro h
    obtain ⟨hfits, hkeys, hdepth, hnodes, hst'⟩ := h
    refine ⟨_, convertSource_ok_iff.mpr ⟨hfits, (room_iff hroom).mpr hnodes, rfl⟩, ?_⟩
    exact Checked.bind_eq_ok.mpr ⟨_, hwrite, hqueue.mpr ⟨hkeys, hdepth, hst'⟩⟩

end OtelC.Logs
