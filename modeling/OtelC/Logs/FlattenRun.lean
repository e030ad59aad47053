import OtelC.Logs.FlattenStep
import OtelC.Lib.BreadthFirst

/-!
# What the flattener writes

Serving the queue lists the trees breadth first.  Every cell, that is every root and every node of the
pool, is written once, in the order in which the trees are listed.

* `flattenLoop_ok`: the cells after a run of the loop.
* `flattenLoop_ok_iff`: when a run succeeds.
* `flatten_ok`, `flatten_ok_iff`: the same for the body and the attributes of an owner.
-/

namespace OtelC.Logs

/-! ### A whole run -/

/-- The values written for trees in the order in which they are listed: the children of each come
after all that were reserved before it. -/
def renderAll : Nat → List AnyValue → List OtelLogValue
  | _, [] => []
  | first, v :: rest => render first v :: renderAll (first + v.children.length) rest

/-- Cells with the values written to them. -/
def fill (nodes : List OtelLogValueNode) (values : List OtelLogValue) : List OtelLogValueNode :=
  List.zipWith OtelLogValueNode.put nodes values

/-- The queue serves the cells that are still to be written, in order. -/
structure Queued (hasBody : Bool) (st : FlattenState) (front back : List OtelLogValueNode)
    (trees : List AnyValue) : Prop where
  cells : st.cells hasBody = front ++ back
  slots : ∃ written, st.slots hasBody = written ++ st.queue.map WorkItem.slot ∧
    written.length = front.length
  denotes : List.Forall₂ (fun item t => item.source.Denotes t) st.queue trees
  room : st.nodes.length ≤ maxValueNodes

namespace FlattenState

variable {hasBody : Bool} {st : FlattenState} {item : WorkItem} {t : AnyValue} {k : Nat}

theorem length_nodes_next : (st.next item t).nodes.length = st.nodes.length + t.children.length := by
  rw [next, List.length_append, length_nodes_put, AnyValue.length_childNodes]

theorem length_attributes_next : (st.next item t).attributes.length = st.attributes.length := by
  rw [next]
  cases item.slot with
  | body => rfl
  | attr i => exact List.length_modify _ _ _
  | node i => rfl

theorem slots_next : (st.next item t).slots hasBody = st.slots hasBody ++
    (List.range' st.nodes.length t.children.length).map .node := by
  rw [slots, slots, length_nodes_next, length_attributes_next, List.range_add, List.map_append,
    List.range'_eq_map_range]
  simp only [List.append_assoc]

theorem body_next (h : st.At false k item.slot) : (st.next item t).body = st.body := by
  rw [next]
  generalize item.slot = slot at *
  cases slot with
  | body => cases h.1
  | attr i => rfl
  | node i => rfl

theorem cells_next (h : st.At hasBody k item.slot) : (st.next item t).cells hasBody =
    (st.cells hasBody).modify k (·.put (render st.nodes.length t)) ++ t.childNodes := by
  rw [← cells_put h]
  exact (List.append_assoc _ _ _).symm

end FlattenState

/-- The first item of the queue serves the first cell that is still to be written. -/
theorem Queued.head {hasBody : Bool} {st : FlattenState} {front back : List OtelLogValueNode}
    {trees : List AnyValue} {item : WorkItem} {rest : List WorkItem}
    (h : Queued hasBody st front back trees) (hqueue : st.queue = item :: rest) :
    ∃ c back' t trees', back = c :: back' ∧ trees = t :: trees' ∧ item.source.Denotes t ∧
      FlattenState.At hasBody { st with queue := rest } front.length item.slot ∧
      List.Forall₂ (fun item t => item.source.Denotes t) rest trees' := by
  obtain ⟨written, hslots, hwritten⟩ := h.slots
  rw [hqueue, List.map_cons] at hslots
  have hdenotes := h.denotes
  rw [hqueue] at hdenotes
  obtain ⟨t, trees', ht, hrest, rfl⟩ := List.forall₂_cons_left_iff.mp hdenotes
  have hback : back ≠ [] := by
    intro hnil
    have hlength := FlattenState.length_slots hasBody st
    rw [hslots, h.cells, hnil, List.append_nil, List.length_append, hwritten] at hlength
    simp at hlength
  obtain ⟨c, back', rfl⟩ := List.exists_cons_of_ne_nil hback
  refine ⟨c, back', t, trees', rfl, rfl, ht, FlattenState.at_of_slots ?_, hrest⟩
  show (st.slots hasBody)[front.length]? = some item.slot
  rw [hslots, ← hwritten, List.getElem?_append_right (Nat.le_refl _), Nat.sub_self]
  rfl

/-- What a turn leaves is again a state whose queue serves the cells in order. -/
theorem Queued.next {hasBody : Bool} {st : FlattenState} {front back : List OtelLogValueNode}
    {t c} {trees : List AnyValue} {item : WorkItem} {rest : List WorkItem}
    (h : Queued hasBody st front (c :: back) (t :: trees)) (hqueue : st.queue = item :: rest)
    (hslot : FlattenState.At hasBody { st with queue := rest } front.length item.slot)
    (hfits : item.source.ConvertFits)
    (hroom : st.nodes.length + t.children.length ≤ maxValueNodes) :
    Queued hasBody (FlattenState.next { st with queue := rest } item t)
      (front ++ [c.put (render st.nodes.length t)]) (back ++ t.childNodes)
      (trees ++ t.children) := by
  have hdenotes := h.denotes
  rw [hqueue] at hdenotes
  obtain ⟨ht, hrest⟩ := List.forall₂_cons.mp hdenotes
  have hchildren := ht.children hfits
  constructor
  · have hcells : FlattenState.cells hasBody { st with queue := rest } = front ++ c :: back := h.cells
    rw [FlattenState.cells_next hslot, hcells,
      ← Nat.add_zero front.length, FlattenState.modify_append_right, List.modify_zero_cons]
    simp only [List.append_assoc, List.cons_append, List.nil_append]
  · obtain ⟨written, hslots, hwritten⟩ := h.slots
    refine ⟨written ++ [item.slot], ?_, by rw [List.length_append, List.length_append, hwritten]; rfl⟩
    have hslots' : FlattenState.slots hasBody { st with queue := rest } =
        written ++ item.slot :: rest.map WorkItem.slot := by
      rw [← List.map_cons, ← hqueue]
      exact hslots
    rw [FlattenState.slots_next, hslots', FlattenState.next, List.map_append,
      map_slot_childItems, hchildren.length_eq]
    simp only [List.append_assoc, List.cons_append, List.nil_append]
  · refine List.rel_append hrest ?_
    rw [← map_source_childItems (item.depth + 1) st.nodes.length item.source.children,
      List.forall₂_map_left_iff] at hchildren
    exact hchildren
  · rw [FlattenState.length_nodes_next]
    exact hroom

/-- A run with a queue is one turn and then a run. -/
theorem flattenLoop_cons {hasBody : Bool} {st out : FlattenState} {item : WorkItem}
    {rest : List WorkItem} {k : Nat} {t : AnyValue} (hqueue : st.queue = item :: rest)
    (hdenotes : item.source.Denotes t)
    (hslot : FlattenState.At hasBody { st with queue := rest } k item.slot)
    (hroom : st.nodes.length ≤ maxValueNodes) :
    flattenLoop st = .ok out ↔
      (item.source.ConvertFits ∧ item.source.KeysFit ∧
        (item.source.children ≠ [] → item.depth + 1 ≤ maxValueDepth) ∧
        st.nodes.length + item.source.children.length ≤ maxValueNodes) ∧
      flattenLoop (FlattenState.next { st with queue := rest } item t) = .ok out := by
  rw [flattenLoop]
  split
  · rename_i hnil
    rw [hqueue] at hnil
    cases hnil
  · rename_i item' rest' hqueue'
    obtain ⟨rfl, rfl⟩ := List.cons.inj (hqueue.symm.trans hqueue')
    split
    · rename_i e he
      constructor
      · intro h
        cases h
      · intro h
        have := (flattenStep_ok_iff hdenotes hslot hroom).mpr
          ⟨h.1.1, h.1.2.1, h.1.2.2.1, h.1.2.2.2, rfl⟩
        rw [he] at this
        cases this
    · rename_i st' hst'
      obtain ⟨hfits, hkeys, hdepth, hnodes, rfl⟩ := (flattenStep_ok_iff hdenotes hslot hroom).mp hst'
      exact ⟨fun h => ⟨⟨hfits, hkeys, hdepth, hnodes⟩, h⟩, And.right⟩

theorem flattenLoop_nil {st : FlattenState} (hqueue : st.queue = []) : flattenLoop st = .ok st := by
  rw [flattenLoop]
  split
  · rfl
  · rename_i item rest hcons
    rw [hqueue] at hcons
    cases hcons

theorem sum_size_lt (t : AnyValue) (trees : List AnyValue) :
    ((trees ++ t.children).map AnyValue.size).sum < ((t :: trees).map AnyValue.size).sum := by
  rw [List.map_append, List.sum_append, List.map_cons, List.sum_cons, AnyValue.size_eq t]
  omega

/-- **The cells after a run**: every cell has the value of the tree listed at its place. -/
theorem flattenLoop_ok {hasBody : Bool} {st out : FlattenState} {front back : List OtelLogValueNode}
    {trees : List AnyValue} (h : Queued hasBody st front back trees)
    (hrun : flattenLoop st = .ok out) :
    ∃ order, BreadthFirst AnyValue.children trees order ∧
      out.cells hasBody = front ++
        fill (back ++ order.flatMap AnyValue.childNodes) (renderAll st.nodes.length order) ∧
      out.attributes.length = st.attributes.length ∧ (hasBody = false → out.body = st.body) := by
  induction hn : (trees.map AnyValue.size).sum using Nat.strong_induction_on
    generalizing st front back trees with
  | _ n ih =>
    subst hn
    cases hqueue : st.queue with
    | nil =>
      obtain rfl := Except.ok.inj ((flattenLoop_nil hqueue).symm.trans hrun)
      have htrees := h.denotes
      rw [hqueue, List.forall₂_nil_left_iff] at htrees
      subst htrees
      obtain ⟨written, hslots, hwritten⟩ := h.slots
      have hlength := FlattenState.length_slots hasBody st
      rw [hslots, hqueue, h.cells, List.map_nil, List.append_nil, List.length_append] at hlength
      obtain rfl : back = [] := List.eq_nil_of_length_eq_zero (by omega)
      exact ⟨[], .done, h.cells, rfl, fun _ => rfl⟩
    | cons item rest =>
      obtain ⟨c, back, t, trees, rfl, rfl, ht, hslot, -⟩ := h.head hqueue
      obtain ⟨⟨hfits, hkeys, hdepth, hnodes⟩, hrun⟩ :=
        (flattenLoop_cons hqueue ht hslot h.room).mp hrun
      rw [(ht.children hfits).length_eq] at hnodes
      obtain ⟨order, horder, hcells, hattributes, hbody⟩ :=
        ih _ (sum_size_lt t trees) (h.next hqueue hslot hfits hnodes) hrun rfl
      refine ⟨t :: order, .serve horder, ?_, ?_, ?_⟩
      · rw [hcells, FlattenState.length_nodes_next, renderAll, List.flatMap_cons, fill, fill,
          List.cons_append, List.zipWith_cons_cons]
        simp only [List.append_assoc, List.cons_append, List.nil_append]
      · rw [hattributes, FlattenState.length_attributes_next]
      · intro hno
        subst hno
        rw [hbody rfl, FlattenState.body_next hslot]

/-- A tree that a queued item of this depth may stand for. -/
def Admitted (item : WorkItem) (t : AnyValue) : Prop :=
  t.Fits ∧ item.depth + t.height ≤ maxValueDepth + 1

theorem belowRoots_cons (t : AnyValue) (trees : List AnyValue) :
    belowRoots (t :: trees) = t.children.length + belowRoots (trees ++ t.children) := by
  have hsum := sum_size_eq t.children
  simp only [belowRoots, List.map_append, List.sum_append, List.map_cons, List.sum_cons] at hsum ⊢
  omega

/-- Items of one depth are admitted by the heights of their trees. -/
theorem admitted_all_iff {depth : Nat} {items : List WorkItem} {trees : List AnyValue}
    (hdepth : ∀ item ∈ items, item.depth = depth) (hlength : items.length = trees.length) :
    List.Forall₂ Admitted items trees ↔
      ∀ t ∈ trees, t.Fits ∧ depth + t.height ≤ maxValueDepth + 1 := by
  induction items generalizing trees with
  | nil =>
    obtain rfl : trees = [] := List.eq_nil_of_length_eq_zero hlength.symm
    exact iff_of_true .nil fun _ ht => by cases ht
  | cons item rest ih =>
    cases trees with
    | nil => cases hlength
    | cons t trees =>
      rw [List.forall_mem_cons] at hdepth
      rw [List.forall₂_cons, List.forall_mem_cons, ih hdepth.2 (Nat.succ.inj hlength), Admitted,
        hdepth.1]

theorem admitted_childItems_iff {depth first : Nat} {sources : List Source} {trees : List AnyValue}
    (hlength : sources.length = trees.length) :
    List.Forall₂ Admitted (childItems depth first sources) trees ↔
      ∀ t ∈ trees, t.Fits ∧ depth + t.height ≤ maxValueDepth + 1 := by
  refine admitted_all_iff (fun item => depth_of_mem_childItems) ?_
  rw [← hlength, ← map_source_childItems depth first sources, List.length_map,
    map_source_childItems]

/-- The depths below a tree, one level down. -/
theorem depth_below_iff {depth : Nat} {t : AnyValue} (hdepth : depth ≤ maxValueDepth) :
    depth + t.height ≤ maxValueDepth + 1 ↔
      ∀ child ∈ t.children, depth + 1 + child.height ≤ maxValueDepth + 1 := by
  have hmax : depth + t.height ≤ maxValueDepth + 1 ↔
      Forest.maxOf AnyValue.height t.children ≤ maxValueDepth - depth := by
    rw [AnyValue.height_eq]
    omega
  rw [hmax, Forest.maxOf_le_iff]
  exact forall₂_congr fun child _ => by omega

/-- What a run has to check of a tree, spread over its turns. -/
theorem admitted_iff {item : WorkItem} {t : AnyValue} (ht : item.source.Denotes t) (first : Nat)
    (hdepth : item.depth ≤ maxValueDepth) :
    Admitted item t ↔ (item.source.ConvertFits ∧ item.source.KeysFit ∧
        (item.source.children ≠ [] → item.depth + 1 ≤ maxValueDepth)) ∧
      List.Forall₂ Admitted (childItems (item.depth + 1) first item.source.children) t.children := by
  rw [Admitted, ht.fits_iff, depth_below_iff hdepth]
  constructor
  · intro h
    obtain ⟨⟨hfits, hkeys, hbelow⟩, hdepths⟩ := h
    have hlength := (ht.children hfits).length_eq
    refine ⟨⟨hfits, hkeys, fun hne => ?_⟩, (admitted_childItems_iff hlength).mpr fun child hchild =>
      ⟨hbelow child hchild, hdepths child hchild⟩⟩
    have hpos : t.children ≠ [] := by
      rwa [← List.length_pos_iff, ← hlength, List.length_pos_iff]
    obtain ⟨child, hchild⟩ := List.exists_mem_of_ne_nil _ hpos
    have := hdepths child hchild
    have := child.one_le_height
    omega
  · intro h
    obtain ⟨⟨hfits, hkeys, -⟩, hchildren⟩ := h
    rw [admitted_childItems_iff (ht.children hfits).length_eq] at hchildren
    exact ⟨⟨hfits, hkeys, fun child hchild => (hchildren child hchild).1⟩,
      fun child hchild => (hchildren child hchild).2⟩

theorem forall₂_append_iff {α β : Type} {r : α → β → Prop} {a a' : List α} {b b' : List β}
    (h : a.length = b.length) :
    List.Forall₂ r (a ++ a') (b ++ b') ↔ List.Forall₂ r a b ∧ List.Forall₂ r a' b' := by
  constructor
  · intro hall
    have htake := List.forall₂_take a.length hall
    have hdrop := List.forall₂_drop a.length hall
    rw [List.take_left' rfl, List.take_left' h.symm] at htake
    rw [List.drop_left' rfl, List.drop_left' h.symm] at hdrop
    exact ⟨htake, hdrop⟩
  · intro hall
    exact List.rel_append hall.1 hall.2

/-- **When a run succeeds.** -/
theorem flattenLoop_ok_iff {hasBody : Bool} {st : FlattenState} {front back : List OtelLogValueNode}
    {trees : List AnyValue} (h : Queued hasBody st front back trees)
    (hdepths : ∀ item ∈ st.queue, item.depth ≤ maxValueDepth) :
    (∃ out, flattenLoop st = .ok out) ↔
      List.Forall₂ Admitted st.queue trees ∧ st.nodes.length + belowRoots trees ≤ maxValueNodes := by
  induction hn : (trees.map AnyValue.size).sum using Nat.strong_induction_on
    generalizing st front back trees with
  | _ n ih =>
    subst hn
    cases hqueue : st.queue with
    | nil =>
      have htrees := h.denotes
      rw [hqueue, List.forall₂_nil_left_iff] at htrees
      subst htrees
      exact iff_of_true ⟨st, flattenLoop_nil hqueue⟩ ⟨.nil, h.room⟩
    | cons item rest =>
      obtain ⟨c, back, t, trees, rfl, rfl, ht, hslot, hrest⟩ := h.head hqueue
      rw [hqueue, List.forall_mem_cons] at hdepths
      have hnext : (item.source.children ≠ [] → item.depth + 1 ≤ maxValueDepth) →
          ∀ item' ∈ (FlattenState.next { st with queue := rest } item t).queue,
            item'.depth ≤ maxValueDepth := by
        intro hdepth item' hitem'
        rcases List.mem_append.mp hitem' with hitem' | hitem'
        · exact hdepths.2 item' hitem'
        · rw [depth_of_mem_childItems hitem']
          apply hdepth
          intro hnil
          rw [hnil] at hitem'
          cases hitem'
      rw [List.forall₂_cons, admitted_iff ht st.nodes.length hdepths.1, belowRoots_cons]
      simp only [flattenLoop_cons hqueue ht hslot h.room, exists_and_left]
      constructor
      · intro hrun
        obtain ⟨⟨hfits, hkeys, hdepth, hnodes⟩, hrun⟩ := hrun
        rw [(ht.children hfits).length_eq] at hnodes
        obtain ⟨hadmitted, hbelow⟩ := (ih _ (sum_size_lt t trees)
          (h.next hqueue hslot hfits hnodes) (hnext hdepth) rfl).mp hrun
        obtain ⟨hqueued, hchildren⟩ := (forall₂_append_iff hrest.length_eq).mp hadmitted
        rw [FlattenState.length_nodes_next] at hbelow
        exact ⟨⟨⟨⟨hfits, hkeys, hdepth⟩, hchildren⟩, hqueued⟩, by rwa [← Nat.add_assoc]⟩
      · intro hall
        obtain ⟨⟨⟨⟨hfits, hkeys, hdepth⟩, hchildren⟩, hqueued⟩, hbelow⟩ := hall
        have hlength := (ht.children hfits).length_eq
        have hnodes : st.nodes.length + t.children.length ≤ maxValueNodes := by omega
        refine ⟨⟨hfits, hkeys, hdepth, by rwa [hlength]⟩, (ih _ (sum_size_lt t trees)
          (h.next hqueue hslot hfits hnodes) (hnext hdepth) rfl).mpr
            ⟨(forall₂_append_iff hrest.length_eq).mpr ⟨hqueued, hchildren⟩, ?_⟩⟩
        rwa [FlattenState.length_nodes_next, Nat.add_assoc]

/-! ### Flattening an owner -/

/-- The work items of attributes. -/
def attributeItems : Nat → List (Str × Source) → List WorkItem
  | _, [] => []
  | i, (_, source) :: rest => ⟨.attr i, source, 1⟩ :: attributeItems (i + 1) rest

theorem enqueueAttributes_ok_iff {queue : List WorkItem} {i : Nat} {attributes : List (Str × Source)}
    {out : List OtelLogValueNode × List WorkItem} :
    enqueueAttributes queue i attributes = .ok out ↔
      (∀ a ∈ attributes, a.1.len ≤ maxStringLen) ∧
        out = (attributes.map fun a => ⟨viewOf a.1, emptyValue⟩,
          queue ++ attributeItems i attributes) := by
  induction attributes generalizing queue i out with
  | nil =>
    simp [enqueueAttributes, attributeItems, eq_comm]
  | cons a rest ih =>
    obtain ⟨key, source⟩ := a
    rw [enqueueAttributes, Checked.bind_eq_ok, List.forall_mem_cons, List.map_cons, attributeItems]
    constructor
    · intro h
      obtain ⟨view, hview, h⟩ := h
      obtain ⟨hlen, rfl⟩ := stringView_ok_iff.mp hview
      obtain ⟨queue', hqueue, h⟩ := Checked.bind_eq_ok.mp h
      obtain ⟨-, rfl⟩ := enqueue_ok_iff.mp hqueue
      obtain ⟨out', hout', h⟩ := Checked.bind_eq_ok.mp h
      obtain ⟨hrest, rfl⟩ := ih.mp hout'
      obtain rfl := Except.ok.inj h
      refine ⟨⟨hlen, hrest⟩, ?_⟩
      rw [List.append_assoc]
      rfl
    · intro h
      obtain ⟨⟨hlen, hrest⟩, rfl⟩ := h
      refine ⟨_, stringView_ok_iff.mpr ⟨hlen, rfl⟩, ?_⟩
      rw [enqueue_ok_iff.mpr ⟨show 1 ≤ maxValueDepth by decide, rfl⟩, Checked.ok_bind,
        ih.mpr ⟨hrest, rfl⟩, Checked.ok_bind, List.append_assoc]
      rfl

theorem map_slot_attributeItems (i : Nat) (attributes : List (Str × Source)) :
    (attributeItems i attributes).map WorkItem.slot =
      (List.range' i attributes.length).map Slot.attr := by
  induction attributes generalizing i with
  | nil => rfl
  | cons a rest ih =>
    rw [attributeItems, List.map_cons, ih, List.length_cons, List.range'_succ, List.map_cons]

theorem map_source_attributeItems (i : Nat) (attributes : List (Str × Source)) :
    (attributeItems i attributes).map WorkItem.source = attributes.map Prod.snd := by
  induction attributes generalizing i with
  | nil => rfl
  | cons a rest ih => rw [attributeItems, List.map_cons, ih, List.map_cons]

theorem depth_of_mem_attributeItems {i : Nat} {attributes : List (Str × Source)} {item : WorkItem}
    (h : item ∈ attributeItems i attributes) : item.depth = 1 := by
  induction attributes generalizing i with
  | nil => cases h
  | cons a rest ih =>
    rcases List.mem_cons.mp h with rfl | h
    · rfl
    · exact ih h

/-- The state in which the loop starts. -/
def startState (body : Option AnyValue) (attributes : List (Str × Source)) : FlattenState where
  nodes := []
  queue := (body.toList.map fun v => ⟨.body, .any v, 1⟩) ++ attributeItems 0 attributes
  body := emptyValue
  attributes := attributes.map fun a => ⟨viewOf a.1, emptyValue⟩

theorem depth_of_mem_startState {body : Option AnyValue} {attributes : List (Str × Source)}
    {item : WorkItem} (h : item ∈ (startState body attributes).queue) : item.depth = 1 := by
  rcases List.mem_append.mp h with h | h
  · obtain ⟨v, -, rfl⟩ := List.mem_map.mp h
    rfl
  · exact depth_of_mem_attributeItems h

/-- `flatten` up to its loop. -/
theorem flatten_ok_iff_loop {body : Option AnyValue} {attributes : List (Str × Source)}
    {out : Flattened} :
    flatten body attributes = .ok out ↔ attributes.length ≤ maxAttributes ∧
      (∀ a ∈ attributes, a.1.len ≤ maxStringLen) ∧
      ∃ st, flattenLoop (startState body attributes) = .ok st ∧
        out = ⟨st.body, st.attributes, st.nodes⟩ := by
  have hbody : enqueueBody body = .ok (body.toList.map fun v => ⟨.body, .any v, 1⟩) := by
    cases body with
    | none => rfl
    | some v => exact enqueue_ok_iff.mpr ⟨by decide, rfl⟩
  rw [flatten, fail, Checked.guard_eq_ok, Nat.not_lt, hbody, Checked.ok_bind, Checked.bind_eq_ok]
  refine and_congr_right fun _ => ?_
  constructor
  · intro h
    obtain ⟨queued, hqueued, h⟩ := h
    obtain ⟨hkeys, rfl⟩ := enqueueAttributes_ok_iff.mp hqueued
    obtain ⟨st, hst, h⟩ := Checked.bind_eq_ok.mp h
    exact ⟨hkeys, st, hst, (Except.ok.inj h).symm⟩
  · intro h
    obtain ⟨hkeys, st, hst, rfl⟩ := h
    exact ⟨_, enqueueAttributes_ok_iff.mpr ⟨hkeys, rfl⟩, Checked.bind_eq_ok.mpr ⟨st, hst, rfl⟩⟩

/-- The trees of an owner: its body, if it has one, and its attributes. -/
def ownerTrees (body : Option AnyValue) (trees : List AnyValue) : List AnyValue :=
  body.toList.map AnyValue.sorted ++ trees

/-- The cells of an owner's roots, with the keys of its attributes. -/
def ownerCells (body : Option AnyValue) (keys : List Str) : List OtelLogValueNode :=
  (body.toList.map fun _ => emptyNode) ++ keys.map fun key => ⟨viewOf key, emptyValue⟩

section Owner

variable {body : Option AnyValue} {attributes : List (Str × Source)} {trees : List AnyValue}

theorem startState_queued (h : List.Forall₂ Source.Denotes (attributes.map Prod.snd) trees) :
    Queued body.isSome (startState body attributes) []
      (ownerCells body (attributes.map Prod.fst)) (ownerTrees body trees) := by
  constructor
  · rw [ownerCells, List.map_map]
    show FlattenState.bodyCells body.isSome emptyValue ++ (startState body attributes).attributes ++
      [] = _
    rw [List.append_nil]
    cases body with
    | none => rfl
    | some v => rfl
  · refine ⟨[], ?_, rfl⟩
    have hslots := map_slot_attributeItems 0 attributes
    rw [← List.range_eq_range'] at hslots
    cases body with
    | none =>
      show [] ++ (List.range (attributes.map _).length).map Slot.attr ++ [] =
        [] ++ (attributeItems 0 attributes).map WorkItem.slot
      rw [hslots, List.length_map, List.append_nil]
    | some v =>
      show [Slot.body] ++ (List.range (attributes.map _).length).map Slot.attr ++ [] =
        [] ++ Slot.body :: (attributeItems 0 attributes).map WorkItem.slot
      rw [hslots, List.length_map, List.append_nil]
      rfl
  · refine List.rel_append ?_ ?_
    · rw [List.forall₂_map_left_iff, List.forall₂_map_right_iff, List.forall₂_same]
      exact fun _ _ => rfl
    · rw [← map_source_attributeItems 0, List.forall₂_map_left_iff] at h
      exact h
  · exact Nat.zero_le _

/-- **When an owner can be flattened.** -/
theorem flatten_ok_iff (h : List.Forall₂ Source.Denotes (attributes.map Prod.snd) trees) :
    (∃ out, flatten body attributes = .ok out) ↔ attributes.length ≤ maxAttributes ∧
      (∀ a ∈ attributes, a.1.len ≤ maxStringLen) ∧
      (∀ t ∈ ownerTrees body trees, t.Fits ∧ t.height ≤ maxValueDepth) ∧
      belowRoots (ownerTrees body trees) ≤ maxValueNodes := by
  have hqueued : Queued body.isSome (startState body attributes) [] _ (ownerTrees body trees) :=
    startState_queued h
  have hdepths : ∀ item ∈ (startState body attributes).queue, item.depth ≤ maxValueDepth := by
    intro item hitem
    rw [depth_of_mem_startState hitem]
    decide
  have hrun : (∃ out, flattenLoop (startState body attributes) = .ok out) ↔
      (∀ t ∈ ownerTrees body trees, t.Fits ∧ t.height ≤ maxValueDepth) ∧
        belowRoots (ownerTrees body trees) ≤ maxValueNodes := by
    rw [flattenLoop_ok_iff hqueued hdepths]
    refine and_congr ?_ (by rw [startState, List.length_nil, Nat.zero_add])
    rw [admitted_all_iff (fun item => depth_of_mem_startState) hqueued.denotes.length_eq]
    exact forall₂_congr fun t _ => and_congr_right fun _ => by omega
  constructor
  · intro hok
    obtain ⟨out, hok⟩ := hok
    obtain ⟨hcount, hkeys, st, hst, -⟩ := flatten_ok_iff_loop.mp hok
    exact ⟨hcount, hkeys, hrun.mp ⟨st, hst⟩⟩
  · intro hfits
    obtain ⟨hcount, hkeys, hfits⟩ := hfits
    obtain ⟨st, hst⟩ := hrun.mpr hfits
    exact ⟨_, flatten_ok_iff_loop.mpr ⟨hcount, hkeys, st, hst, rfl⟩⟩

/-- **What a flattened owner consists of.** -/
theorem flatten_ok {out : Flattened} (h : List.Forall₂ Source.Denotes (attributes.map Prod.snd) trees)
    (hok : flatten body attributes = .ok out) :
    ∃ order, BreadthFirst AnyValue.children (ownerTrees body trees) order ∧
      FlattenState.bodyCells body.isSome out.body ++ out.attributes ++ out.nodes =
        fill (ownerCells body (attributes.map Prod.fst) ++ order.flatMap AnyValue.childNodes)
          (renderAll 0 order) ∧
      out.attributes.length = attributes.length ∧ (body = none → out.body = emptyValue) := by
  obtain ⟨-, -, st, hst, rfl⟩ := flatten_ok_iff_loop.mp hok
  obtain ⟨order, horder, hcells, hattributes, hbody⟩ := flattenLoop_ok (startState_queued h) hst
  refine ⟨order, horder, hcells, hattributes.trans (List.length_map _), fun hnone => ?_⟩
  subst hnone
  exact hbody rfl

end Owner

end OtelC.Logs
