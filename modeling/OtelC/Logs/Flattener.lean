import OtelC.Logs.AnyValue

/-!
# Flattening values into a pool

The export side turns owned values into a pool again, breadth first: a queue holds values with the
slots they are written to, and a container reserves a block of new nodes at the end of the pool for
its children.  Any failure fails the whole conversion.
-/

namespace OtelC.Logs

open OtelC.Sdk (Value ArrayValue)

/-! ### Views -/

def emptyView : OtelStringView := .null 0

/-- `string_view`. -/
def stringView (value : Str) : Except Fail OtelStringView :=
  if value.len > maxStringLen then
    fail .exportFailed
      s!"exported log string of {value.len} bytes exceeds the {maxStringLen}-byte limit"
  else .ok (viewOf value)

def optionalStringView : Option Str → Except Fail OtelStringView
  | some value => stringView value
  | none => .ok emptyView

def scalar (valueType : OtelLogValueType) (value : OtelLogValuePayload) : OtelLogValue :=
  ⟨valueType.toU32, 0, value⟩

def emptyValue : OtelLogValue := scalar .empty { stringValue := emptyView }

def emptyNode : OtelLogValueNode := ⟨emptyView, emptyValue⟩

/-! ### Work items -/

/-- Where a converted value is written once it is dequeued. -/
inductive Slot where
  | body
  | attr (index : Nat)
  | node (index : Nat)
  deriving DecidableEq

/-- A borrowed source value. -/
inductive Source where
  | any (value : AnyValue)
  | attr (value : Value)
  | scalar (value : OtelLogValue)

/-- The children of one container, queued after its own slot has been written. -/
inductive ContainerChildren where
  | list (values : List AnyValue)
  | map (entries : List (Str × AnyValue))
  | scalars (values : List OtelLogValue)

/-- An entry of the work queue. -/
structure WorkItem where
  slot : Slot
  source : Source
  depth : Nat

/-! ### Converting one value -/

/-- `u32::MAX`. -/
def u32Max : Nat := 2 ^ 32 - 1

/-- `reserve_children`. -/
def reserveChildren (nodes : List OtelLogValueNode) (count : Nat) :
    Except Fail (OtelLogValueRange × List OtelLogValueNode) :=
  let stop := nodes.length + count
  if nodes.length > u32Max then
    fail .exportFailed "exported log value node index exceeds the 32-bit pool range"
  else if count > u32Max then
    fail .exportFailed "exported log container size exceeds the 32-bit pool range"
  else if stop > usizeMax then
    fail .exportFailed "exported log value node count overflowed the address space"
  else if stop > maxValueNodes then
    fail .exportFailed
      s!"exported log value needs {stop} nodes, above the {maxValueNodes}-node limit"
  else
    .ok (⟨UInt32.ofNat nodes.length, UInt32.ofNat count⟩, nodes ++ List.replicate count emptyNode)

/-- A converted value, the pool with room for its children, and these children. -/
structure Conversion where
  value : OtelLogValue
  nodes : List OtelLogValueNode
  pending : Option (OtelLogValueRange × ContainerChildren)

/-- `convert_any`. -/
def convertAny (nodes : List OtelLogValueNode) : AnyValue → Except Fail Conversion
  | .int n => .ok ⟨scalar .int64 { int64Value := n }, nodes, none⟩
  | .double x => .ok ⟨scalar .double { doubleValue := x }, nodes, none⟩
  | .boolean b => .ok ⟨scalar .bool { boolValue := if b then 1 else 0 }, nodes, none⟩
  | .string s => do
    let view ← stringView s
    .ok ⟨scalar .string { stringValue := view }, nodes, none⟩
  | .bytes data =>
    if data.length > maxBytesLen then
      fail .exportFailed
        s!"exported log byte value of {data.length} bytes exceeds the {maxBytesLen}-byte limit"
    else .ok ⟨scalar .bytes { bytesValue := .elems data }, nodes, none⟩
  | .listAny values =>
    if values.length > maxArrayElements then
      fail .exportFailed s!"exported log array of {values.length} elements exceeds the {
        maxArrayElements}-element limit"
    else do
      let (range, nodes) ← reserveChildren nodes values.length
      .ok ⟨scalar .array { children := range }, nodes, some (range, .list values)⟩
  | .map entries =>
    if entries.length > maxMapEntries then
      fail .exportFailed s!"exported log map of {entries.length} entries exceeds the {
        maxMapEntries}-entry limit"
    else do
      let sorted := sortEntries entries
      let (range, nodes) ← reserveChildren nodes sorted.length
      .ok ⟨scalar .map { children := range }, nodes, some (range, .map sorted)⟩

/-- `convert_attribute_array`. -/
def convertAttributeArray : ArrayValue → Except Fail (List OtelLogValue)
  | .bool values =>
    .ok (values.map fun b => scalar .bool { boolValue := if b then 1 else 0 })
  | .i64 values => .ok (values.map fun n => scalar .int64 { int64Value := n })
  | .f64 values => .ok (values.map fun x => scalar .double { doubleValue := x })
  | .string values => values.mapM fun s => do
    let view ← stringView s
    .ok (scalar .string { stringValue := view })

/-- `convert_attribute_value`. -/
def convertAttributeValue (nodes : List OtelLogValueNode) : Value → Except Fail Conversion
  | .bool b => .ok ⟨scalar .bool { boolValue := if b then 1 else 0 }, nodes, none⟩
  | .i64 n => .ok ⟨scalar .int64 { int64Value := n }, nodes, none⟩
  | .f64 x => .ok ⟨scalar .double { doubleValue := x }, nodes, none⟩
  | .string s => do
    let view ← stringView s
    .ok ⟨scalar .string { stringValue := view }, nodes, none⟩
  | .array values => do
    let elements ← convertAttributeArray values
    if elements.length > maxArrayElements then
      fail .exportFailed s!"exported attribute array of {elements.length} elements exceeds the {
        maxArrayElements}-element limit"
    else do
      let (range, nodes) ← reserveChildren nodes elements.length
      .ok ⟨scalar .array { children := range }, nodes, some (range, .scalars elements)⟩

/-- The conversion of a dequeued source. -/
def convertSource (nodes : List OtelLogValueNode) : Source → Except Fail Conversion
  | .any value => convertAny nodes value
  | .attr value => convertAttributeValue nodes value
  | .scalar value => .ok ⟨value, nodes, none⟩

/-! ### The loop -/

/-- The flattener with the slots it writes outside the pool. -/
structure FlattenState where
  nodes : List OtelLogValueNode
  queue : List WorkItem
  body : OtelLogValue
  attributes : List OtelLogValueNode

/-- `enqueue`. -/
def enqueue (queue : List WorkItem) (slot : Slot) (source : Source) (depth : Nat) :
    Except Fail (List WorkItem) :=
  if depth > maxValueDepth then
    fail .exportFailed s!"exported log value nesting exceeds the {maxValueDepth}-level limit"
  else .ok (queue ++ [⟨slot, source, depth⟩])

/-- Queue sources for consecutive nodes. -/
def enqueueAll (queue : List WorkItem) (depth : Nat) : Nat → List Source →
    Except Fail (List WorkItem)
  | _, [] => .ok queue
  | i, source :: rest => do
    let queue ← enqueue queue (.node i) source depth
    enqueueAll queue depth (i + 1) rest

/-- `nodes[i].key = key`, which panics past the end. -/
def setKey (nodes : List OtelLogValueNode) (i : Nat) (key : OtelStringView) :
    Except Fail (List OtelLogValueNode) := do
  let node ← index nodes i
  .ok (nodes.set i { node with key := key })

/-- Write the keys of a map to consecutive nodes and queue its values for them. -/
def enqueueEntries (nodes : List OtelLogValueNode) (queue : List WorkItem) (depth : Nat) :
    Nat → List (Str × AnyValue) → Except Fail (List OtelLogValueNode × List WorkItem)
  | _, [] => .ok (nodes, queue)
  | i, (key, value) :: rest => do
    let view ← stringView key
    let nodes ← setKey nodes i view
    let queue ← enqueue queue (.node i) (.any value) depth
    enqueueEntries nodes queue depth (i + 1) rest

/-- Queue the children of a container at this depth. -/
def enqueueChildren (st : FlattenState) (depth : Nat) :
    Option (OtelLogValueRange × ContainerChildren) → Except Fail FlattenState
  | none => .ok st
  | some (range, .list values) => do
    let queue ← enqueueAll st.queue (depth + 1) range.first.toNat (values.map .any)
    .ok { st with queue := queue }
  | some (range, .map entries) => do
    let (nodes, queue) ← enqueueEntries st.nodes st.queue (depth + 1) range.first.toNat entries
    .ok { st with nodes := nodes, queue := queue }
  | some (range, .scalars values) => do
    let queue ← enqueueAll st.queue (depth + 1) range.first.toNat (values.map .scalar)
    .ok { st with queue := queue }

/-- Write a value to its slot; an index past the end panics. -/
def writeSlot (st : FlattenState) (value : OtelLogValue) : Slot → Except Fail FlattenState
  | .body => .ok { st with body := value }
  | .attr i => do
    let node ← index st.attributes i
    .ok { st with attributes := st.attributes.set i { node with value := value } }
  | .node i => do
    let node ← index st.nodes i
    .ok { st with nodes := st.nodes.set i { node with value := value } }

/-- One turn of the loop of `flatten`, for the item taken from the queue. -/
def flattenStep (st : FlattenState) (item : WorkItem) : Except Fail FlattenState := do
  let conversion ← convertSource st.nodes item.source
  let st ← writeSlot { st with nodes := conversion.nodes } conversion.value item.slot
  enqueueChildren st item.depth conversion.pending

/-! ### What a source contributes -/

/-- The value written for a tree whose children start at an index. -/
def render (first : Nat) : AnyValue → OtelLogValue
  | .int n => scalar .int64 { int64Value := n }
  | .double x => scalar .double { doubleValue := x }
  | .boolean b => scalar .bool { boolValue := if b then 1 else 0 }
  | .string s => scalar .string { stringValue := viewOf s }
  | .bytes data => scalar .bytes { bytesValue := .elems data }
  | .listAny values =>
    scalar .array { children := ⟨UInt32.ofNat first, UInt32.ofNat values.length⟩ }
  | .map entries => scalar .map { children := ⟨UInt32.ofNat first, UInt32.ofNat entries.length⟩ }

/-- The children as sources, in the order in which they are queued. -/
def ContainerChildren.sources : ContainerChildren → List Source
  | .list values => values.map .any
  | .map entries => entries.map fun entry => .any entry.2
  | .scalars values => values.map .scalar

/-- The nodes reserved for the children, with their keys. -/
def ContainerChildren.nodes : ContainerChildren → List OtelLogValueNode
  | .list values => List.replicate values.length emptyNode
  | .map entries => entries.map fun entry => ⟨viewOf entry.1, emptyValue⟩
  | .scalars values => List.replicate values.length emptyNode

/-- The limits on the keys that are written when the children are queued. -/
def ContainerChildren.KeysFit : ContainerChildren → Prop
  | .map entries => ∀ entry ∈ entries, entry.1.len ≤ maxStringLen
  | _ => True

namespace Source

/-- The children a source is expanded to. -/
def pending : Source → Option ContainerChildren
  | .any (.listAny values) => some (.list values)
  | .any (.map entries) => some (.map (sortEntries entries))
  | .attr (.array values) => some (.scalars ((arrayElements values).map (Logs.render 0)))
  | _ => none

def children (source : Source) : List Source :=
  match source.pending with
  | some children => children.sources
  | none => []

def childNodes (source : Source) : List OtelLogValueNode :=
  match source.pending with
  | some children => children.nodes
  | none => []

/-- The value written for a source whose children start at an index. -/
def render (first : Nat) : Source → OtelLogValue
  | .any v => Logs.render first v
  | .attr v => Logs.render first (attributeTree v)
  | .scalar value => value

/-- The limits checked when a source is converted; the keys of a map are checked when its children
are queued. -/
def ConvertFits : Source → Prop
  | .any (.map entries) => entries.length ≤ maxMapEntries
  | .any v => v.PayloadFits
  | .attr (.array values) =>
    (∀ element ∈ arrayElements values, element.PayloadFits) ∧
      (arrayElements values).length ≤ maxArrayElements
  | .attr v => (attributeTree v).PayloadFits
  | .scalar _ => True

/-- The limits on the keys of the children. -/
def KeysFit (source : Source) : Prop :=
  ∀ children ∈ source.pending, children.KeysFit

/-- The pool has room for the children of a source. -/
def Room (source : Source) (n : Nat) : Prop :=
  source.pending = none ∨ n + source.children.length ≤ maxValueNodes

/-- The number of values below and at a source. -/
def size : Source → Nat
  | .any v => v.size
  | .attr v => (attributeTree v).size
  | .scalar _ => 1

end Source

/-- The elements of an array attribute have no children of their own. -/
theorem arrayElement_spec {values : ArrayValue} {element : AnyValue}
    (h : element ∈ arrayElements values) :
    element.children = [] ∧ ∀ first, render 0 element = render first element := by
  cases values with
  | bool values =>
    obtain ⟨b, -, rfl⟩ := List.mem_map.mp h
    exact ⟨rfl, fun _ => rfl⟩
  | i64 values =>
    obtain ⟨n, -, rfl⟩ := List.mem_map.mp h
    exact ⟨rfl, fun _ => rfl⟩
  | f64 values =>
    obtain ⟨x, -, rfl⟩ := List.mem_map.mp h
    exact ⟨rfl, fun _ => rfl⟩
  | string values =>
    obtain ⟨s, -, rfl⟩ := List.mem_map.mp h
    exact ⟨rfl, fun _ => rfl⟩

theorem size_of_children_nil {v : AnyValue} (h : v.children = []) : v.size = 1 := by
  rw [AnyValue.size_eq, h]
  rfl

namespace Source

theorem size_any (v : AnyValue) :
    ((Source.any v).children.map size).sum = (v.children.map AnyValue.size).sum := by
  cases v with
  | listAny values =>
    show ((values.map Source.any).map size).sum = (values.map AnyValue.size).sum
    rw [List.map_map]
    rfl
  | map entries =>
    show (((sortEntries entries).map fun entry => Source.any entry.2).map size).sum =
      ((entries.map Prod.snd).map AnyValue.size).sum
    rw [List.map_map, List.map_map]
    exact ((sortEntries_perm entries).map fun entry => entry.2.size).sum_nat
  | int n => rfl
  | double x => rfl
  | string s => rfl
  | boolean b => rfl
  | bytes data => rfl

theorem size_attr (v : Value) :
    ((Source.attr v).children.map size).sum =
      ((attributeTree v).children.map AnyValue.size).sum := by
  cases v with
  | array values =>
    show ((((arrayElements values).map (Logs.render 0)).map Source.scalar).map size).sum =
      ((arrayElements values).map AnyValue.size).sum
    rw [List.map_map, List.map_map]
    refine congrArg List.sum (List.map_congr_left fun element helement => ?_)
    exact (size_of_children_nil (arrayElement_spec helement).1).symm
  | bool b => rfl
  | i64 n => rfl
  | f64 x => rfl
  | string s => rfl

theorem size_eq (source : Source) : source.size = (source.children.map size).sum + 1 := by
  cases source with
  | any v => rw [size_any, size, AnyValue.size_eq]
  | attr v => rw [size_attr, size, AnyValue.size_eq]
  | scalar value => rfl

end Source

/-! ### The conversion of one source -/

theorem stringView_ok_iff {s : Str} {view : OtelStringView} :
    stringView s = .ok view ↔ s.len ≤ maxStringLen ∧ view = viewOf s := by
  rw [stringView, fail, Checked.guard_eq_ok, Nat.not_lt, Except.ok.injEq, eq_comm (a := view)]

theorem reserveChildren_ok_iff {nodes : List OtelLogValueNode} {count : Nat}
    {out : OtelLogValueRange × List OtelLogValueNode} :
    reserveChildren nodes count = .ok out ↔ nodes.length + count ≤ maxValueNodes ∧
      out = (⟨UInt32.ofNat nodes.length, UInt32.ofNat count⟩,
        nodes ++ List.replicate count emptyNode) := by
  have hu32 : u32Max = 4294967295 := rfl
  have husize : usizeMax = 18446744073709551615 := rfl
  have hnodes : maxValueNodes = 1024 := rfl
  unfold reserveChildren
  simp only [fail]
  rw [Checked.guard_eq_ok, Checked.guard_eq_ok, Checked.guard_eq_ok, Checked.guard_eq_ok,
    Except.ok.injEq, eq_comm (a := out)]
  constructor
  · rintro ⟨-, -, -, hstop, h⟩
    exact ⟨Nat.le_of_not_gt hstop, h⟩
  · rintro ⟨hstop, h⟩
    exact ⟨by omega, by omega, by omega, by omega, h⟩

theorem convertAttributeArray_ok_iff {values : ArrayValue} {elements : List OtelLogValue} :
    convertAttributeArray values = .ok elements ↔
      (∀ element ∈ arrayElements values, element.PayloadFits) ∧
        elements = (arrayElements values).map (render 0) := by
  -- only a string can be over a limit
  have hfits : ∀ {α : Type} (f : α → AnyValue) (l : List α), (∀ a, (f a).PayloadFits) →
      ∀ element ∈ l.map f, element.PayloadFits := by
    intro α f l h element helement
    obtain ⟨a, -, rfl⟩ := List.mem_map.mp helement
    exact h a
  cases values with
  | bool values =>
    simp only [convertAttributeArray, arrayElements, List.map_map, Except.ok.injEq,
      iff_true_intro (hfits AnyValue.boolean values fun _ => trivial), true_and]
    exact eq_comm
  | i64 values =>
    simp only [convertAttributeArray, arrayElements, List.map_map, Except.ok.injEq,
      iff_true_intro (hfits AnyValue.int values fun _ => trivial), true_and]
    exact eq_comm
  | f64 values =>
    simp only [convertAttributeArray, arrayElements, List.map_map, Except.ok.injEq,
      iff_true_intro (hfits AnyValue.double values fun _ => trivial), true_and]
    exact eq_comm
  | string values =>
    rw [convertAttributeArray, arrayElements, List.forall_mem_map, List.map_map]
    apply Checked.mapM_checked
    intro s value
    simp only [Checked.bind_eq_ok, stringView_ok_iff, Except.ok.injEq]
    constructor
    · rintro ⟨view, ⟨hlen, rfl⟩, rfl⟩
      exact ⟨hlen, rfl⟩
    · rintro ⟨hlen, rfl⟩
      exact ⟨_, ⟨hlen, rfl⟩, rfl⟩

/-- The conversion of a source that passes its checks. -/
def Source.conversion (source : Source) (nodes : List OtelLogValueNode) : Conversion :=
  ⟨source.render nodes.length, nodes ++ List.replicate source.children.length emptyNode,
    source.pending.map fun children =>
      (⟨UInt32.ofNat nodes.length, UInt32.ofNat source.children.length⟩, children)⟩

theorem conversion_of_leaf {source : Source} {nodes : List OtelLogValueNode}
    (h : source.pending = none) :
    source.conversion nodes = ⟨source.render nodes.length, nodes, none⟩ := by
  rw [Source.conversion, Source.children, h]
  simp

section Convert

variable {nodes : List OtelLogValueNode} {c : Conversion}

/-- A value that needs no room. -/
theorem convert_leaf_iff (source : Source) (h : source.pending = none) :
    .ok ⟨source.render nodes.length, nodes, none⟩ = (.ok c : Except Fail Conversion) ↔
      source.Room nodes.length ∧ c = source.conversion nodes := by
  rw [Except.ok.injEq, conversion_of_leaf h, Source.Room, h]
  constructor
  · intro hc
    exact ⟨.inl rfl, hc.symm⟩
  · intro hc
    exact hc.2.symm

/-- A value that needs no check and no room. -/
theorem convert_plain_iff (source : Source) (h : source.pending = none) (hfits : source.ConvertFits) :
    .ok ⟨source.render nodes.length, nodes, none⟩ = (.ok c : Except Fail Conversion) ↔
      source.ConvertFits ∧ source.Room nodes.length ∧ c = source.conversion nodes := by
  rw [convert_leaf_iff source h]
  exact ⟨fun hc => ⟨hfits, hc⟩, And.right⟩

theorem ContainerChildren.length_sources_list (values : List AnyValue) :
    (ContainerChildren.list values).sources.length = values.length :=
  List.length_map _

theorem ContainerChildren.length_sources_map (entries : List (Str × AnyValue)) :
    (ContainerChildren.map entries).sources.length = entries.length :=
  List.length_map _

theorem ContainerChildren.length_sources_scalars (values : List OtelLogValue) :
    (ContainerChildren.scalars values).sources.length = values.length :=
  List.length_map _

/-- A container within its own limit. -/
theorem convert_container_iff (source : Source) (tag : OtelLogValueType)
    {children : ContainerChildren} {n : Nat} (h : source.pending = some children)
    (hn : children.sources.length = n)
    (hrender : source.render nodes.length =
      scalar tag { children := ⟨UInt32.ofNat nodes.length, UInt32.ofNat n⟩ }) :
    (do
      let (range, nodes) ← reserveChildren nodes n
      (.ok ⟨scalar tag { children := range }, nodes, some (range, children)⟩ :
        Except Fail Conversion)) = .ok c ↔
      source.Room nodes.length ∧ c = source.conversion nodes := by
  have hchildren : source.children.length = n := by
    rw [Source.children, h]
    exact hn
  rw [Checked.bind_eq_ok, Source.Room, Source.conversion, hchildren, h, hrender]
  constructor
  · intro hrun
    obtain ⟨out, hout, hrun⟩ := hrun
    obtain ⟨hroom, rfl⟩ := reserveChildren_ok_iff.mp hout
    exact ⟨.inr hroom, (Except.ok.inj hrun).symm⟩
  · intro hrun
    obtain ⟨hroom, rfl⟩ := hrun
    have hroom : nodes.length + n ≤ maxValueNodes := by
      cases hroom with
      | inl hnone => simp at hnone
      | inr hroom => exact hroom
    exact ⟨_, reserveChildren_ok_iff.mpr ⟨hroom, rfl⟩, rfl⟩

theorem convertAny_ok_iff {v : AnyValue} :
    convertAny nodes v = .ok c ↔ (Source.any v).ConvertFits ∧ (Source.any v).Room nodes.length ∧
      c = (Source.any v).conversion nodes := by
  cases v with
  | int n => exact convert_plain_iff (.any (.int n)) rfl trivial
  | double x => exact convert_plain_iff (.any (.double x)) rfl trivial
  | boolean b => exact convert_plain_iff (.any (.boolean b)) rfl trivial
  | string s =>
    rw [convertAny, Checked.bind_eq_ok, ← convert_leaf_iff (.any (.string s)) rfl]
    simp only [stringView_ok_iff]
    constructor
    · intro h
      obtain ⟨view, ⟨hlen, rfl⟩, h⟩ := h
      exact ⟨hlen, h⟩
    · intro h
      exact ⟨_, ⟨h.1, rfl⟩, h.2⟩
  | bytes data =>
    rw [convertAny, fail, Checked.guard_eq_ok, Nat.not_lt, ← convert_leaf_iff (.any (.bytes data)) rfl]
    exact Iff.rfl
  | listAny values =>
    rw [convertAny, fail, Checked.guard_eq_ok, Nat.not_lt]
    exact and_congr_right fun _ =>
      convert_container_iff (.any (.listAny values)) .array rfl
        (ContainerChildren.length_sources_list _) rfl
  | map entries =>
    rw [convertAny, fail, Checked.guard_eq_ok, Nat.not_lt]
    refine and_congr_right fun _ =>
      convert_container_iff (.any (.map entries)) .map rfl
        (ContainerChildren.length_sources_map _) ?_
    rw [length_sortEntries]
    rfl

theorem convertAttributeValue_ok_iff {v : Value} :
    convertAttributeValue nodes v = .ok c ↔ (Source.attr v).ConvertFits ∧
      (Source.attr v).Room nodes.length ∧ c = (Source.attr v).conversion nodes := by
  cases v with
  | bool b => exact convert_plain_iff (.attr (.bool b)) rfl trivial
  | i64 n => exact convert_plain_iff (.attr (.i64 n)) rfl trivial
  | f64 x => exact convert_plain_iff (.attr (.f64 x)) rfl trivial
  | string s =>
    rw [convertAttributeValue, Checked.bind_eq_ok, ← convert_leaf_iff (.attr (.string s)) rfl]
    simp only [stringView_ok_iff]
    constructor
    · intro h
      obtain ⟨view, ⟨hlen, rfl⟩, h⟩ := h
      exact ⟨hlen, h⟩
    · intro h
      exact ⟨_, ⟨h.1, rfl⟩, h.2⟩
  | array values =>
    have hlength : ((arrayElements values).map (render 0)).length = (arrayElements values).length :=
      List.length_map _
    rw [convertAttributeValue, Checked.bind_eq_ok, Source.ConvertFits, and_assoc]
    constructor
    · intro h
      obtain ⟨elements, helements, h⟩ := h
      obtain ⟨hfits, rfl⟩ := convertAttributeArray_ok_iff.mp helements
      obtain ⟨hmax, h⟩ := Checked.guard_eq_ok.mp h
      rw [hlength, Nat.not_lt] at hmax
      exact ⟨hfits, hmax, (convert_container_iff (.attr (.array values)) .array rfl
        (ContainerChildren.length_sources_scalars _) (by rw [hlength]; rfl)).mp h⟩
    · intro h
      obtain ⟨hfits, hmax, h⟩ := h
      refine ⟨_, convertAttributeArray_ok_iff.mpr ⟨hfits, rfl⟩, Checked.guard_eq_ok.mpr ⟨?_, ?_⟩⟩
      · rw [hlength]
        exact Nat.not_lt.mpr hmax
      · exact (convert_container_iff (.attr (.array values)) .array rfl
          (ContainerChildren.length_sources_scalars _) (by rw [hlength]; rfl)).mpr h

/-- **The conversion of a dequeued source.** -/
theorem convertSource_ok_iff {source : Source} :
    convertSource nodes source = .ok c ↔
      source.ConvertFits ∧ source.Room nodes.length ∧ c = source.conversion nodes := by
  cases source with
  | any v => exact convertAny_ok_iff
  | attr v => exact convertAttributeValue_ok_iff
  | scalar value => exact convert_plain_iff (.scalar value) rfl trivial

end Convert

/-! ### Queueing the children -/

/-- The work items of sources for consecutive nodes. -/
def childItems (depth : Nat) : Nat → List Source → List WorkItem
  | _, [] => []
  | i, source :: rest => ⟨.node i, source, depth⟩ :: childItems depth (i + 1) rest

theorem map_source_childItems (depth i : Nat) (sources : List Source) :
    (childItems depth i sources).map WorkItem.source = sources := by
  induction sources generalizing i with
  | nil => rfl
  | cons source rest ih => rw [childItems, List.map_cons, ih]

theorem map_slot_childItems (depth i : Nat) (sources : List Source) :
    (childItems depth i sources).map WorkItem.slot =
      (List.range' i sources.length).map Slot.node := by
  induction sources generalizing i with
  | nil => rfl
  | cons source rest ih =>
    rw [childItems, List.map_cons, ih, List.length_cons, List.range'_succ, List.map_cons]

theorem depth_of_mem_childItems {depth i : Nat} {sources : List Source} {item : WorkItem}
    (h : item ∈ childItems depth i sources) : item.depth = depth := by
  induction sources generalizing i with
  | nil => simp [childItems] at h
  | cons source rest ih =>
    rw [childItems] at h
    rcases List.mem_cons.mp h with rfl | h
    · rfl
    · exact ih h

theorem enqueue_ok_iff {queue out : List WorkItem} {slot : Slot} {source : Source} {depth : Nat} :
    enqueue queue slot source depth = .ok out ↔
      depth ≤ maxValueDepth ∧ out = queue ++ [⟨slot, source, depth⟩] := by
  rw [enqueue, fail, Checked.guard_eq_ok, Nat.not_lt, Except.ok.injEq, eq_comm (a := out)]

theorem enqueueAll_ok_iff {queue out : List WorkItem} {depth i : Nat} {sources : List Source} :
    enqueueAll queue depth i sources = .ok out ↔
      (sources ≠ [] → depth ≤ maxValueDepth) ∧ out = queue ++ childItems depth i sources := by
  induction sources generalizing queue i with
  | nil =>
    rw [enqueueAll, Except.ok.injEq, childItems, List.append_nil, eq_comm (a := out)]
    exact ⟨fun h => ⟨fun hne => absurd rfl hne, h⟩, And.right⟩
  | cons source rest ih =>
    rw [enqueueAll, Checked.bind_eq_ok]
    constructor
    · intro h
      obtain ⟨queue', hqueue, h⟩ := h
      obtain ⟨hdepth, rfl⟩ := enqueue_ok_iff.mp hqueue
      obtain ⟨-, rfl⟩ := ih.mp h
      exact ⟨fun _ => hdepth, by rw [childItems, List.append_assoc, List.singleton_append]⟩
    · intro h
      obtain ⟨hdepth, rfl⟩ := h
      have hdepth := hdepth (List.cons_ne_nil source rest)
      refine ⟨_, enqueue_ok_iff.mpr ⟨hdepth, rfl⟩, ih.mpr ⟨fun _ => hdepth, ?_⟩⟩
      rw [childItems, List.append_assoc, List.singleton_append]

theorem enqueueEntries_queue {nodes : List OtelLogValueNode} {queue : List WorkItem} {depth i : Nat}
    {entries : List (Str × AnyValue)} {out : List OtelLogValueNode × List WorkItem}
    (h : enqueueEntries nodes queue depth i entries = .ok out) :
    out.2 = queue ++ childItems depth i (entries.map fun entry => .any entry.2) := by
  induction entries generalizing nodes queue i with
  | nil =>
    obtain rfl := Except.ok.inj h
    exact (List.append_nil _).symm
  | cons entry rest ih =>
    rw [enqueueEntries] at h
    obtain ⟨view, -, h⟩ := Checked.bind_eq_ok.mp h
    obtain ⟨nodes', -, h⟩ := Checked.bind_eq_ok.mp h
    obtain ⟨queue', hqueue, h⟩ := Checked.bind_eq_ok.mp h
    obtain ⟨-, rfl⟩ := enqueue_ok_iff.mp hqueue
    rw [ih h, List.append_assoc, List.singleton_append, List.map_cons, childItems]

theorem writeSlot_queue {st st' : FlattenState} {value : OtelLogValue} {slot : Slot}
    (h : writeSlot st value slot = .ok st') : st'.queue = st.queue := by
  cases slot with
  | body =>
    obtain rfl := Except.ok.inj h
    rfl
  | attr i =>
    obtain ⟨node, -, h⟩ := Checked.bind_eq_ok.mp h
    obtain rfl := Except.ok.inj h
    rfl
  | node i =>
    obtain ⟨node, -, h⟩ := Checked.bind_eq_ok.mp h
    obtain rfl := Except.ok.inj h
    rfl

theorem enqueueChildren_queue {st st' : FlattenState} {depth : Nat}
    {pending : Option (OtelLogValueRange × ContainerChildren)}
    (h : enqueueChildren st depth pending = .ok st') :
    st'.queue.map WorkItem.source = st.queue.map WorkItem.source ++
      (pending.map fun p => p.2.sources).getD [] := by
  cases pending with
  | none =>
    obtain rfl := Except.ok.inj h
    exact (List.append_nil _).symm
  | some p =>
    obtain ⟨range, children⟩ := p
    cases children with
    | list values =>
      obtain ⟨queue, hqueue, h⟩ := Checked.bind_eq_ok.mp h
      obtain rfl := Except.ok.inj h
      obtain ⟨-, rfl⟩ := enqueueAll_ok_iff.mp hqueue
      rw [List.map_append, map_source_childItems]
      rfl
    | map entries =>
      obtain ⟨out, hout, h⟩ := Checked.bind_eq_ok.mp h
      obtain rfl := Except.ok.inj h
      show out.2.map WorkItem.source = _
      rw [enqueueEntries_queue hout, List.map_append, map_source_childItems]
      rfl
    | scalars values =>
      obtain ⟨queue, hqueue, h⟩ := Checked.bind_eq_ok.mp h
      obtain rfl := Except.ok.inj h
      obtain ⟨-, rfl⟩ := enqueueAll_ok_iff.mp hqueue
      rw [List.map_append, map_source_childItems]
      rfl

/-- One turn queues the children of the item served. -/
theorem flattenStep_queue {st st' : FlattenState} {item : WorkItem}
    (h : flattenStep st item = .ok st') :
    st'.queue.map WorkItem.source = st.queue.map WorkItem.source ++ item.source.children := by
  obtain ⟨c, hc, h⟩ := Checked.bind_eq_ok.mp h
  obtain ⟨st₁, hwrite, h⟩ := Checked.bind_eq_ok.mp h
  obtain ⟨-, -, rfl⟩ := convertSource_ok_iff.mp hc
  rw [enqueueChildren_queue h, writeSlot_queue hwrite]
  refine congrArg (List.map WorkItem.source st.queue ++ ·) ?_
  rw [Source.conversion, Source.children]
  cases item.source.pending <;> rfl

/-! ### The loop -/

/-- The number of values still to be served. -/
def FlattenState.work (st : FlattenState) : Nat :=
  ((st.queue.map WorkItem.source).map Source.size).sum

theorem work_flattenStep {st st' : FlattenState} {item : WorkItem} {rest : List WorkItem}
    (hqueue : st.queue = item :: rest) (h : flattenStep { st with queue := rest } item = .ok st') :
    st'.work < st.work := by
  rw [FlattenState.work, flattenStep_queue h, FlattenState.work, hqueue, List.map_append,
    List.sum_append, List.map_cons, List.map_cons, List.sum_cons, Source.size_eq item.source]
  dsimp only
  omega

/-- The loop of `flatten`: serve the queue until it is empty. -/
def flattenLoop (st : FlattenState) : Except Fail FlattenState :=
  match hqueue : st.queue with
  | [] => .ok st
  | item :: rest =>
    match hstep : flattenStep { st with queue := rest } item with
    | .error e => .error e
    | .ok st' =>
      have := work_flattenStep hqueue hstep
      flattenLoop st'
termination_by st.work

/-- A flattened owner. -/
structure Flattened where
  body : OtelLogValue
  attributes : List OtelLogValueNode
  nodes : List OtelLogValueNode

/-- Queue the body, if there is one. -/
def enqueueBody : Option AnyValue → Except Fail (List WorkItem)
  | some body => enqueue [] .body (.any body) 1
  | none => .ok []

/-- Check the keys of the attributes and queue their values. -/
def enqueueAttributes (queue : List WorkItem) : Nat → List (Str × Source) →
    Except Fail (List OtelLogValueNode × List WorkItem)
  | _, [] => .ok ([], queue)
  | i, (key, source) :: rest => do
    let view ← stringView key
    let queue ← enqueue queue (.attr i) source 1
    let (nodes, queue) ← enqueueAttributes queue (i + 1) rest
    .ok (⟨view, emptyValue⟩ :: nodes, queue)

/-- `flatten`. -/
def flatten (body : Option AnyValue) (attributes : List (Str × Source)) : Except Fail Flattened :=
  if attributes.length > maxAttributes then
    fail .exportFailed s!"exported log owner carries {attributes.length} attributes, above the {
      maxAttributes}-attribute limit"
  else do
    let queue ← enqueueBody body
    let (nodes, queue) ← enqueueAttributes queue 0 attributes
    let st ← flattenLoop ⟨[], queue, emptyValue, nodes⟩
    .ok ⟨st.body, st.attributes, st.nodes⟩

end OtelC.Logs
