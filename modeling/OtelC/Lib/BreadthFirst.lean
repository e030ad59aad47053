import Mathlib.Algebra.GroupWithZero.Nat
import Mathlib.Data.List.Basic

/-!
# Breadth-first listings

Trees are walked breadth first when a queue of them is served from the front and the children of the
served tree join it at the back.  The walk lists every tree in the order in which it was queued, so
the children of each stand in one block behind everything queued before.

* `BreadthFirst.eq_append`: the listing is the queue and then the children of the listed.
* `BreadthFirst.lt_offset`: the block of children lies behind their parent.
* `BreadthFirst.getElem?_child`: where the children of a listed tree stand.
* `BreadthFirst.length_eq`: the length of the listing is the number of trees below the queue.
-/

variable {α : Type}

/-- Serving this queue breadth first lists these trees. -/
inductive BreadthFirst (children : α → List α) : List α → List α → Prop
  | done : BreadthFirst children [] []
  | serve {a : α} {queue order : List α} (rest : BreadthFirst children (queue ++ children a) order) :
      BreadthFirst children (a :: queue) (a :: order)

namespace BreadthFirst

variable {children : α → List α} {queue order : List α}

theorem eq_append (h : BreadthFirst children queue order) :
    order = queue ++ order.flatMap children := by
  induction h with
  | done => rfl
  | @serve a queue order rest ih =>
    calc a :: order = a :: (queue ++ children a ++ order.flatMap children) :=
          congrArg (List.cons a) ih
      _ = a :: queue ++ (a :: order).flatMap children := by
          rw [List.flatMap_cons, List.cons_append, List.append_assoc]

/-- The number of children of the trees listed before a place. -/
def offset (children : α → List α) (order : List α) (k : Nat) : Nat :=
  ((order.take k).flatMap children).length

@[simp] theorem offset_zero : offset children order 0 = 0 := rfl

@[simp] theorem offset_cons_succ (a : α) (k : Nat) :
    offset children (a :: order) (k + 1) = (children a).length + offset children order k := by
  rw [offset, List.take_succ_cons, List.flatMap_cons, List.length_append, offset]

/-- Every listed tree was queued before its children. -/
theorem lt_offset (h : BreadthFirst children queue order) {k : Nat} (hk : k < order.length) :
    k < queue.length + offset children order k := by
  induction h generalizing k with
  | done => simp at hk
  | @serve a queue order rest ih =>
    cases k with
    | zero => simp
    | succ k =>
      have := ih (Nat.lt_of_succ_lt_succ hk)
      rw [List.length_append] at this
      rw [offset_cons_succ, List.length_cons]
      omega

/-- What is listed for the children of the tree at a place, where every tree lists one entry for each
child. -/
theorem getElem?_flatMap {β : Type} {f : α → List β}
    (hlength : ∀ a, (f a).length = (children a).length) {k i : Nat} {a : α}
    (ha : order[k]? = some a) (hi : i < (children a).length) :
    (order.flatMap f)[offset children order k + i]? = (f a)[i]? := by
  obtain ⟨hk, rfl⟩ := List.getElem?_eq_some_iff.mp ha
  have hoffset : offset children order k = ((order.take k).flatMap f).length := by
    rw [offset, List.length_flatMap, List.length_flatMap]
    simp only [hlength]
  have hsplit : order.flatMap f =
      (order.take k).flatMap f ++ (f order[k] ++ (order.drop (k + 1)).flatMap f) := by
    rw [← List.flatMap_cons, ← List.drop_eq_getElem_cons hk, ← List.flatMap_append,
      List.take_append_drop]
  rw [hsplit, hoffset, List.getElem?_append_right (Nat.le_add_right _ _), Nat.add_sub_cancel_left,
    List.getElem?_append_left (by rwa [hlength])]

/-- The block of children of the tree listed at a place. -/
theorem getElem?_child (h : BreadthFirst children queue order) {k i : Nat} {a : α}
    (ha : order[k]? = some a) (hi : i < (children a).length) :
    order[queue.length + (offset children order k + i)]? = (children a)[i]? := by
  calc order[queue.length + (offset children order k + i)]?
      = (queue ++ order.flatMap children)[queue.length + (offset children order k + i)]? :=
        congrArg (fun l : List α => l[_]?) h.eq_append
    _ = (order.flatMap children)[offset children order k + i]? := by
        rw [List.getElem?_append_right (Nat.le_add_right _ _), Nat.add_sub_cancel_left]
    _ = (children a)[i]? := getElem?_flatMap (fun _ => rfl) ha hi

/-- The blocks of children fit into the list of all children. -/
theorem offset_add_le {k : Nat} {a : α} (ha : order[k]? = some a) :
    offset children order k + (children a).length ≤ (order.flatMap children).length := by
  obtain ⟨hk, rfl⟩ := List.getElem?_eq_some_iff.mp ha
  have hsplit : order.flatMap children = (order.take k).flatMap children ++
      (children order[k] ++ (order.drop (k + 1)).flatMap children) := by
    rw [← List.flatMap_cons, ← List.drop_eq_getElem_cons hk, ← List.flatMap_append,
      List.take_append_drop]
  rw [hsplit, List.length_append, List.length_append, offset]
  omega

/-- What holds of the queue and passes to the children holds of every listed tree. -/
theorem forall_mem (h : BreadthFirst children queue order) {p : α → Prop}
    (hqueue : ∀ a ∈ queue, p a) (hchildren : ∀ a, p a → ∀ b ∈ children a, p b) :
    ∀ a ∈ order, p a := by
  induction h with
  | done => exact fun a ha => absurd ha List.not_mem_nil
  | @serve a queue order rest ih =>
    have ha := hqueue a (by simp)
    refine List.forall_mem_cons.mpr ⟨ha, ih fun b hb => ?_⟩
    rcases List.mem_append.mp hb with hb | hb
    · exact hqueue b (by simp [hb])
    · exact hchildren a ha b hb

/-- The listing has one entry for each tree below the queue. -/
theorem length_eq (h : BreadthFirst children queue order) {size : α → Nat}
    (hsize : ∀ a, size a = ((children a).map size).sum + 1) :
    order.length = (queue.map size).sum := by
  induction h with
  | done => rfl
  | @serve a queue order rest ih =>
    rw [List.length_cons, ih, List.map_append, List.sum_append, List.map_cons, List.sum_cons,
      hsize a]
    omega

end BreadthFirst
