import OtelC.Logs.Reading
import Mathlib.Algebra.GroupWithZero.Nat
import Mathlib.Data.List.Sort

/-!
# Value trees

What is said of an owned value by recursion on its children: its number of values, its height,
whether it keeps the limits of the export, and the same value with the entries of every map in key
order.
-/

namespace OtelC.Logs

open OtelC.Sdk (Value ArrayValue)

/-! ### Keys in order -/

/-- The order of `str::cmp`, which compares bytes. -/
def keyLe (a b : Str) : Prop := List.le (Utf8.encode a) (Utf8.encode b)

instance : DecidableRel keyLe := fun a b =>
  inferInstanceAs (Decidable (¬Utf8.encode b < Utf8.encode a))

/-- `sorted.sort_unstable_by` on the entries of a map, which have distinct keys. -/
def sortEntries {α : Type} (entries : List (Str × α)) : List (Str × α) :=
  entries.insertionSort fun a b => keyLe a.1 b.1

section SortEntries

variable {α : Type}

theorem sortEntries_perm (entries : List (Str × α)) : (sortEntries entries).Perm entries :=
  List.perm_insertionSort _ entries

@[simp] theorem mem_sortEntries {entries : List (Str × α)} {entry : Str × α} :
    entry ∈ sortEntries entries ↔ entry ∈ entries :=
  (sortEntries_perm entries).mem_iff

@[simp] theorem length_sortEntries (entries : List (Str × α)) :
    (sortEntries entries).length = entries.length :=
  (sortEntries_perm entries).length_eq

theorem pairwise_sortEntries (entries : List (Str × α)) :
    (sortEntries entries).Pairwise fun a b => keyLe a.1 b.1 := by
  have htotal : Std.Total fun a b : Str × α => keyLe a.1 b.1 :=
    ⟨fun a b => List.le_total (Utf8.encode a.1) (Utf8.encode b.1)⟩
  have htrans : IsTrans (Str × α) fun a b => keyLe a.1 b.1 := ⟨fun _ _ _ h g => List.le_trans h g⟩
  exact List.pairwise_insertionSort _ entries

theorem sortEntries_map {β : Type} (f : α → β) (entries : List (Str × α)) :
    sortEntries (entries.map fun entry => (entry.1, f entry.2)) =
      (sortEntries entries).map fun entry => (entry.1, f entry.2) :=
  (List.map_insertionSort (fun a b : Str × α => keyLe a.1 b.1) (fun a b : Str × β => keyLe a.1 b.1)
    (fun entry => (entry.1, f entry.2)) entries fun _ _ _ _ => Iff.rfl).symm

end SortEntries

namespace AnyValue

/-! ### Children -/

def children : AnyValue → List AnyValue
  | .listAny values => values
  | .map entries => entries.map Prod.snd
  | _ => []

theorem sizeOf_lt_of_mem_children {v child : AnyValue} (h : child ∈ v.children) :
    sizeOf child < sizeOf v := by
  cases v with
  | listAny values =>
    have := List.sizeOf_lt_of_mem (show child ∈ values from h)
    simp only [listAny.sizeOf_spec]
    omega
  | map entries =>
    obtain ⟨⟨key, child⟩, hentry, rfl⟩ := List.mem_map.mp h
    have := List.sizeOf_lt_of_mem hentry
    simp only [map.sizeOf_spec, Prod.mk.sizeOf_spec] at this ⊢
    omega
  | int n => simp [children] at h
  | double x => simp [children] at h
  | string s => simp [children] at h
  | boolean b => simp [children] at h
  | bytes b => simp [children] at h

/-- Induction from the children of a value to the value. -/
theorem children_induction {p : AnyValue → Prop} (step : ∀ v, (∀ child ∈ v.children, p child) → p v)
    (v : AnyValue) : p v :=
  step v fun child h =>
    have := sizeOf_lt_of_mem_children h
    children_induction step child
termination_by sizeOf v

/-- The number of values in a tree. -/
def size (v : AnyValue) : Nat := (v.children.attach.map fun child => child.1.size).sum + 1
termination_by sizeOf v
decreasing_by exact sizeOf_lt_of_mem_children child.2

theorem size_eq (v : AnyValue) : v.size = (v.children.map size).sum + 1 := by
  rw [size, List.attach_map_val]

/-- The number of values on a longest path down. -/
def height (v : AnyValue) : Nat :=
  Forest.maxOf (fun child => child.1.height) v.children.attach + 1
termination_by sizeOf v
decreasing_by exact sizeOf_lt_of_mem_children child.2

theorem height_eq (v : AnyValue) : v.height = Forest.maxOf height v.children + 1 := by
  rw [height]
  conv_rhs => rw [← List.attach_map_subtype_val v.children, Forest.maxOf_map]

theorem one_le_height (v : AnyValue) : 1 ≤ v.height := by
  rw [height_eq]
  omega

/-! ### Maps in key order -/

/-- The value with the entries of every map in key order. -/
def sorted : AnyValue → AnyValue
  | .listAny values => .listAny (values.attach.map fun child => child.1.sorted)
  | .map entries =>
    .map (sortEntries (entries.attach.map fun entry => (entry.1.1, entry.1.2.sorted)))
  | v => v
termination_by v => sizeOf v
decreasing_by
  · exact sizeOf_lt_of_mem_children (v := .listAny values) child.2
  · exact sizeOf_lt_of_mem_children (List.mem_map_of_mem entry.2)

theorem sorted_listAny (values : List AnyValue) :
    (listAny values).sorted = .listAny (values.map sorted) := by
  rw [sorted, List.attach_map_val]

theorem sorted_map (entries : List (Str × AnyValue)) :
    (map entries).sorted = .map ((sortEntries entries).map fun entry => (entry.1, entry.2.sorted)) := by
  rw [sorted, ← sortEntries_map,
    List.attach_map_val (f := fun entry : Str × AnyValue => (entry.1, entry.2.sorted))]

theorem sorted_of_children_nil {v : AnyValue} (h : v.children = []) : v.sorted = v := by
  cases v with
  | listAny values =>
    obtain rfl : values = [] := h
    rw [sorted_listAny]
    rfl
  | map entries =>
    obtain rfl : entries = [] := List.map_eq_nil_iff.mp h
    rw [sorted_map]
    rfl
  | int n => simp [sorted]
  | double x => simp [sorted]
  | string s => simp [sorted]
  | boolean b => simp [sorted]
  | bytes data => simp [sorted]

/-- Sorting the maps of a tree sorts those of its children and permutes these. -/
theorem children_sorted_perm (v : AnyValue) :
    v.sorted.children.Perm (v.children.map sorted) := by
  cases v with
  | listAny values =>
    rw [sorted_listAny]
    exact List.Perm.refl _
  | map entries =>
    rw [sorted_map]
    show (((sortEntries entries).map _).map Prod.snd).Perm ((entries.map Prod.snd).map sorted)
    rw [List.map_map, List.map_map]
    exact (sortEntries_perm entries).map _
  | int n => rw [sorted_of_children_nil rfl]; exact List.Perm.refl _
  | double x => rw [sorted_of_children_nil rfl]; exact List.Perm.refl _
  | string s => rw [sorted_of_children_nil rfl]; exact List.Perm.refl _
  | boolean b => rw [sorted_of_children_nil rfl]; exact List.Perm.refl _
  | bytes data => rw [sorted_of_children_nil rfl]; exact List.Perm.refl _

theorem forall_children_sorted {v : AnyValue} {p : AnyValue → Prop} :
    (∀ child ∈ v.sorted.children, p child) ↔ ∀ child ∈ v.children, p child.sorted := by
  constructor
  · intro h child hchild
    exact h _ ((children_sorted_perm v).mem_iff.mpr (List.mem_map_of_mem hchild))
  · intro h child hchild
    obtain ⟨source, hsource, rfl⟩ := List.mem_map.mp ((children_sorted_perm v).mem_iff.mp hchild)
    exact h source hsource

@[simp] theorem size_sorted (v : AnyValue) : v.sorted.size = v.size := by
  induction v using children_induction with
  | step v ih =>
    rw [size_eq, size_eq v, ((children_sorted_perm v).map size).sum_nat, List.map_map]
    exact congrArg (· + 1) (congrArg List.sum (List.map_congr_left ih))

/-- The heights below a list of trees do not depend on its order. -/
theorem maxOf_height_perm {a b : List AnyValue} (h : a.Perm b) :
    Forest.maxOf height a = Forest.maxOf height b := by
  refine Nat.le_antisymm (Forest.maxOf_le_iff.mpr fun v hv => ?_)
    (Forest.maxOf_le_iff.mpr fun v hv => ?_)
  · exact Forest.le_maxOf (h.mem_iff.mp hv)
  · exact Forest.le_maxOf (h.mem_iff.mpr hv)

@[simp] theorem height_sorted (v : AnyValue) : v.sorted.height = v.height := by
  induction v using children_induction with
  | step v ih =>
    rw [height_eq, height_eq v, maxOf_height_perm (children_sorted_perm v), Forest.maxOf_map]
    refine congrArg (· + 1) (Nat.le_antisymm (Forest.maxOf_le_iff.mpr fun child hchild => ?_)
      (Forest.maxOf_le_iff.mpr fun child hchild => ?_))
    · rw [ih child hchild]
      exact Forest.le_maxOf hchild
    · rw [← ih child hchild]
      exact Forest.le_maxOf (f := fun child => child.sorted.height) hchild

/-! ### The limits of the export -/

/-- The limits on one value, not counting its children. -/
def PayloadFits : AnyValue → Prop
  | .string s => s.len ≤ maxStringLen
  | .bytes data => data.length ≤ maxBytesLen
  | .listAny values => values.length ≤ maxArrayElements
  | .map entries =>
    entries.length ≤ maxMapEntries ∧ ∀ entry ∈ entries, entry.1.len ≤ maxStringLen
  | _ => True

/-- The keys of a map are distinct texts with at least one character. -/
def KeysOk : AnyValue → Prop
  | .map entries => (entries.map Prod.fst).Nodup ∧ ∀ entry ∈ entries, entry.1 ≠ []
  | _ => True

/-- A property of every value of a tree. -/
inductive All (p : AnyValue → Prop) : AnyValue → Prop
  | intro {v : AnyValue} (here : p v) (below : ∀ child ∈ v.children, All p child) : All p v

theorem all_iff {p : AnyValue → Prop} {v : AnyValue} :
    All p v ↔ p v ∧ ∀ child ∈ v.children, All p child := by
  constructor
  · intro h
    cases h with
    | intro here below => exact ⟨here, below⟩
  · intro h
    exact .intro h.1 h.2

theorem all_sorted_iff {p : AnyValue → Prop} (h : ∀ v : AnyValue, p v.sorted ↔ p v)
    (v : AnyValue) : All p v.sorted ↔ All p v := by
  induction v using children_induction with
  | step v ih =>
    rw [all_iff, all_iff, h, forall_children_sorted]
    exact and_congr_right fun _ => forall₂_congr ih

theorem payloadFits_sorted (v : AnyValue) : v.sorted.PayloadFits ↔ v.PayloadFits := by
  cases v with
  | listAny values =>
    rw [sorted_listAny]
    show (values.map sorted).length ≤ maxArrayElements ↔ values.length ≤ maxArrayElements
    rw [List.length_map]
  | map entries =>
    rw [sorted_map]
    show ((sortEntries entries).map _).length ≤ maxMapEntries ∧
        (∀ entry ∈ (sortEntries entries).map fun entry => (entry.1, entry.2.sorted),
          entry.1.len ≤ maxStringLen) ↔
      entries.length ≤ maxMapEntries ∧ ∀ entry ∈ entries, entry.1.len ≤ maxStringLen
    rw [List.length_map, length_sortEntries, List.forall_mem_map]
    simp only [mem_sortEntries]
  | int n => rw [sorted_of_children_nil rfl]
  | double x => rw [sorted_of_children_nil rfl]
  | string s => rw [sorted_of_children_nil rfl]
  | boolean b => rw [sorted_of_children_nil rfl]
  | bytes data => rw [sorted_of_children_nil rfl]

theorem keysOk_sorted (v : AnyValue) : v.sorted.KeysOk ↔ v.KeysOk := by
  cases v with
  | map entries =>
    have hkeys := (sortEntries_perm entries).map Prod.fst
    rw [sorted_map]
    show (((sortEntries entries).map fun entry => (entry.1, entry.2.sorted)).map Prod.fst).Nodup ∧
        (∀ entry ∈ (sortEntries entries).map fun entry => (entry.1, entry.2.sorted),
          entry.1 ≠ []) ↔
      (entries.map Prod.fst).Nodup ∧ ∀ entry ∈ entries, entry.1 ≠ []
    rw [List.map_map, List.forall_mem_map, ← hkeys.nodup_iff]
    simp only [mem_sortEntries]
    exact Iff.rfl
  | listAny values => rw [sorted_listAny]; exact Iff.rfl
  | int n => rw [sorted_of_children_nil rfl]
  | double x => rw [sorted_of_children_nil rfl]
  | string s => rw [sorted_of_children_nil rfl]
  | boolean b => rw [sorted_of_children_nil rfl]
  | bytes data => rw [sorted_of_children_nil rfl]

/-- The limits on every value of a tree. -/
def Fits (v : AnyValue) : Prop := All PayloadFits v

theorem fits_iff {v : AnyValue} : v.Fits ↔ v.PayloadFits ∧ ∀ child ∈ v.children, child.Fits :=
  all_iff

/-- The keys of every map of a tree are in order. -/
def MapsOk (v : AnyValue) : Prop := All KeysOk v

theorem mapsOk_iff {v : AnyValue} : v.MapsOk ↔ v.KeysOk ∧ ∀ child ∈ v.children, child.MapsOk :=
  all_iff

theorem fits_sorted (v : AnyValue) : v.sorted.Fits ↔ v.Fits := all_sorted_iff payloadFits_sorted v

theorem mapsOk_sorted (v : AnyValue) : v.sorted.MapsOk ↔ v.MapsOk := all_sorted_iff keysOk_sorted v

end AnyValue

/-! ### Lists of trees -/

/-- The number of values below the roots. -/
def belowRoots (trees : List AnyValue) : Nat :=
  (trees.map fun t => (t.children.map AnyValue.size).sum).sum

theorem sum_size_eq (trees : List AnyValue) :
    (trees.map AnyValue.size).sum = trees.length + belowRoots trees := by
  induction trees with
  | nil => rfl
  | cons t trees ih =>
    rw [List.map_cons, List.sum_cons, ih, AnyValue.size_eq, belowRoots, belowRoots, List.map_cons,
      List.sum_cons, List.length_cons]
    omega

theorem belowRoots_append (a b : List AnyValue) :
    belowRoots (a ++ b) = belowRoots a + belowRoots b := by
  rw [belowRoots, List.map_append, List.sum_append, belowRoots, belowRoots]

/-! ### Attributes of resources and scopes -/

/-- The elements of an array attribute. -/
def arrayElements : ArrayValue → List AnyValue
  | .bool values => values.map .boolean
  | .i64 values => values.map .int
  | .f64 values => values.map .double
  | .string values => values.map .string

/-- An attribute as a log value. -/
def attributeTree : Value → AnyValue
  | .bool b => .boolean b
  | .i64 n => .int n
  | .f64 x => .double x
  | .string s => .string s
  | .array values => .listAny (arrayElements values)

end OtelC.Logs
