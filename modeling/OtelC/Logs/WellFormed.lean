import OtelC.Logs.Validator

/-!
# Well-formed value pools

A pool with its roots is well formed when it is a forest of values within the limits.  The validator
decides that without walking the forest.

* `checkAll_ok_iff`: what the ascending pass accepts and what it leaves claimed.
* `setDepths_ok`: the descending pass computes the heights.
* `validate_ok_iff`: the accepted pools are the well-formed ones.
-/

namespace OtelC.Logs

/-! ### Well-formed pools -/

/-- All values of a pool and its roots. -/
def allValues (nodes : List OtelLogValueNode) (roots : List OtelLogValue) : List OtelLogValue :=
  nodes.map OtelLogValueNode.value ++ roots

/-- The pool indices that containers and roots address, with repetitions. -/
def claims (nodes : List OtelLogValueNode) (roots : List OtelLogValue) : List Nat :=
  (allValues nodes roots).flatMap OtelLogValue.kids

/-- The key of a node, if there is such a node and its key is a text. -/
def keyAt (nodes : List OtelLogValueNode) (j : Nat) : Option Str :=
  nodes[j]?.bind fun node => (asStr node.key).toOption

/-- A value's own fields are in order. -/
structure ValueOk (value : OtelLogValue) : Prop where
  reserved : value.reserved = 0
  tag : ∃ tag, value.tag = some tag ∧ tag ≠ .empty
  string : value.tag = some .string →
    ∃ s, asStr value.value.stringValue = .ok s ∧ s.len ≤ maxStringLen
  bytes : value.tag = some .bytes →
    ∃ b, asSlice value.value.bytesValue = .ok b ∧ b.length ≤ maxBytesLen

/-- The children of a container are within its limits and have the keys of its kind. -/
structure ChildrenOk (nodes : List OtelLogValueNode) (value : OtelLogValue) : Prop where
  array : value.tag = some .array → value.kids.length ≤ maxArrayElements ∧
    ∀ j ∈ value.kids, keyAt nodes j = some []
  map : value.tag = some .map → value.kids.length ≤ maxMapEntries ∧
    (∀ j ∈ value.kids, ∃ key, keyAt nodes j = some key ∧ key ≠ [] ∧ key.len ≤ maxStringLen) ∧
    (value.kids.map (keyAt nodes)).Nodup

/-- A pool with its roots is a forest of values within the limits. -/
structure WellFormed (nodes : List OtelLogValueNode) (roots : List OtelLogValue) : Prop where
  values : ∀ value ∈ allValues nodes roots, ValueOk value
  children : ∀ value ∈ allValues nodes roots, ChildrenOk nodes value
  inBounds : ∀ value ∈ allValues nodes roots, ∀ j ∈ value.kids, j < nodes.length
  forward : ∀ i (node : OtelLogValueNode), nodes[i]? = some node → ∀ j ∈ node.value.kids, i < j
  claimedOnce : ∀ i < nodes.length, (claims nodes roots).count i = 1
  depth : ∀ root ∈ roots, ∀ d, Forest.Chain (childValues nodes) root d → d ≤ maxValueDepth

/-! ### One value -/

theorem checkValueScalar_ok_iff {value : OtelLogValue} {tag : OtelLogValueType} :
    checkValueScalar value = .ok tag ↔ value.tag = some tag ∧ ValueOk value := by
  unfold checkValueScalar
  rw [fail, Checked.guard_eq_ok, not_not]
  constructor
  · rintro ⟨hreserved, h⟩
    split at h
    · simp [fail] at h
    · simp [fail] at h
    · rename_i htag
      obtain ⟨s, hs, h⟩ := Checked.bind_eq_ok.mp h
      obtain ⟨hlen, h⟩ := Checked.guard_eq_ok.mp h
      obtain rfl := Except.ok.inj h
      exact ⟨htag, hreserved, ⟨_, htag, by simp⟩, fun _ => ⟨s, hs, Nat.le_of_not_gt hlen⟩,
        fun hb => by simp [htag] at hb⟩
    · rename_i htag
      obtain ⟨b, hb, h⟩ := Checked.bind_eq_ok.mp h
      obtain ⟨hlen, h⟩ := Checked.guard_eq_ok.mp h
      obtain rfl := Except.ok.inj h
      exact ⟨htag, hreserved, ⟨_, htag, by simp⟩, fun hs => by simp [htag] at hs,
        fun _ => ⟨b, hb, Nat.le_of_not_gt hlen⟩⟩
    · rename_i tag' hempty hstring hbytes htag
      obtain rfl := Except.ok.inj h
      exact ⟨htag, hreserved, ⟨_, htag, hempty⟩,
        fun hs => absurd (Option.some.inj (htag.symm.trans hs)) hstring,
        fun hb => absurd (Option.some.inj (htag.symm.trans hb)) hbytes⟩
  · rintro ⟨htag, hok⟩
    refine ⟨hok.reserved, ?_⟩
    rw [htag]
    cases tag with
    | empty =>
      obtain ⟨tag, htag', hne⟩ := hok.tag
      rw [htag] at htag'
      exact absurd (Option.some.inj htag').symm hne
    | string =>
      obtain ⟨s, hs, hlen⟩ := hok.string htag
      simp only [hs, Checked.ok_bind]
      exact if_neg (Nat.not_lt.mpr hlen)
    | bytes =>
      obtain ⟨b, hb, hlen⟩ := hok.bytes htag
      simp only [hb, Checked.ok_bind]
      exact if_neg (Nat.not_lt.mpr hlen)
    | bool => rfl
    | int64 => rfl
    | double => rfl
    | array => rfl
    | map => rfl

theorem kids_of_container {value : OtelLogValue} {tag : OtelLogValueType}
    (htag : value.tag = some tag) (h : tag.IsContainer) :
    value.kids = value.value.children.indices := by
  rw [OtelLogValue.kids, if_pos]
  rcases h with rfl | rfl
  · exact .inl htag
  · exact .inr htag

theorem kids_of_scalar {value : OtelLogValue} {tag : OtelLogValueType}
    (htag : value.tag = some tag) (h : ¬tag.IsContainer) : value.kids = [] := by
  rw [OtelLogValue.kids, if_neg]
  rw [htag, Option.some.injEq, Option.some.injEq]
  exact h

/-! ### Keys -/

theorem index_eq_ok {α : Type} {xs : List α} {i : Nat} {x : α} :
    index xs i = .ok x ↔ xs[i]? = some x := by
  unfold index
  cases xs[i]? <;> simp

theorem toOption_eq_some {α : Type} {x : Except Fail α} {a : α} :
    x.toOption = some a ↔ x = .ok a := by
  cases x <;> simp [Except.toOption]

theorem keyAt_eq_some {nodes : List OtelLogValueNode} {j : Nat} {key : Str} :
    keyAt nodes j = some key ↔ ∃ node, nodes[j]? = some node ∧ asStr node.key = .ok key := by
  simp only [keyAt, Option.bind_eq_some_iff, toOption_eq_some]

theorem checkChildKey_array {nodes : List OtelLogValueNode} {i : Nat} {out : Option Str} :
    checkChildKey nodes i .arrayElement = .ok out ↔ keyAt nodes i = some [] ∧ out = none := by
  rw [checkChildKey, Checked.bind_eq_ok, keyAt_eq_some]
  simp only [index_eq_ok, Checked.bind_eq_ok, fail, Checked.guard_eq_ok, not_not,
    List.isEmpty_iff, Except.ok.injEq]
  constructor
  · rintro ⟨node, hnode, key, hkey, rfl, rfl⟩
    exact ⟨⟨node, hnode, hkey⟩, rfl⟩
  · rintro ⟨⟨node, hnode, hkey⟩, rfl⟩
    exact ⟨node, hnode, [], hkey, rfl, rfl⟩

theorem checkChildKey_map {nodes : List OtelLogValueNode} {i : Nat} {out : Option Str} :
    checkChildKey nodes i .mapEntry = .ok out ↔
      ∃ key, keyAt nodes i = some key ∧ key ≠ [] ∧ key.len ≤ maxStringLen ∧ out = some key := by
  rw [checkChildKey, Checked.bind_eq_ok]
  simp only [keyAt_eq_some, index_eq_ok, Checked.bind_eq_ok, fail, Checked.guard_eq_ok,
    List.isEmpty_iff, Except.ok.injEq, Nat.not_lt]
  constructor
  · rintro ⟨node, hnode, key, hkey, hne, hlen, rfl⟩
    exact ⟨key, ⟨node, hnode, hkey⟩, hne, hlen, rfl⟩
  · rintro ⟨key, ⟨node, hnode, hkey⟩, hne, hlen, rfl⟩
    exact ⟨node, hnode, key, hkey, hne, hlen, rfl⟩

theorem checkKeys_array {nodes : List OtelLogValueNode} {range : List Nat} {seen : List Str} :
    checkKeys nodes .arrayElement range seen = .ok () ↔ ∀ j ∈ range, keyAt nodes j = some [] := by
  induction range with
  | nil => simp [checkKeys]
  | cons i rest ih =>
    rw [checkKeys, Checked.bind_eq_ok, List.forall_mem_cons]
    constructor
    · rintro ⟨out, hout, h⟩
      obtain ⟨hkey, rfl⟩ := checkChildKey_array.mp hout
      exact ⟨hkey, ih.mp h⟩
    · rintro ⟨hkey, hrest⟩
      exact ⟨none, checkChildKey_array.mpr ⟨hkey, rfl⟩, ih.mpr hrest⟩

theorem checkKeys_map {nodes : List OtelLogValueNode} {range : List Nat} {seen : List Str}
    (hseen : seen.Nodup) :
    checkKeys nodes .mapEntry range seen = .ok () ↔
      (∀ j ∈ range, ∃ key, keyAt nodes j = some key ∧ key ≠ [] ∧ key.len ≤ maxStringLen) ∧
      (seen.map some ++ range.map (keyAt nodes)).Nodup := by
  induction range generalizing seen with
  | nil => simp [checkKeys, hseen.map (Option.some_injective _)]
  | cons i rest ih =>
    rw [checkKeys, Checked.bind_eq_ok, List.forall_mem_cons]
    -- the new key joins the keys seen
    have hmove : ∀ key, keyAt nodes i = some key →
        seen.map some ++ (i :: rest).map (keyAt nodes) =
          (seen ++ [key]).map some ++ rest.map (keyAt nodes) := by
      intro key hkey
      simp [hkey]
    constructor
    · rintro ⟨out, hout, h⟩
      obtain ⟨key, hkey, hne, hlen, rfl⟩ := checkChildKey_map.mp hout
      obtain ⟨hnew, h⟩ := Checked.guard_eq_ok.mp h
      have hseen' : (seen ++ [key]).Nodup := by
        rw [List.nodup_append_comm]
        exact List.nodup_cons.mpr ⟨hnew, hseen⟩
      obtain ⟨hrest, hnodup⟩ := (ih hseen').mp h
      rw [hmove key hkey]
      exact ⟨⟨⟨key, hkey, hne, hlen⟩, hrest⟩, hnodup⟩
    · rintro ⟨⟨⟨key, hkey, hne, hlen⟩, hrest⟩, hnodup⟩
      rw [hmove key hkey] at hnodup
      have hseen' : (seen ++ [key]).Nodup := (List.nodup_append.mp hnodup).1.of_map
      refine ⟨some key, checkChildKey_map.mpr ⟨key, hkey, hne, hlen, rfl⟩,
        Checked.guard_eq_ok.mpr ⟨?_, (ih hseen').mpr ⟨hrest, hnodup⟩⟩⟩
      rw [List.nodup_append_comm] at hseen'
      exact (List.nodup_cons.mp hseen').1

/-! ### Claims -/

/-- The state of the ascending pass: every height is still one, and these indices are claimed. -/
def marked (n : Nat) (claimed : List Nat) : List NodeInfo :=
  (List.range n).map fun i => ⟨1, decide (i ∈ claimed)⟩

@[simp] theorem length_marked (n : Nat) (claimed : List Nat) : (marked n claimed).length = n := by
  simp [marked]

theorem getElem?_marked {n i : Nat} (claimed : List Nat) (h : i < n) :
    (marked n claimed)[i]? = some ⟨1, decide (i ∈ claimed)⟩ := by
  simp [marked, h]

theorem newInfo_eq (nodes : List OtelLogValueNode) : newInfo nodes = marked nodes.length [] := by
  refine List.ext_getElem (by simp [newInfo]) fun i hi hi' => ?_
  simp [newInfo, marked]

theorem set_marked (n i : Nat) (claimed : List Nat) :
    (marked n claimed).set i ⟨1, true⟩ = marked n (claimed ++ [i]) := by
  refine List.ext_getElem (by simp) fun j hj hj' => ?_
  rw [List.getElem_set]
  by_cases heq : i = j
  · simp [heq, marked]
  · simp [heq, marked, Ne.symm heq]

theorem claimNodes_ok_iff {n : Nat} {claimed range : List Nat} (hclaimed : claimed.Nodup)
    {info : List NodeInfo} :
    claimNodes (marked n claimed) range = .ok info ↔
      (∀ j ∈ range, j < n) ∧ (claimed ++ range).Nodup ∧ info = marked n (claimed ++ range) := by
  induction range generalizing claimed with
  | nil => simp [claimNodes, hclaimed, eq_comm]
  | cons i rest ih =>
    rw [claimNodes, Checked.bind_eq_ok, List.forall_mem_cons, List.append_cons claimed i rest]
    constructor
    · rintro ⟨node, hnode, h⟩
      have hi : i < n := by
        have := (List.getElem?_eq_some_iff.mp (index_eq_ok.mp hnode)).1
        simpa using this
      rw [index_eq_ok, getElem?_marked claimed hi, Option.some.injEq] at hnode
      subst hnode
      obtain ⟨hnew, h⟩ := Checked.guard_eq_ok.mp h
      rw [decide_eq_true_eq] at hnew
      have hclaimed' : (claimed ++ [i]).Nodup := by
        rw [List.nodup_append_comm]
        exact List.nodup_cons.mpr ⟨hnew, hclaimed⟩
      rw [set_marked n i claimed] at h
      obtain ⟨hrest, hnodup, rfl⟩ := (ih hclaimed').mp h
      exact ⟨⟨hi, hrest⟩, hnodup, rfl⟩
    · rintro ⟨⟨hi, hrest⟩, hnodup, rfl⟩
      have hclaimed' : (claimed ++ [i]).Nodup := (List.nodup_append.mp hnodup).1
      refine ⟨_, index_eq_ok.mpr (getElem?_marked claimed hi), Checked.guard_eq_ok.mpr ⟨?_, ?_⟩⟩
      · rw [List.nodup_append_comm] at hclaimed'
        simpa using (List.nodup_cons.mp hclaimed').1
      · rw [set_marked n i claimed]
        exact (ih hclaimed').mpr ⟨hrest, hnodup, rfl⟩

theorem forall_mem_range' {p : Nat → Prop} {first count : Nat} :
    (∀ j ∈ List.range' first count, p j) ↔ ∀ k < count, p (first + k) := by
  simp only [List.mem_range'_1]
  constructor
  · intro h k hk
    exact h _ ⟨by omega, by omega⟩
  · intro h j hj
    have := h (j - first) (by omega)
    rwa [Nat.add_sub_cancel' hj.1] at this

/-- The bounds of a non-empty range are those of its indices. -/
theorem range'_bounds {first count n : Nat} (hcount : count ≠ 0) (owner : Option Nat) :
    (¬first + count > n ∧ ¬owner.any (first ≤ ·)) ↔
      (∀ j ∈ List.range' first count, j < n) ∧
        ∀ i ∈ owner, ∀ j ∈ List.range' first count, i < j := by
  simp only [forall_mem_range']
  constructor
  · rintro ⟨hbound, hforward⟩
    refine ⟨fun k hk => by omega, fun i hi k hk => ?_⟩
    obtain rfl := Option.mem_def.mp hi
    simp only [Option.any_some, decide_eq_true_eq] at hforward
    omega
  · rintro ⟨hbound, hforward⟩
    refine ⟨?_, ?_⟩
    · have := hbound (count - 1) (by omega)
      omega
    · cases owner with
      | none => simp
      | some i =>
        have := hforward i rfl 0 (by omega)
        simp only [Option.any_some, decide_eq_true_eq]
        omega

theorem claimChildren_ok_iff {nodes : List OtelLogValueNode} {claimed : List Nat}
    (hclaimed : claimed.Nodup) {value : OtelLogValue} {tag : OtelLogValueType}
    {owner : Option Nat} {range : List Nat} {info : List NodeInfo} :
    claimChildren nodes (marked nodes.length claimed) tag value owner = .ok (range, info) ↔
      value.value.children.indices.length ≤ (if tag = .map then maxMapEntries else maxArrayElements) ∧
      (∀ j ∈ value.value.children.indices, j < nodes.length) ∧
      (∀ i ∈ owner, ∀ j ∈ value.value.children.indices, i < j) ∧
      (claimed ++ value.value.children.indices).Nodup ∧ range = value.value.children.indices ∧
      info = marked nodes.length (claimed ++ value.value.children.indices) := by
  have hlen : value.value.children.indices.length = value.value.children.count.toNat := by
    simp [OtelLogValueRange.indices]
  unfold claimChildren
  simp only [fail]
  rw [Checked.guard_eq_ok, Nat.not_lt, hlen]
  refine and_congr_right fun _ => ?_
  split
  · rename_i hzero
    have hnil : value.value.children.indices = [] := by
      rw [← List.length_eq_zero_iff, hlen, hzero]
    simp [hnil, hclaimed, eq_comm]
  · rename_i hcount
    have husize : ¬value.value.children.first.toNat + value.value.children.count.toNat > usizeMax := by
      have h1 := value.value.children.first.toNat_lt
      have h2 := value.value.children.count.toNat_lt
      have h3 : usizeMax = 2 ^ 64 - 1 := rfl
      omega
    rw [if_neg husize, Checked.guard_eq_ok, Checked.guard_eq_ok, ← and_assoc,
      range'_bounds hcount owner, Checked.bind_eq_ok, and_assoc]
    refine and_congr_right fun hbounds => and_congr_right fun _ => ?_
    simp only [claimNodes_ok_iff hclaimed, Except.ok.injEq, Prod.mk.injEq]
    constructor
    · rintro ⟨info', ⟨-, hnodup, rfl⟩, rfl, rfl⟩
      exact ⟨hnodup, rfl, rfl⟩
    · rintro ⟨hnodup, rfl, rfl⟩
      exact ⟨_, ⟨hbounds, hnodup, rfl⟩, rfl, rfl⟩

/-! ### The ascending pass -/

/-- What the ascending pass asks of one value and its owner, but for the claims. -/
structure VisitOk (nodes : List OtelLogValueNode) (visit : Option Nat × OtelLogValue) : Prop where
  value : ValueOk visit.2
  children : ChildrenOk nodes visit.2
  inBounds : ∀ j ∈ visit.2.kids, j < nodes.length
  forward : ∀ i ∈ visit.1, ∀ j ∈ visit.2.kids, i < j

theorem checkChildren_ok_iff {nodes : List OtelLogValueNode} {value : OtelLogValue}
    {tag : OtelLogValueType} (htag : value.tag = some tag) (hcontainer : tag.IsContainer) :
    (value.value.children.indices.length ≤ (if tag = .map then maxMapEntries else maxArrayElements) ∧
      checkChildren nodes tag value.value.children.indices = .ok ()) ↔ ChildrenOk nodes value := by
  have hkids := kids_of_container htag hcontainer
  rcases hcontainer with rfl | rfl
  · rw [if_neg (by decide), checkChildren, if_neg (by decide), checkKeys_array, ← hkids]
    constructor
    · intro h
      exact ⟨fun _ => h, fun hmap => by simp [htag] at hmap⟩
    · intro h
      exact h.array htag
  · rw [if_pos rfl, checkChildren, if_pos rfl, checkKeys_map List.nodup_nil, ← hkids]
    constructor
    · intro h
      exact ⟨fun harray => by simp [htag] at harray, fun _ => h⟩
    · intro h
      exact h.map htag

theorem checkValue_ok_iff {nodes : List OtelLogValueNode} {claimed : List Nat}
    (hclaimed : claimed.Nodup) {visit : Option Nat × OtelLogValue} {info : List NodeInfo} :
    checkValue nodes (marked nodes.length claimed) visit = .ok info ↔
      VisitOk nodes visit ∧ (claimed ++ visit.2.kids).Nodup ∧
        info = marked nodes.length (claimed ++ visit.2.kids) := by
  obtain ⟨owner, value⟩ := visit
  rw [checkValue, Checked.bind_eq_ok]
  simp only [checkValueScalar_ok_iff]
  constructor
  · rintro ⟨tag, ⟨htag, hvalue⟩, h⟩
    split at h
    · rename_i hcontainer
      obtain ⟨⟨range, info'⟩, hclaim, h⟩ := Checked.bind_eq_ok.mp h
      obtain ⟨hfan, hbound, hforward, hnodup, rfl, rfl⟩ := (claimChildren_ok_iff hclaimed).mp hclaim
      obtain ⟨⟨⟩, hkeys, h⟩ := Checked.bind_eq_ok.mp h
      obtain rfl := Except.ok.inj h
      have hchildren := (checkChildren_ok_iff htag hcontainer).mp ⟨hfan, hkeys⟩
      rw [← kids_of_container htag hcontainer] at *
      exact ⟨⟨hvalue, hchildren, hbound, hforward⟩, hnodup, rfl⟩
    · rename_i hscalar
      obtain rfl := Except.ok.inj h
      have hkids : value.kids = [] := kids_of_scalar htag hscalar
      refine ⟨⟨hvalue, ⟨fun harray => ?_, fun hmap => ?_⟩, by simp [hkids], by simp [hkids]⟩,
        by simpa [hkids] using hclaimed, by simp [hkids]⟩
      · exact absurd (.inl (Option.some.inj (htag.symm.trans harray))) hscalar
      · exact absurd (.inr (Option.some.inj (htag.symm.trans hmap))) hscalar
  · rintro ⟨hok, hnodup, rfl⟩
    obtain ⟨tag, htag, -⟩ := hok.value.tag
    refine ⟨tag, ⟨htag, hok.value⟩, ?_⟩
    split
    · rename_i hcontainer
      have hkids := kids_of_container htag hcontainer
      obtain ⟨hfan, hkeys⟩ := (checkChildren_ok_iff htag hcontainer).mpr hok.children
      have hclaim : claimChildren nodes (marked nodes.length claimed) tag value owner =
          .ok (value.kids, marked nodes.length (claimed ++ value.kids)) := by
        rw [claimChildren_ok_iff hclaimed, ← hkids]
        rw [← hkids] at hfan
        exact ⟨hfan, hok.inBounds, hok.forward, hnodup, rfl, rfl⟩
      rw [← hkids] at hkeys
      simp only [hclaim, hkeys, Checked.ok_bind]
    · rename_i hscalar
      simp [kids_of_scalar htag hscalar]

/-- **What the ascending pass accepts and what it leaves claimed.** -/
theorem checkAll_ok_iff {nodes : List OtelLogValueNode} {claimed : List Nat}
    (hclaimed : claimed.Nodup) {visits : List (Option Nat × OtelLogValue)} {info : List NodeInfo} :
    checkAll nodes (marked nodes.length claimed) visits = .ok info ↔
      (∀ visit ∈ visits, VisitOk nodes visit) ∧
      (claimed ++ visits.flatMap fun visit => visit.2.kids).Nodup ∧
      info = marked nodes.length (claimed ++ visits.flatMap fun visit => visit.2.kids) := by
  induction visits generalizing claimed with
  | nil => simp [checkAll, hclaimed, eq_comm]
  | cons visit rest ih =>
    rw [checkAll, Checked.bind_eq_ok, List.forall_mem_cons, List.flatMap_cons, ← List.append_assoc]
    constructor
    · rintro ⟨info', hvisit, h⟩
      obtain ⟨hok, hnodup, rfl⟩ := (checkValue_ok_iff hclaimed).mp hvisit
      obtain ⟨hrest, hnodup', rfl⟩ := (ih hnodup).mp h
      exact ⟨⟨hok, hrest⟩, hnodup', rfl⟩
    · rintro ⟨⟨hok, hrest⟩, hnodup, rfl⟩
      have hnodup' := (List.nodup_append.mp hnodup).1
      exact ⟨_, (checkValue_ok_iff hclaimed).mpr ⟨hok, hnodup', rfl⟩,
        (ih hnodup').mpr ⟨hrest, hnodup, rfl⟩⟩

/-! ### The descending pass -/

/-- The height recorded for a node. -/
def heightAt (info : List NodeInfo) (j : Nat) : Nat := (info[j]?.map NodeInfo.depth).getD 0

theorem childDepth_eq {info : List NodeInfo} {range : List Nat} (h : ∀ j ∈ range, j < info.length)
    (depth : Nat) :
    childDepth info range depth = .ok (max depth (Forest.maxOf (heightAt info) range)) := by
  induction range generalizing depth with
  | nil => simp [childDepth]
  | cons j rest ih =>
    rw [List.forall_mem_cons] at h
    have hheight : heightAt info j = info[j].depth := by simp [heightAt, h.1]
    rw [childDepth, index_of_lt h.1, Checked.ok_bind, ih h.2, Forest.maxOf_cons, hheight,
      Nat.max_assoc]

theorem mem_childValues {nodes : List OtelLogValueNode} {value child : OtelLogValue} :
    child ∈ childValues nodes value ↔
      ∃ j ∈ value.kids, ∃ node, nodes[j]? = some node ∧ node.value = child := by
  simp only [childValues, List.mem_filterMap, Option.map_eq_some_iff]

/-- A value is one higher than the highest of its children. -/
theorem isHeight_of_kids {nodes : List OtelLogValueNode} {info : List NodeInfo}
    {value : OtelLogValue} (hbound : ∀ j ∈ value.kids, j < nodes.length)
    (h : ∀ j ∈ value.kids, ∀ node, nodes[j]? = some node →
      Forest.IsHeight (childValues nodes) node.value (heightAt info j)) :
    Forest.IsHeight (childValues nodes) value (Forest.maxOf (heightAt info) value.kids + 1) := by
  refine Forest.isHeight_of_children (fun j hj => ?_) fun child hchild => ?_
  · have hnode := List.getElem?_eq_getElem (hbound j hj)
    exact ⟨_, mem_childValues.mpr ⟨j, hj, _, hnode, rfl⟩, h j hj _ hnode⟩
  · obtain ⟨j, hj, node, hnode, rfl⟩ := mem_childValues.mp hchild
    exact ⟨j, hj, h j hj node hnode⟩

/-- The descending pass is done from index `k` on. -/
structure DoneFrom (nodes : List OtelLogValueNode) (k : Nat) (info : List NodeInfo) : Prop where
  length : info.length = nodes.length
  height : ∀ j node, k ≤ j → nodes[j]? = some node →
    Forest.IsHeight (childValues nodes) node.value (heightAt info j)
  initial : ∀ j < k, j < nodes.length → heightAt info j = 1

theorem heightAt_set {info : List NodeInfo} {i : Nat} (hi : i < info.length) (node : NodeInfo)
    (j : Nat) : heightAt (info.set i node) j = if i = j then node.depth else heightAt info j := by
  simp only [heightAt, List.getElem?_set]
  split <;> simp_all

theorem setDepth_ok {nodes : List OtelLogValueNode} {k : Nat} {info : List NodeInfo}
    {node : OtelLogValueNode} (hnode : nodes[k]? = some node)
    (hbound : ∀ j ∈ node.value.kids, j < nodes.length) (hforward : ∀ j ∈ node.value.kids, k < j)
    (h : DoneFrom nodes (k + 1) info) :
    ∃ info', setDepth info k node.value = .ok info' ∧ DoneFrom nodes k info' := by
  have hk : k < nodes.length := (List.getElem?_eq_some_iff.mp hnode).1
  have hki : k < info.length := by rw [h.length]; exact hk
  have hheight := isHeight_of_kids hbound fun j hj node' hnode' =>
    h.height j node' (hforward j hj) hnode'
  unfold setDepth
  split
  · rename_i hcontainer
    have hkids : node.value.kids = node.value.value.children.indices := by
      rw [OtelLogValue.kids, if_pos hcontainer]
    rw [← hkids, childDepth_eq (by simpa [h.length] using hbound), Checked.ok_bind,
      index_of_lt hki, Checked.ok_bind]
    refine ⟨_, rfl, by simp [h.length], fun j node' hj hnode' => ?_, fun j hj hjn => ?_⟩
    · rw [heightAt_set hki]
      split
      · rename_i heq
        subst heq
        obtain rfl := Option.some.inj (hnode.symm.trans hnode')
        simpa using hheight
      · exact h.height j node' (by omega) hnode'
    · rw [heightAt_set hki, if_neg (by omega)]
      exact h.initial j (by omega) hjn
  · rename_i hscalar
    refine ⟨info, rfl, h.length, fun j node' hj hnode' => ?_, fun j hj => h.initial j (by omega)⟩
    rcases Nat.lt_or_ge k j with hlt | hge
    · exact h.height j node' hlt hnode'
    · obtain rfl : j = k := by omega
      obtain rfl := Option.some.inj (hnode.symm.trans hnode')
      rw [OtelLogValue.kids, if_neg hscalar] at hheight
      rw [h.initial j (by omega) hk]
      exact hheight

/-- **The descending pass computes the heights.** -/
theorem setDepths_ok {nodes : List OtelLogValueNode}
    (hbound : ∀ (i : Nat) (node : OtelLogValueNode), nodes[i]? = some node →
      ∀ j ∈ node.value.kids, j < nodes.length)
    (hforward : ∀ (i : Nat) (node : OtelLogValueNode), nodes[i]? = some node →
      ∀ j ∈ node.value.kids, i < j)
    {k : Nat} (hk : k ≤ nodes.length) {info : List NodeInfo} (h : DoneFrom nodes k info) :
    ∃ info', setDepths nodes k info = .ok info' ∧ DoneFrom nodes 0 info' := by
  induction k generalizing info with
  | zero => exact ⟨info, rfl, h⟩
  | succ k ih =>
    have hnode := List.getElem?_eq_getElem (show k < nodes.length by omega)
    obtain ⟨info', hset, hdone⟩ := setDepth_ok hnode (hbound k _ hnode) (hforward k _ hnode) h
    obtain ⟨final, hfinal, hdone⟩ := ih (by omega) hdone
    refine ⟨final, ?_, hdone⟩
    rw [setDepths, index_of_lt (by omega), Checked.ok_bind, hset, Checked.ok_bind, hfinal]

theorem checkDepths_ok_iff {nodes : List OtelLogValueNode} {info : List NodeInfo}
    (h : DoneFrom nodes 0 info) {roots : List OtelLogValue}
    (hbound : ∀ root ∈ roots, ∀ j ∈ root.kids, j < nodes.length) :
    checkDepths info roots = .ok () ↔
      ∀ root ∈ roots, ∀ d, Forest.Chain (childValues nodes) root d → d ≤ maxValueDepth := by
  induction roots with
  | nil => simp [checkDepths]
  | cons root rest ih =>
    rw [List.forall_mem_cons] at hbound
    have hheight := isHeight_of_kids hbound.1 fun j _ node => h.height j node (Nat.zero_le j)
    have hdepth : rootDepth info root = .ok (Forest.maxOf (heightAt info) root.kids + 1) := by
      unfold rootDepth
      split
      · rename_i hcontainer
        have hkids : root.kids = root.value.children.indices := by
          rw [OtelLogValue.kids, if_pos hcontainer]
        rw [← hkids, childDepth_eq (by simpa [h.length] using hbound.1), Checked.ok_bind]
        simp
      · rename_i hscalar
        rw [OtelLogValue.kids, if_neg hscalar, Forest.maxOf_nil]
    rw [checkDepths, hdepth, Checked.ok_bind, fail, Checked.guard_eq_ok, Nat.not_lt,
      hheight.le_iff, ih hbound.2, List.forall_mem_cons]

/-! ### The whole pass -/

theorem forall_poolVisits {nodes : List OtelLogValueNode} {p : Option Nat × OtelLogValue → Prop} :
    (∀ visit ∈ poolVisits nodes, p visit) ↔
      ∀ i (node : OtelLogValueNode), nodes[i]? = some node → p (some i, node.value) := by
  simp only [poolVisits, List.mem_map, Prod.exists]
  constructor
  · intro h i node hnode
    exact h _ ⟨node, i, List.mem_zipIdx_iff_getElem?.mpr hnode, rfl⟩
  · rintro h visit ⟨node, i, hmem, rfl⟩
    exact h i node (List.mem_zipIdx_iff_getElem?.mp hmem)

theorem forall_rootVisits {roots : List OtelLogValue} {p : Option Nat × OtelLogValue → Prop} :
    (∀ visit ∈ rootVisits roots, p visit) ↔ ∀ root ∈ roots, p (none, root) := by
  simp [rootVisits]

theorem kids_visits (nodes : List OtelLogValueNode) (roots : List OtelLogValue) :
    ((poolVisits nodes).flatMap fun visit => visit.2.kids) ++
      ((rootVisits roots).flatMap fun visit => visit.2.kids) = claims nodes roots := by
  have hpool : (poolVisits nodes).map Prod.snd = nodes.map OtelLogValueNode.value := by
    conv_rhs => rw [← List.zipIdx_map_fst 0 nodes, List.map_map]
    rw [poolVisits, List.map_map]
    rfl
  have hroots : (rootVisits roots).map Prod.snd = roots := by
    simp [rootVisits, Function.comp_def]
  rw [claims, allValues, List.flatMap_append, ← hpool, List.flatMap_map]
  conv_rhs => rw [← hroots, List.flatMap_map]

theorem findIdx?_marked {n : Nat} {claimed : List Nat} :
    ((marked n claimed).findIdx? fun node => !node.referenced) = none ↔ ∀ i < n, i ∈ claimed := by
  simp [List.findIdx?_eq_none_iff, marked]

theorem doneFrom_marked (nodes : List OtelLogValueNode) (claimed : List Nat) :
    DoneFrom nodes nodes.length (marked nodes.length claimed) where
  length := length_marked _ _
  height := by
    intro j node hj hnode
    have := (List.getElem?_eq_some_iff.mp hnode).1
    omega
  initial := by
    intro j _ hj
    simp [heightAt, getElem?_marked claimed hj]

theorem mem_allValues_of_getElem? {nodes : List OtelLogValueNode} {roots : List OtelLogValue}
    {i : Nat} {node : OtelLogValueNode} (h : nodes[i]? = some node) :
    node.value ∈ allValues nodes roots :=
  List.mem_append_left _ (List.mem_map_of_mem (List.mem_of_getElem? h))

theorem mem_allValues_of_root {nodes : List OtelLogValueNode} {roots : List OtelLogValue}
    {root : OtelLogValue} (h : root ∈ roots) : root ∈ allValues nodes roots :=
  List.mem_append_right _ h

theorem forall_allValues {nodes : List OtelLogValueNode} {roots : List OtelLogValue}
    {p : OtelLogValue → Prop} :
    (∀ value ∈ allValues nodes roots, p value) ↔
      (∀ (i : Nat) (node : OtelLogValueNode), nodes[i]? = some node → p node.value) ∧
        ∀ root ∈ roots, p root := by
  rw [allValues, List.forall_mem_append, List.forall_mem_map]
  refine and_congr_left fun _ => ⟨fun h i node hnode => h node (List.mem_of_getElem? hnode), ?_⟩
  intro h node hmem
  obtain ⟨i, hnode⟩ := List.mem_iff_getElem?.mp hmem
  exact h i node hnode

/-- The visits of both passes are in order just when the pool is, but for ownership and height. -/
theorem visits_ok_iff {nodes : List OtelLogValueNode} {roots : List OtelLogValue} :
    (∀ visit ∈ poolVisits nodes ++ rootVisits roots, VisitOk nodes visit) ↔
      (∀ value ∈ allValues nodes roots, ValueOk value) ∧
      (∀ value ∈ allValues nodes roots, ChildrenOk nodes value) ∧
      (∀ value ∈ allValues nodes roots, ∀ j ∈ value.kids, j < nodes.length) ∧
      ∀ i (node : OtelLogValueNode), nodes[i]? = some node → ∀ j ∈ node.value.kids, i < j := by
  rw [List.forall_mem_append, forall_poolVisits, forall_rootVisits]
  simp only [forall_allValues]
  constructor
  · rintro ⟨hpool, hroots⟩
    exact ⟨⟨fun i node h => (hpool i node h).value, fun root h => (hroots root h).value⟩,
      ⟨fun i node h => (hpool i node h).children, fun root h => (hroots root h).children⟩,
      ⟨fun i node h => (hpool i node h).inBounds, fun root h => (hroots root h).inBounds⟩,
      fun i node h => (hpool i node h).forward i rfl⟩
  · rintro ⟨⟨hv, hv'⟩, ⟨hc, hc'⟩, ⟨hb, hb'⟩, hf⟩
    refine ⟨fun i node h => ⟨hv i node h, hc i node h, hb i node h, fun k hk => ?_⟩,
      fun root h => ⟨hv' root h, hc' root h, hb' root h, by simp⟩⟩
    obtain rfl := Option.mem_some_iff.mp hk
    exact hf i node h

/-- **The validator accepts exactly the well-formed pools.** -/
theorem validate_ok_iff {nodes : List OtelLogValueNode} {roots : List OtelLogValue} :
    (∃ info, validate nodes roots = .ok info) ↔ WellFormed nodes roots := by
  unfold validate
  simp only [Checked.bind_eq_ok, newInfo_eq]
  constructor
  · rintro ⟨final, info, hpool, info', hroots, h⟩
    obtain ⟨hpoolOk, hnodup, rfl⟩ := (checkAll_ok_iff List.nodup_nil).mp hpool
    obtain ⟨hrootsOk, hnodup, rfl⟩ := (checkAll_ok_iff hnodup).mp hroots
    rw [List.nil_append, kids_visits] at h hnodup
    obtain ⟨hvalues, hchildren, hbound, hforward⟩ :=
      visits_ok_iff.mp (List.forall_mem_append.mpr ⟨hpoolOk, hrootsOk⟩)
    have hclaims : ∀ i ∈ claims nodes roots, i < nodes.length := by
      intro i hi
      obtain ⟨value, hvalue, hi⟩ := List.mem_flatMap.mp hi
      exact hbound value hvalue i hi
    split at h
    · simp [fail] at h
    · rename_i hfind
      have honce := (Forest.nodup_covers_iff hclaims).mp ⟨hnodup, findIdx?_marked.mp hfind⟩
      obtain ⟨info, hset, h⟩ := Checked.bind_eq_ok.mp h
      obtain ⟨⟨⟩, hcheck, -⟩ := Checked.bind_eq_ok.mp h
      obtain ⟨info', hset', hdone⟩ := setDepths_ok
        (fun i node hnode => hbound _ (mem_allValues_of_getElem? hnode)) hforward le_rfl
        (doneFrom_marked nodes (claims nodes roots))
      obtain rfl := Except.ok.inj (hset'.symm.trans hset)
      exact ⟨hvalues, hchildren, hbound, hforward, honce, (checkDepths_ok_iff hdone fun root hroot =>
        hbound root (mem_allValues_of_root hroot)).mp hcheck⟩
  · intro h
    have hclaims : ∀ i ∈ claims nodes roots, i < nodes.length := by
      intro i hi
      obtain ⟨value, hvalue, hi⟩ := List.mem_flatMap.mp hi
      exact h.inBounds value hvalue i hi
    obtain ⟨hnodup, hcover⟩ := (Forest.nodup_covers_iff hclaims).mpr h.claimedOnce
    obtain ⟨hpool, hroots⟩ := List.forall_mem_append.mp
      (visits_ok_iff.mpr ⟨h.values, h.children, h.inBounds, h.forward⟩)
    have hnodup' := hnodup
    rw [← kids_visits] at hnodup'
    have hpoolNodup := (List.nodup_append.mp hnodup').1
    obtain ⟨final, hset, hdone⟩ := setDepths_ok
      (fun i node hnode => h.inBounds _ (mem_allValues_of_getElem? hnode)) h.forward le_rfl
      (doneFrom_marked nodes (claims nodes roots))
    refine ⟨final, _, (checkAll_ok_iff List.nodup_nil).mpr ⟨hpool, hpoolNodup, rfl⟩, _,
      (checkAll_ok_iff hpoolNodup).mpr ⟨hroots, hnodup', rfl⟩, ?_⟩
    rw [kids_visits, findIdx?_marked.mpr hcover]
    simp only [hset, Checked.ok_bind]
    rw [(checkDepths_ok_iff hdone fun root hroot =>
      h.inBounds root (mem_allValues_of_root hroot)).mpr h.depth, Checked.ok_bind]

/-- Heights never exceed the number of nodes, so they fit the `u32` of the source. -/
theorem chain_le {nodes : List OtelLogValueNode} {roots : List OtelLogValue}
    (h : WellFormed nodes roots) {value : OtelLogValue} {d : Nat}
    (hchain : Forest.Chain (childValues nodes) value d) :
    ∀ i (node : OtelLogValueNode), nodes[i]? = some node → node.value = value →
      i + d ≤ nodes.length := by
  induction hchain with
  | single value =>
    intro i node hnode _
    exact (List.getElem?_eq_some_iff.mp hnode).1
  | cons hmem _ ih =>
    rintro i node hnode rfl
    obtain ⟨j, hj, child, hchild, rfl⟩ := mem_childValues.mp hmem
    have := ih j child hchild rfl
    have := h.forward i node hnode j hj
    omega

end OtelC.Logs
