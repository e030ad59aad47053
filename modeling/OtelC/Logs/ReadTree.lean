import OtelC.Logs.AnyValue
import OtelC.Logs.Converter

/-!
# Trees that are read from a pool

What a reader finds in a well-formed pool keeps the limits of the pool.

* `height_le_of_read`, `readValue_height`: a tree is read in as many levels as it is high.
* `mapsOk_fits_of_read`: the limits of the values and of the keys.
* `belowRoots_eq_length`: the trees of the roots have one value for each node, besides the roots.
-/

namespace OtelC.Logs

variable {nodes : List OtelLogValueNode}

/-! ### Heights -/

theorem forall_mem_of_forall₂ {α β : Type} {r : α → β → Prop} {p : β → Prop} {l : List α}
    {l' : List β} (h : List.Forall₂ r l l') (hp : ∀ a ∈ l, ∀ b, r a b → p b) : ∀ b ∈ l', p b := by
  induction h with
  | nil => exact fun b hb => by cases hb
  | cons hhead _ ih =>
    refine List.forall_mem_cons.mpr ⟨hp _ (by simp) _ hhead, ih fun a ha => hp a (by simp [ha])⟩

/-- The children of a tree that was read were read one level down. -/
theorem children_of_read {levels : Nat} {value : OtelLogValue} {v : AnyValue}
    (h : readValue nodes (levels + 1) value = some v) :
    List.Forall₂ (ReadsItem nodes levels) value.kids v.children := by
  cases htag : value.tag with
  | none => simp [readValue, htag] at h
  | some tag =>
    have hleaf : ∀ {w : AnyValue}, ¬tag.IsContainer → w.children = [] →
        List.Forall₂ (ReadsItem nodes levels) value.kids w.children := by
      intro w hscalar hchildren
      rw [kids_of_scalar htag hscalar, hchildren]
      exact .nil
    cases tag with
    | array =>
      obtain ⟨items, hitems, rfl⟩ := (readValue_array htag).mp h
      exact hitems
    | map =>
      obtain ⟨entries, hentries, rfl⟩ := (readValue_map htag).mp h
      rw [AnyValue.children, List.forall₂_map_right_iff]
      exact hentries.imp fun _ _ hentry => hentry.2
    | empty => simp [readValue, htag] at h
    | string =>
      simp only [readValue, htag, Option.map_eq_some_iff] at h
      obtain ⟨s, -, rfl⟩ := h
      exact hleaf (by decide) rfl
    | bytes =>
      simp only [readValue, htag, Option.map_eq_some_iff] at h
      obtain ⟨b, -, rfl⟩ := h
      exact hleaf (by decide) rfl
    | bool =>
      simp only [readValue, htag, Option.some.injEq] at h
      subst h
      exact hleaf (by decide) rfl
    | int64 =>
      simp only [readValue, htag, Option.some.injEq] at h
      subst h
      exact hleaf (by decide) rfl
    | double =>
      simp only [readValue, htag, Option.some.injEq] at h
      subst h
      exact hleaf (by decide) rfl

theorem height_le_of_read {levels : Nat} {value : OtelLogValue} {v : AnyValue}
    (h : readValue nodes levels value = some v) : v.height ≤ levels := by
  induction levels generalizing value v with
  | zero => simp [readValue] at h
  | succ levels ih =>
    rw [AnyValue.height_eq]
    refine Nat.succ_le_succ (Forest.maxOf_le_iff.mpr ?_)
    refine forall_mem_of_forall₂ (children_of_read h) ?_
    intro j _ child hitem
    obtain ⟨node, hnode, hread⟩ := hitem
    exact ih hread

theorem forall₂_imp_mem {α β : Type} {r r' : α → β → Prop} {l : List α} {l' : List β}
    (h : List.Forall₂ r l l') (himp : ∀ a, ∀ b ∈ l', r a b → r' a b) : List.Forall₂ r' l l' := by
  induction h with
  | nil => exact .nil
  | cons hhead _ ih =>
    exact .cons (himp _ _ (by simp) hhead) (ih fun a b hb => himp a b (by simp [hb]))

/-- A tree is read with other levels if its children are. -/
theorem readValue_of_children {levels levels' : Nat} {value : OtelLogValue} {v : AnyValue}
    (h : readValue nodes (levels + 1) value = some v)
    (hchildren : ∀ j, ∀ child ∈ v.children, ReadsItem nodes levels j child →
      ReadsItem nodes levels' j child) : readValue nodes (levels' + 1) value = some v := by
  cases htag : value.tag with
  | none => simp [readValue, htag] at h
  | some tag =>
    by_cases hcontainer : tag.IsContainer
    · rcases hcontainer with rfl | rfl
      · obtain ⟨items, hitems, rfl⟩ := (readValue_array htag).mp h
        exact (readValue_array htag).mpr ⟨items, forall₂_imp_mem hitems hchildren, rfl⟩
      · obtain ⟨entries, hentries, rfl⟩ := (readValue_map htag).mp h
        refine (readValue_map htag).mpr ⟨entries, forall₂_imp_mem hentries ?_, rfl⟩
        intro j entry hentry hread
        exact ⟨hread.1, hchildren j _ (List.mem_map_of_mem hentry) hread.2⟩
    · rw [readValue_scalar htag hcontainer levels' levels]
      exact h

/-- A tree is read in as many levels as it is high. -/
theorem readValue_height {value : OtelLogValue} {v : AnyValue} (h : Reads nodes value v) :
    readValue nodes v.height value = some v := by
  obtain ⟨levels, h⟩ := h
  induction levels generalizing value v with
  | zero => simp [readValue] at h
  | succ levels ih =>
    rw [AnyValue.height_eq]
    apply readValue_of_children h
    intro j child hchild hread
    obtain ⟨node, hnode, hread⟩ := hread
    exact ⟨node, hnode, readValue_mono (Forest.le_maxOf hchild) (ih hread)⟩

/-! ### Limits -/

/-- A tree that was read from values in order is in order. -/
theorem mapsOk_fits_of_read {roots : List OtelLogValue} (hwf : WellFormed nodes roots)
    {levels : Nat} {value : OtelLogValue} {v : AnyValue} (hvalue : value ∈ allValues nodes roots)
    (h : readValue nodes levels value = some v) : v.MapsOk ∧ v.Fits := by
  induction levels generalizing value v with
  | zero => simp [readValue] at h
  | succ levels ih =>
    have hbelow : ∀ child ∈ v.children, child.MapsOk ∧ child.Fits :=
      forall_mem_of_forall₂ (children_of_read h) fun j _ child hread => by
        obtain ⟨node, hnode, hread⟩ := hread
        exact ih (mem_allValues_of_getElem? hnode) hread
    rw [AnyValue.mapsOk_iff, AnyValue.fits_iff]
    suffices hhere : v.KeysOk ∧ v.PayloadFits from
      ⟨⟨hhere.1, fun child hchild => (hbelow child hchild).1⟩,
        hhere.2, fun child hchild => (hbelow child hchild).2⟩
    have hok := hwf.values value hvalue
    have hchildren := hwf.children value hvalue
    cases htag : value.tag with
    | none => simp [readValue, htag] at h
    | some tag =>
      cases tag with
      | empty => simp [readValue, htag] at h
      | string =>
        simp only [readValue, htag, Option.map_eq_some_iff, toOption_eq_some] at h
        obtain ⟨s, hs, rfl⟩ := h
        obtain ⟨s', hs', hlen⟩ := hok.string htag
        obtain rfl := Except.ok.inj (hs.symm.trans hs')
        exact ⟨trivial, hlen⟩
      | bytes =>
        simp only [readValue, htag, Option.map_eq_some_iff, toOption_eq_some] at h
        obtain ⟨b, hb, rfl⟩ := h
        obtain ⟨b', hb', hlen⟩ := hok.bytes htag
        obtain rfl := Except.ok.inj (hb.symm.trans hb')
        exact ⟨trivial, hlen⟩
      | bool =>
        simp only [readValue, htag, Option.some.injEq] at h
        subst h
        exact ⟨trivial, trivial⟩
      | int64 =>
        simp only [readValue, htag, Option.some.injEq] at h
        subst h
        exact ⟨trivial, trivial⟩
      | double =>
        simp only [readValue, htag, Option.some.injEq] at h
        subst h
        exact ⟨trivial, trivial⟩
      | array =>
        obtain ⟨items, hitems, rfl⟩ := (readValue_array htag).mp h
        refine ⟨trivial, ?_⟩
        show items.length ≤ maxArrayElements
        rw [← hitems.length_eq]
        exact (hchildren.array htag).1
      | map =>
        obtain ⟨entries, hentries, rfl⟩ := (readValue_map htag).mp h
        obtain ⟨hcount, hkeys, hnodup⟩ := hchildren.map htag
        have hmap : value.kids.map (keyAt nodes) = (entries.map Prod.fst).map some := by
          rw [← List.forall₂_eq_eq_eq, List.forall₂_map_left_iff, List.map_map,
            List.forall₂_map_right_iff]
          exact hentries.imp fun _ _ hentry => hentry.1
        rw [hmap] at hnodup
        have hentry : ∀ entry ∈ entries, entry.1 ≠ [] ∧ entry.1.len ≤ maxStringLen :=
          forall_mem_of_forall₂ hentries fun j hj entry hentry => by
            obtain ⟨key, hkey, hne, hlen⟩ := hkeys j hj
            obtain rfl := Option.some.inj (hkey.symm.trans hentry.1)
            exact ⟨hne, hlen⟩
        refine ⟨⟨hnodup.of_map, fun entry he => (hentry entry he).1⟩, ?_,
          fun entry he => (hentry entry he).2⟩
        rw [← hentries.length_eq]
        exact hcount

/-! ### Sizes -/

/-- The children of a tree that was read have the sizes of the trees at their nodes. -/
theorem sizes_of_read {trees : List AnyValue}
    (htrees : List.Forall₂ (fun node t => Reads nodes (OtelLogValueNode.value node) t) nodes trees)
    {value : OtelLogValue} {v : AnyValue} (h : Reads nodes value v) :
    v.children.map AnyValue.size = value.kids.map fun j => (trees[j]?.map AnyValue.size).getD 0 := by
  obtain ⟨levels, h⟩ := h
  cases levels with
  | zero => simp [readValue] at h
  | succ levels =>
    have hchildren := children_of_read h
    rw [eq_comm, ← List.forall₂_eq_eq_eq, List.forall₂_map_left_iff, List.forall₂_map_right_iff]
    refine hchildren.imp fun j child hread => ?_
    obtain ⟨node, hnode, hread⟩ := hread
    obtain ⟨hj, rfl⟩ := List.getElem?_eq_some_iff.mp hnode
    have hj' : j < trees.length := by rwa [← htrees.length_eq]
    have hunique := Reads.unique (htrees.get hj hj') ⟨levels, hread⟩
    rw [List.getElem?_eq_getElem hj']
    exact congrArg AnyValue.size hunique

theorem belowRoots_of_reads {trees : List AnyValue}
    (htrees : List.Forall₂ (fun node t => Reads nodes (OtelLogValueNode.value node) t) nodes trees)
    {values : List OtelLogValue} {vs : List AnyValue} (h : List.Forall₂ (Reads nodes) values vs) :
    belowRoots vs = ((values.flatMap OtelLogValue.kids).map fun j =>
      (trees[j]?.map AnyValue.size).getD 0).sum := by
  induction h with
  | nil => rfl
  | cons hread _ ih =>
    rw [List.flatMap_cons, List.map_append, List.sum_append, ← ih, ← sizes_of_read htrees hread]
    rfl

/-- **The trees of the roots have one value for each node**, besides the roots themselves. -/
theorem belowRoots_eq_length {roots : List OtelLogValue} (hwf : WellFormed nodes roots)
    {values : List AnyValue} (h : List.Forall₂ (Reads nodes) roots values) :
    belowRoots values = nodes.length := by
  obtain ⟨trees, htrees⟩ : ∃ trees, List.Forall₂
      (fun node t => Reads nodes (OtelLogValueNode.value node) t) nodes trees := by
    refine forall₂_of_forall_exists fun node hnode => ?_
    obtain ⟨i, hi⟩ := List.mem_iff_getElem?.mp hnode
    obtain ⟨v, hv⟩ := readValue_of_wellFormed hwf (mem_allValues_of_getElem? hi)
      fun d hd => Nat.le_of_add_left_le (chain_le hwf hd i node hi rfl)
    exact ⟨v, _, hv⟩
  have hnodes : List.Forall₂ (Reads nodes) (nodes.map OtelLogValueNode.value) trees :=
    List.forall₂_map_left_iff.mpr htrees
  have hall := belowRoots_of_reads htrees (List.rel_append hnodes h)
  have hsum : ((List.range nodes.length).map fun j => (trees[j]?.map AnyValue.size).getD 0) =
      trees.map AnyValue.size := by
    rw [htrees.length_eq]
    refine List.ext_getElem (by simp) fun j hj hj' => ?_
    have hj : j < trees.length := by simpa using hj'
    simp [hj]
  have hperm := ((claims_perm hwf).map fun j => (trees[j]?.map AnyValue.size).getD 0).sum_nat
  rw [claims, allValues, ← hall, hsum, sum_size_eq, belowRoots_append, ← htrees.length_eq] at hperm
  omega

end OtelC.Logs
