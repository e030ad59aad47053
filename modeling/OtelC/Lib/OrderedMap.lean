import OtelC.Lib.Keyed

/-!
# Maps in the order of their keys

A finite map that keeps its keys in the order in which they came in.  A key that is there already
keeps its place when something else is put under it.

* `Represents`: a list of records with distinct keys spells such a map.
* `represents_set`, `represents_append`, `represents_eraseIdx`: what the operations on the list
  come to.
* `Represents.values_eq`: the records are the values of the map, in order.
-/

/-- A finite map with an order on its keys. -/
structure OrderedMap (κ α : Type) where
  keys : List κ
  find : κ → Option α
  nodup : keys.Nodup
  mem_keys : ∀ k, k ∈ keys ↔ (find k).isSome = true

namespace OrderedMap

variable {κ α : Type}

def empty : OrderedMap κ α where
  keys := []
  find _ := none
  nodup := List.nodup_nil
  mem_keys _ := by simp

def count (m : OrderedMap κ α) : Nat := m.keys.length

/-- What is in the map, in the order of the keys. -/
def values (m : OrderedMap κ α) : List α := m.keys.filterMap m.find

variable [DecidableEq κ]

def insert (m : OrderedMap κ α) (k : κ) (a : α) : OrderedMap κ α where
  keys := if (m.find k).isSome then m.keys else m.keys ++ [k]
  find := Function.update m.find k (some a)
  nodup := by
    split
    · exact m.nodup
    · rename_i hnew
      refine List.nodup_append.mpr ⟨m.nodup, List.nodup_singleton k, fun x hx y hy => ?_⟩
      rintro rfl
      obtain rfl := List.mem_singleton.mp hy
      exact hnew ((m.mem_keys _).mp hx)
  mem_keys x := by
    by_cases hx : x = k
    · subst hx
      rw [Function.update_self, Option.isSome_some]
      split
      · rename_i hold
        exact iff_of_true ((m.mem_keys x).mpr hold) rfl
      · exact iff_of_true (List.mem_append_right _ (List.mem_singleton_self x)) rfl
    · rw [Function.update_of_ne hx]
      refine Iff.trans ?_ (m.mem_keys x)
      split
      · rfl
      · rw [List.mem_append, List.mem_singleton, or_iff_left hx]

def erase (m : OrderedMap κ α) (k : κ) : OrderedMap κ α where
  keys := m.keys.erase k
  find := Function.update m.find k none
  nodup := m.nodup.erase k
  mem_keys x := by
    rw [m.nodup.mem_erase_iff]
    by_cases hx : x = k
    · subst hx
      simp
    · rw [Function.update_of_ne hx, ← m.mem_keys, and_iff_right hx]

/-! ### Lists of records -/

/-- The list spells the map. -/
structure Represents (key : α → κ) (l : List α) (m : OrderedMap κ α) : Prop where
  keys : m.keys = l.map key
  find : ∀ k, m.find k = l.find? fun e => key e = k

variable {key : α → κ} {l : List α} {m : OrderedMap κ α}

theorem represents_empty : Represents key [] (empty : OrderedMap κ α) := ⟨rfl, fun _ => rfl⟩

theorem Represents.nodup (h : Represents key l m) : (l.map key).Nodup := h.keys ▸ m.nodup

theorem Represents.count_eq (h : Represents key l m) : m.count = l.length := by
  rw [count, h.keys, List.length_map]

theorem find?_eq_some_of_mem (hnodup : (l.map key).Nodup) {e : α} (he : e ∈ l) :
    (l.find? fun x => key x = key e) = some e := by
  induction l with
  | nil => cases he
  | cons x l ih =>
    rw [List.map_cons, List.nodup_cons] at hnodup
    rcases List.mem_cons.mp he with rfl | he
    · exact List.find?_cons_of_pos (decide_eq_true rfl)
    · have hne : key x ≠ key e := fun heq => hnodup.1 (heq ▸ List.mem_map_of_mem he)
      rw [List.find?_cons_of_neg (by simpa using hne)]
      exact ih hnodup.2 he

theorem Represents.values_eq (h : Represents key l m) : m.values = l := by
  have hfind : ∀ e ∈ l, (m.find ∘ key) e = some e := by
    intro e he
    rw [Function.comp_apply, h.find]
    exact find?_eq_some_of_mem h.nodup he
  rw [values, h.keys, List.filterMap_map, List.filterMap_congr hfind, List.filterMap_some]

/-- Whether a key is there shows in its position. -/
theorem Represents.find_isSome (h : Represents key l m) (k : κ) :
    (m.find k).isSome = (Keyed.position key l k).isSome := by
  rw [Bool.eq_iff_iff, ← m.mem_keys, h.keys, Option.isSome_iff_ne_none, Ne,
    Keyed.position_eq_none, not_not]

theorem represents_set (h : Represents key l m) {e : α} {i : Nat}
    (hi : Keyed.position key l (key e) = some i) :
    Represents key (l.set i e) (m.insert (key e) e) where
  keys := by
    have hthere : (m.find (key e)).isSome = true := by
      rw [h.find_isSome, hi]
      rfl
    rw [Keyed.map_key_set hi, ← h.keys]
    exact if_pos hthere
  find k := by
    rw [Keyed.set_position h.nodup hi, List.find?_map]
    have hkey : ((fun x => decide (key x = k)) ∘ fun x => if key x = key e then e else x) =
        fun x => decide (key x = k) := by
      funext x
      by_cases hx : key x = key e
      · simp [hx]
      · simp [hx]
    rw [hkey, ← h.find]
    by_cases hk : k = key e
    · subst hk
      obtain ⟨x, hx⟩ := Option.isSome_iff_exists.mp (show (m.find (key e)).isSome = true by
        rw [h.find_isSome, hi]
        rfl)
      have hxk : key x = key e := by
        rw [h.find] at hx
        simpa using List.find?_some hx
      rw [hx, Option.map_some, if_pos hxk]
      exact Function.update_self _ _ _
    · refine (Function.update_of_ne hk _ _).trans ?_
      cases hx : m.find k with
      | none => rfl
      | some x =>
        have hxk : key x = k := by
          rw [h.find] at hx
          simpa using List.find?_some hx
        rw [Option.map_some, if_neg (hxk ▸ hk)]

theorem represents_append (h : Represents key l m) {e : α}
    (hi : Keyed.position key l (key e) = none) :
    Represents key (l ++ [e]) (m.insert (key e) e) where
  keys := by
    have hnew : ¬(m.find (key e)).isSome = true := by
      rw [h.find_isSome, hi]
      exact Bool.false_ne_true
    rw [List.map_append, ← h.keys]
    exact if_neg hnew
  find k := by
    rw [List.find?_append, ← h.find]
    by_cases hk : k = key e
    · subst hk
      have hnone : m.find (key e) = none := by
        rw [← Option.not_isSome_iff_eq_none, h.find_isSome, hi]
        exact Bool.false_ne_true
      have hself : ([e].find? fun x => key x = key e) = some e := by simp
      rw [hnone, hself]
      exact Function.update_self _ _ _
    · have hother : ([e].find? fun x => key x = k) = none := by simp [Ne.symm hk]
      rw [hother, Option.or_none]
      exact Function.update_of_ne hk _ _

/-- To erase the record at the position of a key is to filter it out. -/
theorem eraseIdx_position (hnodup : (l.map key).Nodup) {k : κ} {i : Nat}
    (hi : Keyed.position key l k = some i) : l.eraseIdx i = l.filter fun e => key e ≠ k := by
  induction l generalizing i with
  | nil => cases hi
  | cons x l ih =>
    rw [List.map_cons, List.nodup_cons] at hnodup
    rw [Keyed.position, List.findIdx?_cons] at hi
    by_cases hx : key x = k
    · rw [if_pos (decide_eq_true hx)] at hi
      obtain rfl := Option.some.inj hi
      have hall : ∀ e ∈ l, decide (key e ≠ k) = true := by
        intro e he
        refine decide_eq_true fun heq => hnodup.1 ?_
        rw [hx, ← heq]
        exact List.mem_map_of_mem he
      rw [List.eraseIdx_cons_zero, List.filter_cons_of_neg (by simpa using hx),
        List.filter_eq_self.mpr hall]
    · rw [if_neg (by simpa using hx)] at hi
      obtain ⟨j, hj, rfl⟩ := Option.map_eq_some_iff.mp hi
      rw [List.eraseIdx_cons_succ, List.filter_cons_of_pos (by simpa using hx), ih hnodup.2 hj]

theorem represents_eraseIdx (h : Represents key l m) {k : κ} {i : Nat}
    (hi : Keyed.position key l k = some i) : Represents key (l.eraseIdx i) (m.erase k) where
  keys := by
    rw [eraseIdx_position h.nodup hi]
    show m.keys.erase k = _
    rw [m.nodup.erase_eq_filter, h.keys, List.filter_map]
    refine congrArg (List.map key) (List.filter_congr fun e _ => ?_)
    by_cases he : key e = k
    · simp [he]
    · simp [he]
  find x := by
    rw [eraseIdx_position h.nodup hi, List.find?_filter]
    by_cases hx : x = k
    · subst hx
      refine (Function.update_self _ _ _).trans (Eq.symm (List.find?_eq_none.mpr fun e _ => ?_))
      simp
    · have hfilter : (fun e => decide (key e = x)) =
          fun e => decide (decide (key e ≠ k) = true ∧ decide (key e = x) = true) := by
        funext e
        by_cases he : key e = x
        · simp [he, hx]
        · simp [he]
      rw [← hfilter, ← h.find]
      exact Function.update_of_ne hx _ _

/-- A key that is not there can be erased. -/
theorem represents_erase_none (h : Represents key l m) {k : κ}
    (hi : Keyed.position key l k = none) : Represents key l (m.erase k) where
  keys := by
    have hnot : k ∉ m.keys := by
      rw [m.mem_keys, h.find_isSome, hi]
      exact Bool.false_ne_true
    exact (List.erase_of_not_mem hnot).trans h.keys
  find x := by
    by_cases hx : x = k
    · subst hx
      have hnone : m.find x = none := by
        rw [← Option.not_isSome_iff_eq_none, h.find_isSome, hi]
        exact Bool.false_ne_true
      exact (Function.update_self _ _ _).trans (hnone.symm.trans (h.find x))
    · exact (Function.update_of_ne hx _ _).trans (h.find x)

end OrderedMap
