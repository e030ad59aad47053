import OtelC.Lib.Run
import Mathlib.Algebra.GroupWithZero.Nat
import Mathlib.Data.List.Induction
import Mathlib.Data.List.Nodup
import Mathlib.Algebra.BigOperators.Group.List.Basic
import Mathlib.Algebra.Order.BigOperators.Group.List

/-!
# Keyed lists with a capacity

A list of records with distinct keys in insertion order.  `put` replaces the record with the
same key in place, or appends a new one while the list is below its capacity.

* `nodup_put`, `length_put_le`: what one step preserves.
* `sum_put_le`: a weight grows by at most the weight of the record put in.
* `foldl_put`: putting records in one after the other keeps, for the first `cap` distinct keys,
  the last record of each; `eq_lastWins_iff` says which records these are.
-/

namespace Keyed

variable {α κ : Type} [DecidableEq κ] (key : α → κ)

/-- The position of the record with this key. -/
def position (l : List α) (k : κ) : Option Nat :=
  l.findIdx? fun e => key e = k

/-- Replace the record with the key of `e`, or append `e` while there is room. -/
def put (cap : Nat) (l : List α) (e : α) : List α :=
  match position key l (key e) with
  | some i => l.set i e
  | none => if l.length < cap then l ++ [e] else l

/-- The last record with this key. -/
def lastWith (l : List α) (k : κ) : Option α :=
  l.reverse.find? fun e => key e = k

/-- The last record for each of the first `cap` distinct keys, in the order of the keys. -/
def lastWins (cap : Nat) (l : List α) : List α :=
  ((l.map key).eraseDups.take cap).filterMap (lastWith key l)

variable {key}

/-! ### Positions -/

theorem position_eq_none {l : List α} {k : κ} : position key l k = none ↔ k ∉ l.map key := by
  simp [position, List.findIdx?_eq_none_iff]

theorem position_eq_some {l : List α} {k : κ} {i : Nat} (h : position key l k = some i) :
    ∃ hi : i < l.length, key l[i] = k := by
  obtain ⟨hi, hk, -⟩ := List.findIdx?_eq_some_iff_getElem.mp h
  exact ⟨hi, by simpa using hk⟩

/-- Overwriting the record at a key's position overwrites every record with that key. -/
theorem set_position {l : List α} (hnodup : (l.map key).Nodup) {e : α} {i : Nat}
    (h : position key l (key e) = some i) :
    l.set i e = l.map fun x => if key x = key e then e else x := by
  obtain ⟨hi, hk⟩ := position_eq_some h
  refine List.ext_getElem (by simp) fun j hj hj' => ?_
  rw [List.getElem_set, List.getElem_map]
  by_cases hij : i = j
  · subst hij
    simp [hk]
  · have hjl : j < l.length := by simpa using hj
    have hne : key l[j] ≠ key e := by
      intro hkj
      have hi' : i < (l.map key).length := by simpa using hi
      have hj'' : j < (l.map key).length := by simpa using hjl
      have hget : (l.map key)[i] = (l.map key)[j] := by
        rw [List.getElem_map, List.getElem_map, hk, hkj]
      exact hij ((List.Nodup.getElem_inj_iff hnodup).mp hget)
    simp [hij, hne]

theorem map_key_set {l : List α} {e : α} {i : Nat} (h : position key l (key e) = some i) :
    (l.set i e).map key = l.map key := by
  obtain ⟨hi, hk⟩ := position_eq_some h
  have hi' : i < (l.map key).length := by simpa using hi
  have hget : (l.map key)[i] = key e := by rw [List.getElem_map, hk]
  rw [List.map_set, ← hget, List.set_getElem_self]

/-! ### One step -/

theorem nodup_set {l : List α} (hnodup : (l.map key).Nodup) {e : α} {i : Nat}
    (h : position key l (key e) = some i) : ((l.set i e).map key).Nodup := by
  rw [map_key_set h]
  exact hnodup

theorem nodup_append {l : List α} (hnodup : (l.map key).Nodup) {e : α}
    (h : position key l (key e) = none) : ((l ++ [e]).map key).Nodup := by
  rw [List.map_append, List.map_singleton, List.nodup_append]
  refine ⟨hnodup, List.nodup_singleton _, ?_⟩
  rintro a ha b hb rfl
  rw [List.mem_singleton] at hb
  exact position_eq_none.mp h (hb ▸ ha)

theorem nodup_put {cap : Nat} {l : List α} (hnodup : (l.map key).Nodup) (e : α) :
    ((put key cap l e).map key).Nodup := by
  unfold put
  split
  · rename_i i h
    exact nodup_set hnodup h
  · rename_i h
    split
    · exact nodup_append hnodup h
    · exact hnodup

theorem length_put_le {cap : Nat} {l : List α} (h : l.length ≤ cap) (e : α) :
    (put key cap l e).length ≤ cap := by
  unfold put
  split
  · simpa using h
  · split
    · rw [List.length_append, List.length_singleton]
      omega
    · exact h

theorem mem_put {cap : Nat} {l : List α} {e x : α} (h : x ∈ put key cap l e) : x = e ∨ x ∈ l := by
  unfold put at h
  split at h
  · rcases List.mem_or_eq_of_mem_set h with h | h
    · exact .inr h
    · exact .inl h
  · split at h
    · rcases List.mem_append.mp h with h | h
      · exact .inr h
      · exact .inl (List.mem_singleton.mp h)
    · exact .inr h

/-- Replacing a record changes a total by the difference of the two. -/
theorem sum_set {M : Type} [AddCommMonoid M] (w : α → M) {l : List α} {i : Nat} (hi : i < l.length)
    (e : α) : ((l.set i e).map w).sum + w l[i] = (l.map w).sum + w e := by
  induction l generalizing i with
  | nil => simp at hi
  | cons a l ih =>
    cases i with
    | zero =>
      simp only [List.set_cons_zero, List.map_cons, List.sum_cons, List.getElem_cons_zero]
      rw [add_right_comm, add_comm (w e), add_right_comm]
    | succ i =>
      simp only [List.set_cons_succ, List.map_cons, List.sum_cons, List.getElem_cons_succ]
      rw [add_assoc, ih (by simpa using hi), add_assoc]

variable (key) in
theorem sum_put_le (w : α → Nat) (cap : Nat) (l : List α) (e : α) :
    ((put key cap l e).map w).sum ≤ (l.map w).sum + w e := by
  unfold put
  split
  · rename_i i h
    obtain ⟨hi, -⟩ := position_eq_some h
    have := sum_set w hi e
    omega
  · split
    · simp
    · omega

/-! ### A whole run -/

variable (key) in
theorem nodup_foldl_put (cap : Nat) (es : List α) :
    ((es.foldl (put key cap) []).map key).Nodup :=
  Run.run_invariant (p := fun l : List α => (l.map key).Nodup) List.nodup_nil
    fun _ e _ h => nodup_put h e

variable (key) in
theorem length_foldl_put_le (cap : Nat) (es : List α) : (es.foldl (put key cap) []).length ≤ cap :=
  Run.run_invariant (p := fun l : List α => l.length ≤ cap) (by simp) fun _ e _ h => length_put_le h e

theorem mem_foldl_put {cap : Nat} {es : List α} {x : α} (h : x ∈ es.foldl (put key cap) []) :
    x ∈ es :=
  Run.run_invariant (p := fun l : List α => ∀ x ∈ l, x ∈ es) (by simp)
    (fun _ _ he hl x hx => (mem_put hx).elim (fun hxe => hxe ▸ he) (hl x)) x h

variable (key) in
theorem sum_foldl_put_le (w : α → Nat) (cap : Nat) (l es : List α) :
    ((es.foldl (put key cap) l).map w).sum ≤ (l.map w).sum + (es.map w).sum := by
  induction es generalizing l with
  | nil => simp
  | cons e es ih =>
    have hrest := ih (put key cap l e)
    have hput := sum_put_le key w cap l e
    simp only [List.foldl_cons, List.map_cons, List.sum_cons]
    omega

/-- Putting in records with new keys, as long as there is room, appends them. -/
theorem foldl_put_append {cap : Nat} {l es : List α} (hnodup : ((l ++ es).map key).Nodup)
    (hlen : (l ++ es).length ≤ cap) : es.foldl (put key cap) l = l ++ es := by
  induction es generalizing l with
  | nil => simp
  | cons e es ih =>
    have hnew : position key l (key e) = none := by
      rw [position_eq_none]
      rw [List.map_append, List.nodup_append] at hnodup
      exact fun hmem => hnodup.2.2 _ hmem _ (by simp) rfl
    have hput : put key cap l e = l ++ [e] := by
      have : l.length < cap := by
        simp only [List.length_append, List.length_cons] at hlen
        omega
      simp [put, hnew, this]
    rw [List.foldl_cons, hput, ih (by simpa using hnodup) (by simpa using hlen)]
    simp

/-! ### What a run keeps -/

theorem lastWith_concat (l : List α) (e : α) (k : κ) :
    lastWith key (l ++ [e]) k = if key e = k then some e else lastWith key l k := by
  rw [lastWith, List.reverse_append, List.reverse_singleton, List.singleton_append,
    List.find?_cons]
  by_cases h : key e = k <;> simp [h, lastWith]

theorem key_of_lastWith {l : List α} {k : κ} {x : α} (h : lastWith key l k = some x) :
    key x = k := by
  simpa using List.find?_some h

theorem lastWith_isSome {l : List α} {k : κ} (h : k ∈ l.map key) :
    ∃ x, lastWith key l k = some x := by
  rw [← Option.isSome_iff_exists, lastWith, List.find?_isSome]
  obtain ⟨e, he, hk⟩ := List.mem_map.mp h
  exact ⟨e, by simpa using he, by simpa using hk⟩

theorem eraseDups_concat (l : List κ) (k : κ) :
    (l ++ [k]).eraseDups = if k ∈ l then l.eraseDups else l.eraseDups ++ [k] := by
  rw [List.eraseDups_append]
  by_cases h : k ∈ l <;> simp [List.removeAll, h, List.eraseDups_cons]

variable (key) in
/-- Every kept key has a last record, so the kept records have exactly these keys. -/
theorem map_key_lastWins (cap : Nat) (l : List α) :
    (lastWins key cap l).map key = (l.map key).eraseDups.take cap := by
  have hsome : ∀ k ∈ (l.map key).eraseDups.take cap, (lastWith key l k).map key = some k := by
    intro k hk
    obtain ⟨x, hx⟩ := lastWith_isSome (List.mem_eraseDups.mp (List.mem_of_mem_take hk))
    rw [hx, Option.map_some, key_of_lastWith hx]
  rw [lastWins, List.map_filterMap, List.filterMap_congr hsome]
  exact List.filterMap_some

theorem length_lastWins (cap : Nat) (l : List α) :
    (lastWins key cap l).length = ((l.map key).eraseDups.take cap).length := by
  rw [← map_key_lastWins key, List.length_map]

/-- One more record: it replaces the last record of its key, or its key is one more. -/
theorem lastWins_concat {cap : Nat} {l : List α} (hnodup : ((lastWins key cap l).map key).Nodup)
    (e : α) : lastWins key cap (l ++ [e]) = put key cap (lastWins key cap l) e := by
  have hkeys := map_key_lastWins key cap l
  by_cases hkept : key e ∈ (l.map key).eraseDups.take cap
  · have hmem : key e ∈ l.map key := List.mem_eraseDups.mp (List.mem_of_mem_take hkept)
    obtain ⟨i, hi⟩ : ∃ i, position key (lastWins key cap l) (key e) = some i := by
      rw [← Option.ne_none_iff_exists', Ne, position_eq_none, hkeys, not_not]
      exact hkept
    rw [put, hi]
    simp only [set_position hnodup hi]
    rw [lastWins, List.map_append, List.map_singleton, eraseDups_concat, if_pos hmem, lastWins,
      List.map_filterMap]
    refine List.filterMap_congr fun k hk => ?_
    rw [lastWith_concat]
    obtain ⟨x, hx⟩ := lastWith_isSome (List.mem_eraseDups.mp (List.mem_of_mem_take hk))
    by_cases hke : key e = k
    · simp [hx, hke, key_of_lastWith hx]
    · simp [hx, hke, key_of_lastWith hx, Ne.symm hke]
  · have hpos : position key (lastWins key cap l) (key e) = none := by
      rw [position_eq_none, hkeys]
      exact hkept
    have hlast : ∀ k ∈ (l.map key).eraseDups.take cap,
        lastWith key (l ++ [e]) k = lastWith key l k := by
      intro k hk
      rw [lastWith_concat, if_neg]
      rintro rfl
      exact hkept hk
    rw [put, hpos]
    simp only [length_lastWins, List.length_take]
    rw [lastWins, List.map_append, List.map_singleton, eraseDups_concat]
    by_cases hmem : key e ∈ l.map key
    · have hfull : ¬min cap (l.map key).eraseDups.length < cap := by
        intro hroom
        have hall : (l.map key).eraseDups.take cap = (l.map key).eraseDups :=
          List.take_of_length_le (by omega)
        rw [hall] at hkept
        exact hkept (List.mem_eraseDups.mpr hmem)
      rw [if_pos hmem, if_neg hfull, List.filterMap_congr hlast, lastWins]
    · rw [if_neg hmem]
      by_cases hroom : (l.map key).eraseDups.length < cap
      · have hall : (l.map key).eraseDups.take cap = (l.map key).eraseDups :=
          List.take_of_length_le (by omega)
        rw [hall] at hlast
        rw [if_pos (by omega), List.take_of_length_le (by simp; omega), List.filterMap_append,
          List.filterMap_congr hlast, lastWins, hall]
        simp [lastWith_concat]
      · rw [if_neg (by omega), List.take_append_of_le_length (by omega),
          List.filterMap_congr hlast, lastWins]

/-- **A run keeps the last record of each of the first `cap` distinct keys.** -/
theorem foldl_put (cap : Nat) (es : List α) :
    es.foldl (put key cap) [] = lastWins key cap es := by
  induction es using List.reverseRecOn with
  | nil => simp [lastWins]
  | append_singleton es e ih =>
    have hnodup := nodup_foldl_put key cap es
    rw [ih] at hnodup
    rw [List.foldl_append, ih, lastWins_concat hnodup]
    rfl

theorem lastWith_eq_some_iff {l : List α} {k : κ} {x : α} : lastWith key l k = some x ↔
    key x = k ∧ ∃ before after, l = before ++ x :: after ∧ ∀ y ∈ after, key y ≠ k := by
  rw [lastWith, List.find?_eq_some_iff_append, decide_eq_true_iff]
  refine and_congr_right fun _ => ⟨?_, ?_⟩
  · rintro ⟨after, before, hl, hafter⟩
    refine ⟨before.reverse, after.reverse, ?_, fun y hy => ?_⟩
    · rw [List.reverse_eq_iff.mp hl, List.reverse_append, List.reverse_cons, List.append_assoc]
      rfl
    · simpa using hafter y (List.mem_reverse.mp hy)
  · rintro ⟨before, after, rfl, hafter⟩
    refine ⟨after.reverse, before.reverse, ?_, fun y hy => ?_⟩
    · rw [List.reverse_append, List.reverse_cons, List.append_assoc]
      rfl
    · simpa using hafter y (List.mem_reverse.mp hy)

variable (key) in
/-- The first `cap` distinct keys of a list of records, in the order in which they come up, each with
the last record that has it. -/
def LastWins (cap : Nat) (l kept : List α) : Prop :=
  kept.map key = (l.map key).eraseDups.take cap ∧
    ∀ e ∈ kept, ∃ before after, l = before ++ e :: after ∧ ∀ x ∈ after, key x ≠ key e

/-- What stands at the end of a run, told from the records that were put in. -/
theorem eq_lastWins_iff {cap : Nat} {l kept : List α} :
    kept = lastWins key cap l ↔ LastWins key cap l kept := by
  constructor
  · rintro rfl
    refine ⟨map_key_lastWins key cap l, fun e he => ?_⟩
    obtain ⟨k, -, hk⟩ := List.mem_filterMap.mp he
    obtain ⟨rfl, hlast⟩ := lastWith_eq_some_iff.mp hk
    exact hlast
  · rintro ⟨hkeys, hlast⟩
    have hsome : ∀ e ∈ kept, (lastWith key l ∘ key) e = some e :=
      fun e he => lastWith_eq_some_iff.mpr ⟨rfl, hlast e he⟩
    rw [lastWins, ← hkeys, List.filterMap_map, List.filterMap_congr hsome, List.filterMap_some]

theorem mem_lastWins {cap : Nat} {es : List α} {x : α} (h : x ∈ lastWins key cap es) : x ∈ es := by
  rw [← foldl_put] at h
  exact mem_foldl_put h

variable (key) in
/-- The records that stand weigh no more than all of them. -/
theorem sum_lastWins_le (w : α → Nat) (cap : Nat) (es : List α) :
    ((lastWins key cap es).map w).sum ≤ (es.map w).sum := by
  have h := sum_foldl_put_le key w cap [] es
  rw [foldl_put, List.map_nil, List.sum_nil, Nat.zero_add] at h
  exact h

/-- Distinct keys within the capacity all stand. -/
theorem lastWins_of_nodup {cap : Nat} {es : List α} (hnodup : (es.map key).Nodup)
    (hlen : es.length ≤ cap) : lastWins key cap es = es := by
  rw [← foldl_put]
  exact foldl_put_append hnodup hlen

end Keyed
