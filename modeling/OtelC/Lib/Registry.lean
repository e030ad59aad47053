import Mathlib.Data.List.Basic
import OtelC.Lib.Ticket

/-!
# Registrations in scope

Every thread keeps a list of what is registered on it, each entry under a token that a wrapping
64-bit counter of the process hands out.  A registration is made where a scope begins and taken back
where it ends, and the scopes of one thread are nested.

* `unregister_register`: the end of a scope takes out what its beginning put in.
* `Tracks`: what the lists have to do with the scopes that have begun and not ended, kept by every
  operation (`Tracks.register`, `Tracks.unregister`, `Tracks.skip`).
* `Tracks.lookup_iff`, `Tracks.lookup_issued_iff`: with fewer than `2 ^ 64` registrations a token
  finds an entry exactly on the thread and during the scope it was handed out for.
-/

namespace Registry

variable {ε : Type}

/-! ### The list of one thread -/

/-- The last entry under a token. -/
def lookup (entries : List (UInt64 × ε)) (token : UInt64) : Option ε :=
  entries.reverse.findSome? fun x => if x.1 = token then some x.2 else none

/-- The list without the last entry under a token. -/
def remove (entries : List (UInt64 × ε)) (token : UInt64) : List (UInt64 × ε) :=
  (entries.reverse.eraseP fun x => x.1 = token).reverse

theorem remove_concat (entries : List (UInt64 × ε)) (token : UInt64) (entry : ε) :
    remove (entries ++ [(token, entry)]) token = entries := by
  have hlast : ((token, entry) :: entries.reverse).eraseP (fun x => x.1 = token) = entries.reverse :=
    List.eraseP_cons_of_pos (decide_eq_true rfl)
  rw [remove, List.reverse_concat, hlast, List.reverse_reverse]

theorem mem_of_lookup {entries : List (UInt64 × ε)} {token : UInt64} {entry : ε}
    (h : lookup entries token = some entry) : (token, entry) ∈ entries := by
  obtain ⟨x, hx, hmatch⟩ := List.exists_of_findSome?_eq_some h
  split at hmatch
  · rename_i htoken
    obtain rfl := htoken
    obtain rfl := Option.some.inj hmatch
    exact List.mem_reverse.mp hx
  · cases hmatch

theorem lookup_eq_none_iff {entries : List (UInt64 × ε)} {token : UInt64} :
    lookup entries token = none ↔ token ∉ entries.map Prod.fst := by
  rw [lookup, List.findSome?_eq_none_iff]
  constructor
  · intro h hmem
    obtain ⟨x, hx, hfst⟩ := List.mem_map.mp hmem
    have hnone := h x (List.mem_reverse.mpr hx)
    rw [if_pos hfst] at hnone
    cases hnone
  · intro h x hx
    exact if_neg fun hfst => h (List.mem_map.mpr ⟨x, List.mem_reverse.mp hx, hfst⟩)

theorem lookup_eq_some_iff {entries : List (UInt64 × ε)} (hnodup : (entries.map Prod.fst).Nodup)
    {token : UInt64} {entry : ε} :
    lookup entries token = some entry ↔ (token, entry) ∈ entries := by
  refine ⟨mem_of_lookup, fun hmem => ?_⟩
  cases hfound : lookup entries token with
  | none => exact absurd (List.mem_map_of_mem hmem) (lookup_eq_none_iff.mp hfound)
  | some other =>
    have hsame := List.inj_on_of_nodup_map hnodup hmem (mem_of_lookup hfound) rfl
    rw [(Prod.mk.inj hsame).2]

/-! ### The lists of all threads -/

/-- The counter and the lists, with the tokens handed out so far. -/
structure ThreadLists (ε : Type) where
  counter : UInt64
  entries : Nat → List (UInt64 × ε)
  issued : List UInt64

def ThreadLists.initial : ThreadLists ε := ⟨1, fun _ => [], []⟩

/-- A scope that has begun: which registration it is, and the list it found. -/
structure Scope (ε : Type) where
  index : Nat
  token : UInt64
  entry : ε
  before : List (UInt64 × ε)

/-- Taking the token zero only moves the counter on. -/
def ThreadLists.skip (lists : ThreadLists ε) : ThreadLists ε :=
  { lists with counter := lists.counter + 1 }

def ThreadLists.register (lists : ThreadLists ε) (thread : Nat) (entry : ε) : ThreadLists ε where
  counter := lists.counter + 1
  entries := Function.update lists.entries thread
    (lists.entries thread ++ [(lists.counter, entry)])
  issued := lists.issued ++ [lists.counter]

def ThreadLists.unregister (lists : ThreadLists ε) (thread : Nat) (token : UInt64) : ThreadLists ε :=
  { lists with
    entries := Function.update lists.entries thread (remove (lists.entries thread) token) }

/-- The scope that a registration begins. -/
def ThreadLists.scope (lists : ThreadLists ε) (thread : Nat) (entry : ε) : Scope ε :=
  ⟨lists.issued.length, lists.counter, entry, lists.entries thread⟩

def Scope.item (scope : Scope ε) : UInt64 × ε := (scope.token, scope.entry)

@[simp] theorem register_entries_self (lists : ThreadLists ε) (thread : Nat) (entry : ε) :
    (lists.register thread entry).entries thread =
      lists.entries thread ++ [(lists.counter, entry)] := Function.update_self _ _ _

theorem register_entries_of_ne (lists : ThreadLists ε) {thread other : Nat} (entry : ε)
    (h : other ≠ thread) : (lists.register thread entry).entries other = lists.entries other :=
  Function.update_of_ne h _ _

theorem length_issued_register (lists : ThreadLists ε) (thread : Nat) (entry : ε) :
    (lists.register thread entry).issued.length = lists.issued.length + 1 := by
  show (lists.issued ++ [lists.counter]).length = _
  rw [List.length_append, List.length_singleton]

theorem unregister_register (lists : ThreadLists ε) (thread : Nat) (entry : ε) :
    ((lists.register thread entry).unregister thread lists.counter).entries = lists.entries := by
  rw [ThreadLists.unregister, register_entries_self, remove_concat]
  show Function.update (Function.update lists.entries thread _) thread (lists.entries thread) = _
  rw [Function.update_idem, Function.update_eq_self]

/-! ### Nested scopes -/

/-- The scopes of one thread, the innermost first: each was begun with the list that the scopes
around it make up, and the list now is what all of them make up. -/
inductive Nested : List (UInt64 × ε) → List (Scope ε) → Prop where
  | nil : Nested [] []
  | cons {scope : Scope ε} {outer : List (Scope ε)} (h : Nested scope.before outer) :
      Nested (scope.before ++ [scope.item]) (scope :: outer)

theorem Nested.entries_eq {entries : List (UInt64 × ε)} {scopes : List (Scope ε)}
    (h : Nested entries scopes) : entries = (scopes.map Scope.item).reverse := by
  induction h with
  | nil => rfl
  | cons _ ih => rw [List.map_cons, List.reverse_cons, ← ih]

theorem Nested.tail {entries : List (UInt64 × ε)} {scope : Scope ε} {outer : List (Scope ε)}
    (h : Nested entries (scope :: outer)) :
    entries = scope.before ++ [scope.item] ∧ Nested scope.before outer := by
  cases h with
  | cons h => exact ⟨rfl, h⟩

/-- The lists are those of the scopes that have begun and not ended, every one of them from a
registration of its own, and the counter has handed out one ticket after the other. -/
structure Tracks (lists : ThreadLists ε) (scopes : Nat → List (Scope ε)) : Prop where
  counter : Ticket.skipZero lists.counter.toNat = Ticket.nth (2 ^ 64) lists.issued.length
  issued : lists.issued.map UInt64.toNat = Ticket.firstTickets (2 ^ 64) lists.issued.length
  nested : ∀ thread, Nested (lists.entries thread) (scopes thread)
  issued_scope : ∀ thread, ∀ scope ∈ scopes thread, lists.issued[scope.index]? = some scope.token
  index_nodup : ∀ thread, ((scopes thread).map Scope.index).Nodup
  index_thread : ∀ thread other, ∀ scope ∈ scopes thread, ∀ scope' ∈ scopes other,
    scope.index = scope'.index → thread = other

variable {lists : ThreadLists ε} {scopes : Nat → List (Scope ε)}

theorem tracks_initial : Tracks (ThreadLists.initial : ThreadLists ε) fun _ => [] := {
  counter := rfl
  issued := rfl
  nested := fun _ => .nil
  issued_scope := fun _ _ h => absurd h List.not_mem_nil
  index_nodup := fun _ => List.nodup_nil
  index_thread := fun _ _ _ h => absurd h List.not_mem_nil }

theorem Tracks.skip (h : Tracks lists scopes) (hzero : lists.counter = 0) :
    Tracks lists.skip scopes :=
  { h with
    counter := by
      show Ticket.skipZero (lists.counter + 1).toNat = Ticket.nth (2 ^ 64) lists.issued.length
      rw [← h.counter, hzero]
      rfl }

/-- The counter is at its next ticket unless it is at zero. -/
theorem Tracks.counter_eq (h : Tracks lists scopes) (hzero : lists.counter ≠ 0) :
    lists.counter.toNat = Ticket.nth (2 ^ 64) lists.issued.length := by
  rw [← h.counter, Ticket.skipZero_toNat hzero]

theorem Tracks.index_lt (h : Tracks lists scopes) {thread : Nat} {scope : Scope ε}
    (hscope : scope ∈ scopes thread) : scope.index < lists.issued.length :=
  (List.getElem?_eq_some_iff.mp (h.issued_scope thread scope hscope)).1

/-- The scopes of a thread with one more: the new one on its thread, or one there was. -/
theorem mem_update_cons {thread other : Nat} {new scope : Scope ε}
    (h : scope ∈ Function.update scopes thread (new :: scopes thread) other) :
    (other = thread ∧ scope = new) ∨ scope ∈ scopes other := by
  by_cases hother : other = thread
  · subst hother
    rw [Function.update_self, List.mem_cons] at h
    exact h.imp_left fun hnew => ⟨rfl, hnew⟩
  · rw [Function.update_of_ne hother] at h
    exact .inr h

theorem Tracks.register (h : Tracks lists scopes) (hzero : lists.counter ≠ 0) (thread : Nat)
    (entry : ε) : Tracks (lists.register thread entry)
      (Function.update scopes thread (lists.scope thread entry :: scopes thread)) := {
  counter := by
    show Ticket.skipZero (lists.counter + 1).toNat = _
    rw [Ticket.toNat_succ, h.counter_eq hzero, Ticket.skipZero_succ Ticket.one_lt_range,
      length_issued_register]
  issued := by
    show (lists.issued ++ [lists.counter]).map UInt64.toNat = _
    rw [List.map_append, h.issued, List.map_singleton, h.counter_eq hzero, length_issued_register,
      Ticket.firstTickets_succ]
  nested := by
    intro other
    by_cases hother : other = thread
    · subst hother
      rw [register_entries_self, Function.update_self]
      show Nested ((lists.scope other entry).before ++ [(lists.scope other entry).item]) _
      exact Nested.cons (h.nested other)
    · rw [register_entries_of_ne _ _ hother, Function.update_of_ne hother]
      exact h.nested other
  issued_scope := by
    intro other scope hscope
    rcases mem_update_cons hscope with ⟨-, rfl⟩ | hold
    · exact List.getElem?_concat_length
    · exact (List.getElem?_append_left (h.index_lt hold)).trans (h.issued_scope other scope hold)
  index_nodup := by
    intro other
    by_cases hother : other = thread
    · subst hother
      rw [Function.update_self, List.map_cons, List.nodup_cons]
      refine ⟨fun hmem => ?_, h.index_nodup other⟩
      obtain ⟨scope, hscope, hindex⟩ := List.mem_map.mp hmem
      exact absurd hindex (Nat.ne_of_lt (h.index_lt hscope))
    · rw [Function.update_of_ne hother]
      exact h.index_nodup other
  index_thread := by
    intro one other scope hscope scope' hscope' hindex
    rcases mem_update_cons hscope with ⟨rfl, rfl⟩ | hold
    · rcases mem_update_cons hscope' with ⟨hother, -⟩ | hold'
      · exact hother.symm
      · exact absurd hindex.symm (Nat.ne_of_lt (h.index_lt hold'))
    · rcases mem_update_cons hscope' with ⟨-, rfl⟩ | hold'
      · exact absurd hindex (Nat.ne_of_lt (h.index_lt hold))
      · exact h.index_thread one other scope hold scope' hold' hindex }

/-- The scopes of a thread without its innermost one are scopes there were. -/
theorem mem_update_tail {thread other : Nat} {scope inner : Scope ε} {outer : List (Scope ε)}
    (hscopes : scopes thread = scope :: outer)
    (h : inner ∈ Function.update scopes thread outer other) : inner ∈ scopes other := by
  by_cases hother : other = thread
  · subst hother
    rw [Function.update_self] at h
    rw [hscopes]
    exact List.mem_cons_of_mem _ h
  · rwa [Function.update_of_ne hother] at h

/-- The end of the innermost scope of a thread leaves the list that its beginning found. -/
theorem Tracks.unregister_entries (h : Tracks lists scopes) {thread : Nat} {scope : Scope ε}
    {outer : List (Scope ε)} (hscopes : scopes thread = scope :: outer) :
    (lists.unregister thread scope.token).entries =
      Function.update lists.entries thread scope.before := by
  have hthread := h.nested thread
  rw [hscopes] at hthread
  have hremove : remove (lists.entries thread) scope.token = scope.before := by
    rw [hthread.tail.1]
    exact remove_concat _ _ _
  rw [ThreadLists.unregister, hremove]

theorem Tracks.unregister (h : Tracks lists scopes) {thread : Nat} {scope : Scope ε}
    {outer : List (Scope ε)} (hscopes : scopes thread = scope :: outer) :
    Tracks (lists.unregister thread scope.token) (Function.update scopes thread outer) := {
  counter := h.counter
  issued := h.issued
  nested := by
    intro other
    rw [h.unregister_entries hscopes]
    by_cases hother : other = thread
    · subst hother
      have hthread := h.nested other
      rw [hscopes] at hthread
      rw [Function.update_self, Function.update_self]
      exact hthread.tail.2
    · rw [Function.update_of_ne hother, Function.update_of_ne hother]
      exact h.nested other
  issued_scope := fun other inner hinner =>
    h.issued_scope other inner (mem_update_tail hscopes hinner)
  index_nodup := by
    intro other
    by_cases hother : other = thread
    · subst hother
      have hthread := h.index_nodup other
      rw [hscopes, List.map_cons, List.nodup_cons] at hthread
      rw [Function.update_self]
      exact hthread.2
    · rw [Function.update_of_ne hother]
      exact h.index_nodup other
  index_thread := fun one other inner hinner inner' hinner' =>
    h.index_thread one other inner (mem_update_tail hscopes hinner) inner'
      (mem_update_tail hscopes hinner') }

/-! ### What a token finds -/

theorem Tracks.issued_nodup (h : Tracks lists scopes) (hfew : lists.issued.length < 2 ^ 64) :
    lists.issued.Nodup := by
  have hnodup := (Ticket.nodup_firstTickets_iff Ticket.one_lt_range).mpr hfew
  rw [← h.issued] at hnodup
  exact hnodup.of_map

/-- While the tokens are distinct, a token names its registration. -/
theorem Tracks.index_eq (h : Tracks lists scopes) (hfew : lists.issued.length < 2 ^ 64)
    {thread index : Nat} {scope : Scope ε} (hscope : scope ∈ scopes thread)
    (hindex : lists.issued[index]? = some scope.token) : scope.index = index := by
  obtain ⟨hlt, htoken⟩ := List.getElem?_eq_some_iff.mp hindex
  obtain ⟨hlt', htoken'⟩ := List.getElem?_eq_some_iff.mp (h.issued_scope thread scope hscope)
  exact ((h.issued_nodup hfew).getElem_inj_iff).mp (htoken'.trans htoken.symm)

theorem Tracks.scope_eq (h : Tracks lists scopes) {thread other : Nat} {scope scope' : Scope ε}
    (hscope : scope ∈ scopes thread) (hscope' : scope' ∈ scopes other)
    (hindex : scope.index = scope'.index) : thread = other ∧ scope = scope' := by
  obtain rfl := h.index_thread thread other scope hscope scope' hscope' hindex
  exact ⟨rfl, List.inj_on_of_nodup_map (h.index_nodup thread) hscope hscope' hindex⟩

theorem Tracks.mem_entries (h : Tracks lists scopes) {thread : Nat} {item : UInt64 × ε} :
    item ∈ lists.entries thread ↔ ∃ scope ∈ scopes thread, scope.item = item := by
  rw [(h.nested thread).entries_eq, List.mem_reverse, List.mem_map]

theorem Tracks.tokens_nodup (h : Tracks lists scopes) (hfew : lists.issued.length < 2 ^ 64)
    (thread : Nat) : ((lists.entries thread).map Prod.fst).Nodup := by
  rw [(h.nested thread).entries_eq, ← List.map_reverse, List.map_map]
  apply List.Nodup.map_on
  · intro scope hscope scope' hscope' (htoken : scope.token = scope'.token)
    rw [List.mem_reverse] at hscope hscope'
    have hissued := h.issued_scope thread scope' hscope'
    rw [← htoken] at hissued
    exact (h.scope_eq hscope hscope' (h.index_eq hfew hscope hissued)).2
  · rw [List.nodup_reverse]
    exact (h.index_nodup thread).of_map

/-- **A token finds an entry exactly in the scopes of its thread.** -/
theorem Tracks.lookup_iff (h : Tracks lists scopes) (hfew : lists.issued.length < 2 ^ 64)
    {thread : Nat} {token : UInt64} {entry : ε} :
    lookup (lists.entries thread) token = some entry ↔
      ∃ scope ∈ scopes thread, scope.token = token ∧ scope.entry = entry := by
  rw [lookup_eq_some_iff (h.tokens_nodup hfew thread), h.mem_entries]
  simp only [Scope.item, Prod.mk.injEq]

/-- The token of a registration finds an entry exactly in the scope of that registration. -/
theorem Tracks.lookup_issued_iff (h : Tracks lists scopes) (hfew : lists.issued.length < 2 ^ 64)
    {thread index : Nat} {token : UInt64} {entry : ε} (hissued : lists.issued[index]? = some token) :
    lookup (lists.entries thread) token = some entry ↔
      ∃ scope ∈ scopes thread, scope.index = index ∧ scope.entry = entry := by
  rw [h.lookup_iff hfew]
  refine exists_congr fun scope => and_congr_right fun hscope => and_congr_left fun _ => ?_
  constructor
  · rintro rfl
    exact h.index_eq hfew hscope hissued
  · rintro rfl
    exact Option.some.inj ((h.issued_scope thread scope hscope).symm.trans hissued)

end Registry
