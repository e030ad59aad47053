import OtelC.Lib.Keyed
import OtelC.Sdk.Pipeline
import Mathlib.Algebra.Order.Group.Multiset
import Mathlib.Data.Multiset.Range

/-!
# Who owns an exporter

Every exporter and view is behind exactly one live handle or was dropped once: `Balanced` says so of
a state.  `Moved` is what a transfer leaves of the two handles that take part in it, and there are
three shapes of it: into a builder (`Moved.into`), into a new handle that takes the place of the old
one (`Moved.wrapped`), and out of a builder that stays (`Moved.built`).
-/

namespace OtelC.Sdk.Pipeline

/-! ### Accounts -/

/-- What an entry of the table owns. -/
def slotItems : Option Handle → Multiset Item
  | some ⟨kind, content⟩ => kind.items content
  | none => 0

/-- What the handle `i` owns. -/
def State.itemsAt (s : State) (i : Nat) : Multiset Item := slotItems (s.handles[i]?.getD none)

/-- What all the handles own. -/
def State.held (s : State) : Multiset Item := (s.handles.map slotItems).sum

/-- Everything that was made is owned by exactly one handle, once, or was dropped, once. -/
def State.Balanced (s : State) : Prop := s.held + s.dropped = Multiset.range s.minted

/-- The handle `i` is live. -/
def State.Live (s : State) (i : Nat) : Prop := ∃ handle, s.handles[i]? = some (some handle)

/-- No handle comes back to life. -/
def StaysDead (s s' : State) : Prop := ∀ i : Nat, s.handles[i]? = some none → s'.handles[i]? = some none

/-- A call makes nothing and leaves every account as it was, up to what it moved. -/
structure Accounted (s s' : State) : Prop where
  account : s'.held + s'.dropped = s.held + s.dropped
  minted : s'.minted = s.minted
  dead : StaysDead s s'

/-- The handle `i` handed all it owned to `j`, and is poisoned if it was `consumed`. -/
structure Moved (consumed : Bool) (s s' : State) (i j : Nat) : Prop where
  live : s.Live i
  source : if consumed then s'.handles[i]? = some none else s'.Live i
  emptied : s'.itemsAt i = 0
  target : s'.Live j
  all : s.itemsAt i ≤ s'.itemsAt j
  account : s'.itemsAt j + s'.dropped = s.itemsAt j + s.itemsAt i + s.dropped
  others : ∀ k, k ≠ i → k ≠ j → s'.handles[k]? = s.handles[k]?

section

variable {s s' s'' : State} {kind kind' : Kind} {content : kind.Content} {content' : kind'.Content}
  {i j : Nat} {p : Ptr}

theorem arg_eq_live : s.arg kind p = .live content ↔
    ∃ i, p = some i ∧ s.handles[i]? = some (some ⟨kind, content⟩) := by
  cases p with
  | none =>
    show HandleArg.null = _ ↔ _
    simp
  | some i =>
    rw [State.arg]
    constructor
    · intro h
      split at h
      · rename_i found content₁ hslot
        split at h
        · rename_i hkind
          subst hkind
          cases h
          exact ⟨i, rfl, hslot⟩
        · cases h
      · cases h
    · rintro ⟨i', hi, hslot⟩
      obtain rfl := Option.some.inj hi
      simp [hslot]

/-! ### Tables -/

theorem itemsAt_of_slot {handle : Option Handle} (h : s.handles[i]? = some handle) :
    s.itemsAt i = slotItems handle := by
  rw [State.itemsAt, h]
  rfl

theorem itemsAt_length (s : State) : s.itemsAt s.handles.length = 0 := by
  rw [State.itemsAt, List.getElem?_eq_none (Nat.le_refl _)]
  rfl

@[simp] theorem handles_drop (s : State) (items : List Item) : (s.drop items).handles = s.handles :=
  rfl

theorem handles_setHandle_self {handle : Option Handle} (h : i < s.handles.length) :
    (s.setHandle (some i) handle).handles[i]? = some handle := List.getElem?_set_self h

theorem handles_setHandle_ne {handle : Option Handle} (h : i ≠ j) :
    (s.setHandle (some i) handle).handles[j]? = s.handles[j]? := List.getElem?_set_ne h

theorem handles_alloc_self (handle : Handle) :
    (s.alloc handle).handles[s.handles.length]? = some (some handle) := List.getElem?_concat_length

theorem handles_alloc_ne {handle : Handle} (h : i ≠ s.handles.length) :
    (s.alloc handle).handles[i]? = s.handles[i]? := by
  show (s.handles ++ [some handle])[i]? = _
  rcases Nat.lt_or_gt_of_ne h with hlt | hgt
  · exact List.getElem?_append_left hlt
  · rw [List.getElem?_eq_none (Nat.le_of_lt hgt), List.getElem?_eq_none]
    rw [List.length_append, List.length_singleton]
    exact hgt

theorem lt_of_slot {handle : Option Handle} (h : s.handles[i]? = some handle) :
    i < s.handles.length := (List.getElem?_eq_some_iff.mp h).1

@[simp] theorem length_setHandle (handle : Option Handle) :
    (s.setHandle p handle).handles.length = s.handles.length := by
  cases p with
  | none => rfl
  | some i => exact List.length_set

theorem held_setHandle {old : Option Handle} (h : s.handles[i]? = some old)
    (handle : Option Handle) :
    (s.setHandle (some i) handle).held + slotItems old = s.held + slotItems handle := by
  obtain ⟨hlt, hget⟩ := List.getElem?_eq_some_iff.mp h
  have hsum := Keyed.sum_set slotItems hlt handle
  rw [hget] at hsum
  exact hsum

theorem held_alloc (handle : Handle) : (s.alloc handle).held = s.held + slotItems (some handle) := by
  show ((s.handles ++ [some handle]).map slotItems).sum = _
  rw [List.map_append, List.sum_append, List.map_singleton, List.sum_singleton]
  rfl

/-! ### What single steps keep -/

theorem StaysDead.trans (h : StaysDead s s') (h' : StaysDead s' s'') : StaysDead s s'' :=
  fun i hi => h' i (h i hi)

theorem staysDead_drop (items : List Item) : StaysDead s (s.drop items) := fun _ h => h

theorem staysDead_setHandle {old handle : Option Handle} (h : s.handles[i]? = some old)
    (hold : old = none → handle = none) : StaysDead s (s.setHandle (some i) handle) := by
  intro k hk
  by_cases hik : i = k
  · subst hik
    obtain rfl := Option.some.inj (h.symm.trans hk)
    rw [handles_setHandle_self (lt_of_slot h), hold rfl]
  · rw [handles_setHandle_ne hik]
    exact hk

theorem staysDead_alloc (handle : Handle) : StaysDead s (s.alloc handle) := by
  intro k hk
  rw [handles_alloc_ne (Nat.ne_of_lt (lt_of_slot hk))]
  exact hk

theorem Accounted.refl (s : State) : Accounted s s := ⟨rfl, rfl, fun _ h => h⟩

theorem Accounted.balanced (h : Accounted s s') (hs : s.Balanced) : s'.Balanced := by
  rw [State.Balanced, h.account, h.minted]
  exact hs

theorem slotItems_eq : slotItems (some ⟨kind, content⟩) = (kind.items content : Multiset Item) := rfl

/-- A write behind a live handle that neither adds nor removes anything. -/
theorem Accounted.store {content content' : kind.Content}
    (h : s.handles[i]? = some (some ⟨kind, content⟩))
    (hitems : (kind.items content' : Multiset Item) = kind.items content) :
    Accounted s (s.setHandle (some i) (some ⟨kind, content'⟩)) := by
  refine ⟨?_, rfl, staysDead_setHandle h nofun⟩
  have hheld := held_setHandle h (some ⟨kind, content'⟩)
  rw [slotItems_eq, slotItems_eq, hitems] at hheld
  rw [add_right_cancel hheld]
  rfl

/-- A handle destroyed with all it owns. -/
theorem Accounted.destroy (h : s.handles[i]? = some (some ⟨kind, content⟩)) :
    Accounted s ((s.setHandle (some i) none).drop (kind.items content)) := by
  refine ⟨?_, rfl, (staysDead_setHandle h nofun).trans (staysDead_drop _)⟩
  have hheld := held_setHandle h none
  rw [slotItems_eq] at hheld
  show (s.setHandle (some i) none).held + ((s.dropped ++ kind.items content : List Item)) = _
  rw [← Multiset.coe_add, add_comm (s.dropped : Multiset Item), ← add_assoc, hheld]
  show s.held + 0 + _ = _
  rw [add_zero]

/-- A handle that owns nothing. -/
theorem Accounted.alloc (hitems : kind.items content = []) : Accounted s (s.alloc ⟨kind, content⟩) := by
  refine ⟨?_, rfl, staysDead_alloc _⟩
  rw [held_alloc, slotItems_eq, hitems]
  show s.held + 0 + _ = _
  rw [add_zero]
  rfl

/-! ### Transfers -/

theorem Moved.into {replaced : List Item} {content'' : kind'.Content}
    (hi : s.handles[i]? = some (some ⟨kind, content⟩))
    (hj : s.handles[j]? = some (some ⟨kind', content'⟩)) (hne : i ≠ j)
    (hall : (kind.items content : Multiset Item) ≤ kind'.items content'')
    (hitems : (kind'.items content'' + replaced : Multiset Item) =
      kind'.items content' + kind.items content) :
    Moved true s
      (((s.setHandle (some i) none).setHandle (some j) (some ⟨kind', content''⟩)).drop replaced)
      i j := by
  have hj' : (s.setHandle (some i) none).handles[j]? = some (some ⟨kind', content'⟩) := by
    rw [handles_setHandle_ne hne, hj]
  have hset : ((s.setHandle (some i) none).setHandle (some j) (some ⟨kind', content''⟩)).handles[j]?
      = some (some ⟨kind', content''⟩) := handles_setHandle_self (lt_of_slot hj')
  have hpoisoned : ((s.setHandle (some i) none).setHandle (some j)
      (some ⟨kind', content''⟩)).handles[i]? = some none := by
    rw [handles_setHandle_ne (Ne.symm hne)]
    exact handles_setHandle_self (lt_of_slot hi)
  refine ⟨⟨_, hi⟩, hpoisoned, itemsAt_of_slot hpoisoned, ⟨_, hset⟩, ?_, ?_, ?_⟩
  · rw [itemsAt_of_slot hi]
    show _ ≤ State.itemsAt (State.setHandle _ _ _) j
    rw [itemsAt_of_slot hset]
    exact hall
  · rw [itemsAt_of_slot hi, itemsAt_of_slot hj]
    show State.itemsAt (State.setHandle _ _ _) j + ((s.dropped ++ replaced : List Item)) = _
    rw [itemsAt_of_slot hset, slotItems_eq, slotItems_eq, slotItems_eq, ← hitems,
      ← Multiset.coe_add, add_comm (s.dropped : Multiset Item), add_assoc]
  · intro k hki hkj
    show (State.setHandle _ _ _).handles[k]? = _
    rw [handles_setHandle_ne (Ne.symm hkj), handles_setHandle_ne (Ne.symm hki)]

theorem Accounted.into {replaced : List Item} {content'' : kind'.Content}
    (hi : s.handles[i]? = some (some ⟨kind, content⟩))
    (hj : s.handles[j]? = some (some ⟨kind', content'⟩)) (hne : i ≠ j)
    (hitems : (kind'.items content'' + replaced : Multiset Item) =
      kind'.items content' + kind.items content) :
    Accounted s
      (((s.setHandle (some i) none).setHandle (some j) (some ⟨kind', content''⟩)).drop replaced) := by
  have hj' : (s.setHandle (some i) none).handles[j]? = some (some ⟨kind', content'⟩) := by
    rw [handles_setHandle_ne hne, hj]
  refine ⟨?_, rfl, ?_⟩
  · have htaken := held_setHandle hi none
    have hstored := held_setHandle hj' (some ⟨kind', content''⟩)
    show State.held (State.setHandle _ _ _) + ((s.dropped ++ replaced : List Item)) = _
    rw [← Multiset.coe_add]
    ext a
    have htaken := congrArg (Multiset.count a) htaken
    have hstored := congrArg (Multiset.count a) hstored
    have hitems := congrArg (Multiset.count a) hitems
    simp only [slotItems, Multiset.count_add, Multiset.count_zero] at htaken hstored hitems ⊢
    omega
  · exact ((staysDead_setHandle hi nofun).trans (staysDead_setHandle hj' nofun)).trans
      (staysDead_drop _)

theorem Moved.wrapped (hi : s.handles[i]? = some (some ⟨kind, content⟩))
    (hitems : kind'.items content' = kind.items content) :
    Moved true s ((s.setHandle (some i) none).alloc ⟨kind', content'⟩) i s.handles.length := by
  have hlt := lt_of_slot hi
  have hpoisoned : ((s.setHandle (some i) none).alloc ⟨kind', content'⟩).handles[i]? =
      some none := by
    rw [handles_alloc_ne (by rw [length_setHandle]; exact Nat.ne_of_lt hlt)]
    exact handles_setHandle_self hlt
  have hnew : ((s.setHandle (some i) none).alloc ⟨kind', content'⟩).handles[s.handles.length]? =
      some (some ⟨kind', content'⟩) := by
    rw [← length_setHandle (s := s) (p := some i) none]
    exact handles_alloc_self _
  refine ⟨⟨_, hi⟩, hpoisoned, itemsAt_of_slot hpoisoned, ⟨_, hnew⟩, ?_, ?_, ?_⟩
  · rw [itemsAt_of_slot hi, itemsAt_of_slot hnew, slotItems_eq, slotItems_eq, hitems]
  · rw [itemsAt_of_slot hi, itemsAt_of_slot hnew, itemsAt_length, slotItems_eq, slotItems_eq,
      hitems, zero_add]
    rfl
  · intro k hki hkj
    rw [handles_alloc_ne (by rw [length_setHandle]; exact hkj), handles_setHandle_ne (Ne.symm hki)]

theorem Accounted.wrapped (hi : s.handles[i]? = some (some ⟨kind, content⟩))
    (hitems : kind'.items content' = kind.items content) :
    Accounted s ((s.setHandle (some i) none).alloc ⟨kind', content'⟩) := by
  refine ⟨?_, rfl, (staysDead_setHandle hi nofun).trans (staysDead_alloc _)⟩
  have htaken := held_setHandle hi none
  rw [held_alloc, slotItems_eq, hitems, ← slotItems_eq, htaken]
  show s.held + 0 + _ = _
  rw [add_zero]
  rfl

theorem Moved.built {rest : kind.Content} (hi : s.handles[i]? = some (some ⟨kind, content⟩))
    (hrest : kind.items rest = []) (hitems : kind'.items content' = kind.items content) :
    Moved false s ((s.setHandle (some i) (some ⟨kind, rest⟩)).alloc ⟨kind', content'⟩) i
      s.handles.length := by
  have hlt := lt_of_slot hi
  have hkept : ((s.setHandle (some i) (some ⟨kind, rest⟩)).alloc ⟨kind', content'⟩).handles[i]? =
      some (some ⟨kind, rest⟩) := by
    rw [handles_alloc_ne (by rw [length_setHandle]; exact Nat.ne_of_lt hlt)]
    exact handles_setHandle_self hlt
  have hnew : ((s.setHandle (some i) (some ⟨kind, rest⟩)).alloc
      ⟨kind', content'⟩).handles[s.handles.length]? = some (some ⟨kind', content'⟩) := by
    rw [← length_setHandle (s := s) (p := some i) (some ⟨kind, rest⟩)]
    exact handles_alloc_self _
  refine ⟨⟨_, hi⟩, ⟨_, hkept⟩, ?_, ⟨_, hnew⟩, ?_, ?_, ?_⟩
  · rw [itemsAt_of_slot hkept, slotItems_eq, hrest]
    rfl
  · rw [itemsAt_of_slot hi, itemsAt_of_slot hnew, slotItems_eq, slotItems_eq, hitems]
  · rw [itemsAt_of_slot hi, itemsAt_of_slot hnew, itemsAt_length, slotItems_eq, slotItems_eq,
      hitems, zero_add]
    rfl
  · intro k hki hkj
    rw [handles_alloc_ne (by rw [length_setHandle]; exact hkj), handles_setHandle_ne (Ne.symm hki)]

theorem Accounted.built {rest : kind.Content} (hi : s.handles[i]? = some (some ⟨kind, content⟩))
    (hrest : kind.items rest = []) (hitems : kind'.items content' = kind.items content) :
    Accounted s ((s.setHandle (some i) (some ⟨kind, rest⟩)).alloc ⟨kind', content'⟩) := by
  refine ⟨?_, rfl, (staysDead_setHandle hi nofun).trans (staysDead_alloc _)⟩
  have hstored := held_setHandle hi (some ⟨kind, rest⟩)
  rw [slotItems_eq, slotItems_eq, hrest] at hstored
  rw [held_alloc, slotItems_eq, hitems, hstored]
  show s.held + 0 + _ = _
  rw [add_zero]
  rfl

/-! ### What is made -/

theorem State.Balanced.mint {id : Item} (h : s.Balanced) (hid : id = s.minted)
    (hitems : kind.items content = [id]) : (s.mint.alloc ⟨kind, content⟩).Balanced := by
  rw [State.Balanced, held_alloc, slotItems_eq, hitems]
  show s.held + {id} + s.dropped = Multiset.range (s.minted + 1)
  rw [Multiset.range_succ, ← h, hid, add_right_comm, ← Multiset.singleton_add, add_comm]

theorem balanced_initial : State.initial.Balanced := rfl

end

end OtelC.Sdk.Pipeline
