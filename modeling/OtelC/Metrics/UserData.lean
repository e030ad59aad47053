import OtelC.Metrics.CallbackState

/-!
# User data is destroyed once

* `Balanced.turn`: the accounts of an instrument, kept by every step of every call.
* `step_invariant`: the accounts and the history of every instrument, kept by every step of a thread.
* `observable_user_data_run`: what follows for every instrument and every run.
-/

namespace OtelC.Observable

open Pool (Account Exchange weight)

/-! ### Accounts -/

/-- The references to the state that a call holds. -/
@[simp] def Place.states : Place → Nat
  | .lent => 2
  | .returning _ => 0
  | .orphaned => 0
  | .destroying => 0
  | _ => 1

/-- The references to the user data that a call holds. -/
@[simp] def Place.datas : Place → Nat
  | .relinquishing => 1
  | .dropping _ => 1
  | .acquired => 1
  | .running => 1
  | .ran => 1
  | .orphaned => 1
  | _ => 0

/-- The call will take the user data out. -/
@[simp] def Place.owes : Place → Nat
  | .creating => 1
  | .lent => 1
  | .building => 1
  | .disabling _ => 1
  | .taking _ => 1
  | _ => 0

/-- The call is a creation that has neither succeeded nor given the user data back. -/
@[simp] def Place.pending : Place → Nat
  | .creating => 1
  | .lent => 1
  | .building => 1
  | .disabling failed => failed.toNat
  | .taking failed => failed.toNat
  | .relinquishing => 1
  | _ => 0

/-- The call is a creation that has given the user data back. -/
@[simp] def Place.failing : Place → Nat
  | .dropping failed => failed.toNat
  | .closing failed => failed.toNat
  | .returning failed => failed.toNat
  | _ => 0

/-- The call destroys the handle. -/
@[simp] def Place.destroys : Place → Nat
  | .disabling failed => (!failed).toNat
  | .taking failed => (!failed).toNat
  | .dropping failed => (!failed).toNat
  | .closing failed => (!failed).toNat
  | .returning failed => (!failed).toNat
  | _ => 0

/-- The call is at `place`. -/
@[simp] def Place.is (place : Place) (other : Place) : Nat := (decide (other = place)).toNat

/-- What is kept account of. -/
inductive Title where
  | states
  | datas
  | owner
  | fate
  | failed
  | called
  | returned
  | callbacks
  | acquired
  | handing
  | lease

@[simp] def account : Title → Account CallbackState Happening Place
  | .states => ⟨fun o => o.stateCount, fun o => o.handle.toNat + o.closure.toNat,
      fun _ => false, fun _ => false, Place.states⟩
  | .datas => ⟨fun o => o.dataCount, fun o => o.userData.toNat,
      fun _ => false, fun _ => false, Place.datas⟩
  | .owner => ⟨fun o => o.userData.toNat, fun o => o.handle.toNat,
      fun _ => false, fun _ => false, Place.owes⟩
  | .fate => ⟨fun _ => 1, fun _ => 0,
      fun _ => false, fun e => e == .created || e == .relinquished, Place.pending⟩
  | .failed => ⟨fun _ => 0, fun _ => 0, (· == .relinquished), (· == .failed), Place.failing⟩
  | .called => ⟨fun _ => 0, fun o => o.handle.toNat,
      (· == .created), (· == .destroyCalled), fun _ => 0⟩
  | .returned => ⟨fun _ => 0, fun _ => 0,
      (· == .destroyCalled), (· == .destroyReturned), Place.destroys⟩
  | .callbacks => ⟨fun _ => 0, fun _ => 0,
      (· == .callbackBegan), (· == .callbackEnded), Place.running.is⟩
  | .acquired => ⟨fun _ => 0, fun _ => 0,
      (· == .acquired), (· == .callbackBegan), Place.acquired.is⟩
  | .handing => ⟨fun _ => 1, fun _ => 0,
      fun _ => false, fun e => e == .handed || e == .withoutSdk, Place.creating.is⟩
  | .lease => ⟨fun _ => 0, fun o => o.closure.toNat,
      (· == .handed), (· == .released), Place.lent.is⟩

/-- Every account is even. -/
def Balanced (o : CallbackState) (pool : List Place) (events : List Happening) : Prop :=
  ∀ title, (account title).Holds o pool events

variable {o : CallbackState} {pool pool' gone : List Place} {events : List Happening} {t : Turn}

/-- A step keeps every account even. -/
def Fair (o : CallbackState) (gone : List Place) (t : Turn) : Prop :=
  ∀ title, (account title).Conserved o t.state gone t.places t.happenings

theorem Balanced.turn (h : Balanced o pool events) (hfair : Fair o gone t)
    (hexchange : Exchange pool pool' gone t.places) :
    Balanced t.state pool' (events ++ t.happenings) :=
  fun title => (h title).turn hexchange (hfair title)

theorem countP_pair {a b : Happening} (hne : a ≠ b) :
    events.countP (fun e => e == a || e == b) = events.count a + events.count b := by
  induction events with
  | nil => rfl
  | cons e events ih =>
    rw [List.countP_cons, List.count_cons, List.count_cons, ih]
    by_cases ha : e = a
    · subst ha
      simp [hne]
      omega
    · simp [ha]
      omega

namespace Balanced

theorem states (h : Balanced o pool events) :
    o.stateCount = o.handle.toNat + o.closure.toNat + weight Place.states pool := by
  simpa [Account.Holds] using h .states

theorem datas (h : Balanced o pool events) :
    o.dataCount = o.userData.toNat + weight Place.datas pool := by
  simpa [Account.Holds] using h .datas

theorem owner (h : Balanced o pool events) :
    o.userData.toNat = o.handle.toNat + weight Place.owes pool := by
  simpa [Account.Holds] using h .owner

/-- The user data is where the call that will take it out finds it. -/
theorem of_owes (h : Balanced o pool events) {p : Place} (hp : p ∈ pool) (howes : p.owes = 1) :
    o.handle = false ∧ o.userData = true := by
  have howner := h.owner
  have hle := Pool.le_weight_of_mem (w := Place.owes) hp
  have hdata := Bool.toNat_le o.userData
  refine ⟨Bool.toNat_eq_zero.mp ?_, Bool.toNat_eq_one.mp ?_⟩
  · omega
  · omega

theorem fate (h : Balanced o pool events) :
    1 = events.count .created + events.count .relinquished + weight Place.pending pool := by
  rw [← countP_pair (by decide)]
  simpa [Account.Holds] using h .fate

theorem failed (h : Balanced o pool events) :
    events.count .relinquished = events.count .failed + weight Place.failing pool := by
  simpa [Account.Holds, List.count] using h .failed

theorem called (h : Balanced o pool events) :
    events.count .created = o.handle.toNat + events.count .destroyCalled := by
  simpa [Account.Holds, List.count] using h .called

theorem returned (h : Balanced o pool events) :
    events.count .destroyCalled = events.count .destroyReturned + weight Place.destroys pool := by
  simpa [Account.Holds, List.count] using h .returned

theorem callbacks (h : Balanced o pool events) :
    events.count .callbackBegan = events.count .callbackEnded + weight Place.running.is pool := by
  simpa [Account.Holds, List.count] using h .callbacks

theorem acquired (h : Balanced o pool events) :
    events.count .acquired = events.count .callbackBegan + weight Place.acquired.is pool := by
  simpa [Account.Holds, List.count] using h .acquired

theorem handing (h : Balanced o pool events) :
    1 = events.count .handed + events.count .withoutSdk + weight Place.creating.is pool := by
  rw [← countP_pair (by decide)]
  simpa [Account.Holds] using h .handing

theorem lease (h : Balanced o pool events) : events.count .handed =
    o.closure.toNat + events.count .released + weight Place.lent.is pool := by
  simpa [Account.Holds, List.count] using h .lease

theorem of_lent (h : Balanced o pool events) (hp : .lent ∈ pool) : o.closure = false := by
  have hlease := h.lease
  have hhanding := h.handing
  have hle := Pool.le_weight_of_mem (w := Place.lent.is) hp
  have hone : Place.lent.is .lent = 1 := rfl
  exact Bool.toNat_eq_zero.mp (by omega)

/-- Whoever takes the user data out holds the state. -/
theorem owes_le_states (place : Place) : place.owes ≤ place.states := by
  cases place <;> simp

/-- A call that drops a reference is not the last to hold one while there is user data. -/
theorem dropState_eq (h : Balanced o pool events) {p : Place} (hp : p ∈ pool)
    (hclear : p.owes < p.states) (places : List Place) (happenings : List Happening) :
    0 < o.stateCount ∧ o.dropState places happenings =
      ⟨{ o with stateCount := o.stateCount - 1 }, places, happenings⟩ := by
  have hstates := h.states
  have howner := h.owner
  obtain ⟨i, hi⟩ := List.mem_iff_getElem?.mp hp
  have hdrop := Pool.weight_eraseIdx (w := Place.states) hi
  have howes := Pool.weight_eraseIdx (w := Place.owes) hi
  have hmono := Pool.weight_mono owes_le_states (pool.eraseIdx i)
  refine ⟨by omega, if_neg ?_⟩
  rintro ⟨hlast, hdata⟩
  rw [hdata, Bool.toNat_true] at howner
  omega

theorem dataCount_pos (h : Balanced o pool events) {p : Place} (hp : p ∈ pool) (hdatas : p.datas = 1) :
    0 < o.dataCount := by
  have hcount := h.datas
  have hle := Pool.le_weight_of_mem (w := Place.datas) hp
  omega

end Balanced

/-- The user data is dropped by a call that goes on at `places`. -/
theorem dropData_fair {p : Place} {places : List Place}
    (hfair : Fair o [p] ⟨{ o with dataCount := o.dataCount - 1 }, places, []⟩) :
    Fair o [p] (o.dropData places) := by
  rw [CallbackState.dropData]
  split
  · rename_i hlast
    intro title
    have hone := hfair title
    rw [hlast.1] at hone
    cases title <;> simp [Account.Conserved] at hone ⊢
    all_goals exact hone
  · exact hfair

theorem turn_fair {p : Place} {move : Move} (h : Balanced o pool events) (hp : p ∈ pool)
    (hturn : turn o p move = some t) : Fair o [p] t := by
  revert hturn
  fun_cases turn o p move
  all_goals intro hturn; cases hturn
  -- Where an owner comes up, the account needs that there was none before.
  case case2 | case5 =>
    have hhandle := (h.of_owes hp rfl).1
    intro title
    cases title <;> simp [Account.Conserved, hhandle, Nat.add_comm]
  case case4 =>
    have hclosure := h.of_lent hp
    intro title
    cases title <;> simp [Account.Conserved, hclosure]
  -- Where a reference is dropped, that there was one.
  case case3 | case13 | case23 =>
    obtain ⟨hpos, heq⟩ := h.dropState_eq hp (by simp) _ _
    rw [heq]
    intro title
    cases title <;> simp [Account.Conserved]
    omega
  case case12 | case22 | case24 =>
    have hpos := h.dataCount_pos hp rfl
    apply dropData_fair
    intro title
    cases title <;> simp [Account.Conserved]
    omega
  -- Where the user data is taken out, that it was there.
  case case8 failed hdata =>
    rw [(h.of_owes hp rfl).2] at hdata
    cases hdata
  case case9 =>
    have hdata := (h.of_owes hp rfl).2
    intro title
    cases title <;> simp [Account.Conserved, hdata, Nat.add_comm]
  case case10 failed _ hcalled =>
    have hdata := (h.of_owes hp rfl).2
    intro title
    cases title <;> simp [Account.Conserved, hdata, hcalled, Nat.add_comm]
  all_goals
    intro title
    cases title <;> simp [Account.Conserved] <;> omega

theorem enter_fair {call : Call} (h : Balanced o pool events) (henter : enter o call = some t) :
    Fair o [] t := by
  revert henter
  fun_cases enter o call
  all_goals intro henter; cases henter
  case case1 hhandle =>
    intro title
    cases title <;> simp [Account.Conserved, hhandle, Nat.add_comm]
  case case3 hclosure =>
    intro title
    cases title <;> simp [Account.Conserved]
    omega
  case case5 hclosure =>
    -- The closure holds a reference beside the one that the owner of the user data holds.
    have hstates := h.states
    have howner := h.owner
    have hmono := Pool.weight_mono Balanced.owes_le_states pool
    rw [hclosure, Bool.toNat_true] at hstates
    rw [CallbackState.dropState, if_neg]
    · intro title
      cases title <;> simp [Account.Conserved, hclosure]
      omega
    · rintro ⟨hlast, hdata⟩
      have hone : o.stateCount = 1 := hlast
      have hdata : o.userData = true := hdata
      rw [hdata, Bool.toNat_true] at howner
      omega

/-! ### What becomes of the user data -/

/-- What may happen to an instrument, after what has happened. -/
def Legal (before : List Happening) : Happening → Prop
  | .acquired => .destroyReturned ∉ before
  | .callbackBegan => .destroyBegan ∉ before
  | .destroyBegan => .destroyCalled ∈ before ∧ .destroyBegan ∉ before ∧
      before.count .callbackBegan = before.count .callbackEnded
  | _ => True

/-- `user_data_destroy` is where the user data is until it is given back or runs. -/
structure Kept (o : CallbackState) (events : List Happening) : Prop where
  there : .relinquished ∉ events → 0 < o.dataCount → o.destroy = o.userDataDestroy
  gone : .relinquished ∈ events → o.destroy = none
  destroyed : events.count .destroyBegan =
    if o.userDataDestroy.isSome = true ∧ .relinquished ∉ events ∧ o.dataCount = 0 then 1 else 0

theorem Kept.quiet {o' : CallbackState} {added : List Happening} (h : Kept o events)
    (hgiven : o'.userDataDestroy = o.userDataDestroy) (hdestroy : o'.destroy = o.destroy)
    (hcount : o'.dataCount = 0 ↔ o.dataCount = 0) (hrelinquished : .relinquished ∉ added)
    (hbegan : .destroyBegan ∉ added) : Kept o' (events ++ added) := by
  have hmem : Happening.relinquished ∈ events ++ added ↔ .relinquished ∈ events := by
    rw [List.mem_append, or_iff_left hrelinquished]
  refine ⟨fun hnot hpos => ?_, fun hin => ?_, ?_⟩
  · rw [hdestroy, hgiven]
    exact h.there (fun hin => hnot (hmem.mpr hin)) (by omega)
  · rw [hdestroy]
    exact h.gone (hmem.mp hin)
  · rw [List.count_append, List.count_eq_zero_of_not_mem hbegan, Nat.add_zero, h.destroyed, hgiven]
    simp only [hmem, hcount]

theorem Kept.relinquish (h : Kept o events) (hpos : 0 < o.dataCount) :
    Kept { o with destroy := none } (events ++ [.relinquished]) := by
  have hin : Happening.relinquished ∈ events ++ [.relinquished] :=
    List.mem_append_right _ List.mem_cons_self
  refine ⟨fun hnot => absurd hin hnot, fun _ => rfl, ?_⟩
  have hnone := h.destroyed
  rw [if_neg fun hall => absurd hall.2.2 (Nat.ne_of_gt hpos)] at hnone
  rw [List.count_append, hnone, if_neg fun hall => hall.2.1 hin]
  rfl

theorem Kept.drop (h : Kept o events) (hpos : 0 < o.dataCount) (places : List Place) :
    Kept (o.dropData places).state (events ++ (o.dropData places).happenings) := by
  have hnone := h.destroyed
  rw [if_neg fun hall => absurd hall.2.2 (Nat.ne_of_gt hpos)] at hnone
  rw [CallbackState.dropData]
  split
  · rename_i hlast
    obtain ⟨hone, hdestroy⟩ := hlast
    have hnot : Happening.relinquished ∉ events := by
      intro hin
      rw [h.gone hin] at hdestroy
      cases hdestroy
    rw [h.there hnot hpos] at hdestroy
    have hnot' : Happening.relinquished ∉ events ++ [.destroyBegan] := by
      simp [hnot]
    refine ⟨fun _ hzero => absurd hzero (Nat.lt_irrefl 0), fun _ => rfl, ?_⟩
    rw [List.count_append, hnone, if_pos ⟨hdestroy, hnot', rfl⟩]
    rfl
  · rename_i hmore
    rw [List.append_nil]
    refine ⟨fun hnot _ => h.there hnot hpos, h.gone, ?_⟩
    rw [hnone, if_neg]
    rintro ⟨hgiven, hnot, hzero⟩
    have hzero : o.dataCount - 1 = 0 := hzero
    have hgiven : o.userDataDestroy.isSome = true := hgiven
    rw [← h.there hnot hpos] at hgiven
    exact hmore ⟨by omega, hgiven⟩

/-! ### What an instrument has been through -/

structure Lived (o : CallbackState) (pool : List Place) (events : List Happening) : Prop where
  balanced : Balanced o pool events
  kept : Kept o events
  lawful : Run.Lawful Legal events

theorem lived_new (hpool : Exchange [] pool [] [.creating]) (backed : Bool)
    (userDataDestroy : Option UInt64) : Lived (.new backed userDataDestroy) pool [] := {
  balanced := by
    intro title
    have hweight := hpool (account title).held
    rw [Pool.weight_nil, Nat.add_zero, Nat.zero_add] at hweight
    rw [Account.Holds, hweight]
    cases title <;> rfl
  kept := {
    there := fun _ _ => rfl
    gone := fun hin => absurd hin List.not_mem_nil
    destroyed := by
      rw [if_neg fun hall => Nat.one_ne_zero hall.2.2]
      rfl }
  lawful := Run.lawful_nil }

namespace Balanced

theorem owes_le (place : Place) : place.owes ≤ place.pending + place.destroys := by
  cases place with
  | disabling failed => cases failed <;> decide
  | taking failed => cases failed <;> decide
  | _ => simp

/-- After the destruction of the handle has returned, the user data is out. -/
theorem of_returned (h : Balanced o pool events) (hreturned : .destroyReturned ∈ events) :
    o.userData = false := by
  have hmono := Pool.weight_mono owes_le pool
  rw [Pool.weight_add] at hmono
  have hpos := List.count_pos_iff.mpr hreturned
  have hfate := h.fate
  have hcalled := h.called
  have hlater := h.returned
  have howner := h.owner
  exact Bool.toNat_eq_zero.mp (by omega)

theorem pending_le (place : Place) : place.pending ≤ place.owes + place.datas := by
  cases place with
  | disabling failed => cases failed <;> decide
  | taking failed => cases failed <;> decide
  | _ => simp

theorem running_le (place : Place) : Place.running.is place ≤ place.datas := by
  cases place <;> simp

/-- Who drops the last reference finds that the handle has been destroyed and no callback runs. -/
theorem of_last (h : Balanced o pool events) (hnot : .relinquished ∉ events) {p : Place}
    (hp : p ∈ pool) (hdatas : p.datas = 1) (hidle : p.pending = 0 ∧ Place.running.is p = 0)
    (hlast : o.dataCount = 1) : .destroyCalled ∈ events ∧
      events.count .callbackBegan = events.count .callbackEnded := by
  obtain ⟨i, hi⟩ := List.mem_iff_getElem?.mp hp
  have hdata := Pool.weight_eraseIdx (w := Place.datas) hi
  have hpending := Pool.weight_eraseIdx (w := Place.pending) hi
  have hrunning := Pool.weight_eraseIdx (w := Place.running.is) hi
  have howes := Pool.weight_eraseIdx (w := Place.owes) hi
  have hmono := Pool.weight_mono pending_le (pool.eraseIdx i)
  rw [Pool.weight_add] at hmono
  have hmono' := Pool.weight_mono running_le (pool.eraseIdx i)
  have hdatasCount := h.datas
  have howner := h.owner
  have hfate := h.fate
  have hcalled := h.called
  have hcallbacks := h.callbacks
  rw [List.count_eq_zero_of_not_mem hnot] at hfate
  refine ⟨List.count_pos_iff.mp (by omega), by omega⟩

end Balanced

/-- A step that neither gives the user data back nor drops it. -/
theorem Lived.quiet (h : Lived o pool events) (hfair : Fair o gone t)
    (hexchange : Exchange pool pool' gone t.places)
    (hgiven : t.state.userDataDestroy = o.userDataDestroy) (hdestroy : t.state.destroy = o.destroy)
    (hcount : t.state.dataCount = 0 ↔ o.dataCount = 0) (hrelinquished : .relinquished ∉ t.happenings)
    (hbegan : .destroyBegan ∉ t.happenings)
    (hlawful : Run.Lawful Legal (events ++ t.happenings)) :
    Lived t.state pool' (events ++ t.happenings) :=
  ⟨h.balanced.turn hfair hexchange, h.kept.quiet hgiven hdestroy hcount hrelinquished hbegan, hlawful⟩

/-- The same for a step after which anything may happen. -/
theorem Lived.still (h : Lived o pool events) (hfair : Fair o gone t)
    (hexchange : Exchange pool pool' gone t.places)
    (hgiven : t.state.userDataDestroy = o.userDataDestroy) (hdestroy : t.state.destroy = o.destroy)
    (hcount : t.state.dataCount = o.dataCount) (hrelinquished : .relinquished ∉ t.happenings)
    (hbegan : .destroyBegan ∉ t.happenings) (hfree : ∀ e ∈ t.happenings, ∀ before, Legal before e) :
    Lived t.state pool' (events ++ t.happenings) :=
  h.quiet hfair hexchange hgiven hdestroy (by rw [hcount]) hrelinquished hbegan
    (h.lawful.append hfree)

theorem Lived.dropData (h : Lived o pool events) {p : Place} (hp : p ∈ pool) (hdatas : p.datas = 1)
    (hidle : p.pending = 0 ∧ Place.running.is p = 0) {places : List Place}
    (hfair : Fair o [p] (o.dropData places))
    (hexchange : Exchange pool pool' [p] (o.dropData places).places) :
    Lived (o.dropData places).state pool' (events ++ (o.dropData places).happenings) := by
  have hpos := h.balanced.dataCount_pos hp hdatas
  refine ⟨h.balanced.turn hfair hexchange, h.kept.drop hpos places, ?_⟩
  rw [CallbackState.dropData]
  split
  · rename_i hlast
    obtain ⟨hone, hdestroy⟩ := hlast
    have hnot : .relinquished ∉ events := by
      intro hin
      rw [h.kept.gone hin] at hdestroy
      cases hdestroy
    have hnone := h.kept.destroyed
    rw [if_neg fun hall => absurd hall.2.2 (Nat.ne_of_gt hpos)] at hnone
    obtain ⟨hcalled, hended⟩ := h.balanced.of_last hnot hp hdatas hidle hone
    exact h.lawful.concat ⟨hcalled, List.count_eq_zero.mp hnone, hended⟩
  · rw [List.append_nil]
    exact h.lawful

theorem dropState_state (o : CallbackState) (places : List Place) (happenings : List Happening) :
    (o.dropState places happenings).state.userDataDestroy = o.userDataDestroy ∧
      (o.dropState places happenings).state.destroy = o.destroy ∧
      (o.dropState places happenings).state.dataCount = o.dataCount ∧
      (o.dropState places happenings).happenings = happenings := by
  rw [CallbackState.dropState]
  split <;> exact ⟨rfl, rfl, rfl, rfl⟩

theorem turn_lived {p : Place} {move : Move} (h : Lived o pool events) (hp : p ∈ pool)
    (hturn : turn o p move = some t) (hexchange : Exchange pool pool' [p] t.places) :
    Lived t.state pool' (events ++ t.happenings) := by
  have hfair := turn_fair h.balanced hp hturn
  revert hturn
  fun_cases turn o p move
  all_goals intro hturn; cases hturn
  case case3 | case13 | case23 =>
    obtain ⟨hgiven, hdestroy, hcount, hhappenings⟩ := dropState_state o _ _
    apply h.still hfair hexchange hgiven hdestroy hcount
    all_goals
      rw [hhappenings]
      simp [Legal]
  case case11 =>
    have hpos := h.balanced.dataCount_pos hp rfl
    exact ⟨h.balanced.turn hfair hexchange, h.kept.relinquish hpos, h.lawful.concat trivial⟩
  case case12 failed => exact h.dropData hp rfl ⟨rfl, rfl⟩ hfair hexchange
  case case18 hready =>
    have hpos : 0 < o.dataCount := by
      have hdatas := h.balanced.datas
      rw [hready.2, Bool.toNat_true] at hdatas
      omega
    refine h.quiet hfair hexchange rfl rfl ?_ (by simp) (by simp) (h.lawful.concat ?_)
    · exact iff_of_false (Nat.succ_ne_zero _) (Nat.ne_of_gt hpos)
    · intro hreturned
      have hnone := h.balanced.of_returned hreturned
      rw [hready.2] at hnone
      cases hnone
  case case20 =>
    have hpos := h.balanced.dataCount_pos hp rfl
    have hnone := h.kept.destroyed
    rw [if_neg fun hall => absurd hall.2.2 (Nat.ne_of_gt hpos)] at hnone
    exact h.quiet hfair hexchange rfl rfl Iff.rfl (by simp) (by simp)
      (h.lawful.concat (List.count_eq_zero.mp hnone))
  case case22 | case24 => exact h.dropData hp rfl ⟨rfl, rfl⟩ hfair hexchange
  all_goals exact h.still hfair hexchange rfl rfl rfl (by simp) (by simp) (by simp [Legal])

theorem enter_lived {call : Call} (h : Lived o pool events) (henter : enter o call = some t)
    (hexchange : Exchange pool pool' [] t.places) :
    Lived t.state pool' (events ++ t.happenings) := by
  have hfair := enter_fair h.balanced henter
  revert henter
  fun_cases enter o call
  all_goals intro henter; cases henter
  case case5 =>
    obtain ⟨hgiven, hdestroy, hcount, hhappenings⟩ :=
      dropState_state { o with closure := false } [] [.released]
    apply h.still hfair hexchange hgiven hdestroy hcount
    all_goals
      rw [hhappenings]
      simp [Legal]
  all_goals exact h.still hfair hexchange rfl rfl rfl (by simp) (by simp) (by simp [Legal])

/-! ### Every instrument -/

/-- The calls of one thread that are about an instrument. -/
def placesOf (x : Nat) (frames : List Frame) : List Place :=
  frames.filterMap fun frame => if frame.instrument = x then some frame.place else none

/-- The calls that are about an instrument. -/
def State.placesAt (s : State) (x : Nat) : List Place := s.threads.flatMap (placesOf x)

/-- What has happened to an instrument. -/
def State.historyOf (s : State) (x : Nat) : List Happening :=
  s.events.filterMap fun event => if event.1 = x then some event.2 else none

structure Invariant (s : State) : Prop where
  lived : ∀ x o, s.instruments[x]? = some o → Lived o (s.placesAt x) (s.historyOf x)
  unborn : ∀ x, s.instruments.length ≤ x → s.placesAt x = [] ∧ s.historyOf x = []

theorem invariant_initial : Invariant State.initial :=
  ⟨fun _ _ h => (by cases h), fun _ _ => ⟨rfl, rfl⟩⟩

variable {s s' : State} {i x y : Nat} {frames rest : List Frame}

theorem placesOf_self (x : Nat) (places : List Place) (frames : List Frame) :
    placesOf x (places.map (⟨·, x⟩) ++ frames) = places ++ placesOf x frames := by
  simp [placesOf, List.filterMap_append, List.filterMap_map]

theorem placesOf_of_ne (hne : x ≠ y) (places : List Place) (frames : List Frame) :
    placesOf y (places.map (⟨·, x⟩) ++ frames) = placesOf y frames := by
  simp [placesOf, List.filterMap_append, List.filterMap_map, hne]

theorem historyOf_self (s : State) (x : Nat) (happenings : List Happening) :
    ({ s with events := s.events ++ happenings.map (x, ·) } : State).historyOf x =
      s.historyOf x ++ happenings := by
  simp [State.historyOf, List.filterMap_append, List.filterMap_map]

theorem historyOf_of_ne (s : State) (hne : x ≠ y) (happenings : List Happening) :
    ({ s with events := s.events ++ happenings.map (x, ·) } : State).historyOf y = s.historyOf y := by
  simp [State.historyOf, List.filterMap_append, List.filterMap_map, hne]

/-- A thread moves on with one instrument. -/
theorem Invariant.apply (h : Invariant s) {o : CallbackState} {gone : List Place} {t : Turn}
    (hi : s.threads[i]? = some frames) (hx : s.instruments[x]? = some o)
    (hframes : frames = gone.map (⟨·, x⟩) ++ rest)
    (hlived : ∀ pool', Exchange (s.placesAt x) pool' gone t.places →
      Lived t.state pool' (s.historyOf x ++ t.happenings)) :
    Invariant (s.apply i x rest t) := by
  subst hframes
  have hlt : x < s.instruments.length := (List.getElem?_eq_some_iff.mp hx).1
  refine ⟨fun y o' hy => ?_, fun y hy => ?_⟩
  · by_cases hne : x = y
    · subst hne
      have hstate : (s.instruments.set x t.state)[x]? = some o' := hy
      rw [List.getElem?_set_self hlt] at hstate
      obtain rfl := Option.some.inj hstate
      have hhistory : (s.apply i x rest t).historyOf x = s.historyOf x ++ t.happenings :=
        historyOf_self s x t.happenings
      rw [hhistory]
      exact hlived _ (Pool.exchange_flatMap (placesOf x) hi (placesOf_self x gone rest)
        (placesOf_self x t.places rest))
    · have hstate : (s.instruments.set x t.state)[y]? = some o' := hy
      rw [List.getElem?_set_ne hne] at hstate
      have hhistory : (s.apply i x rest t).historyOf y = s.historyOf y :=
        historyOf_of_ne s hne t.happenings
      have hplaces : (s.apply i x rest t).placesAt y = s.placesAt y :=
        Pool.flatMap_set hi (by rw [placesOf_of_ne hne, placesOf_of_ne hne])
      rw [hhistory, hplaces]
      exact h.lived y o' hstate
  · have hlong : s.instruments.length ≤ y := by
      rwa [State.apply, List.length_set] at hy
    have hne : x ≠ y := by omega
    have hhistory : (s.apply i x rest t).historyOf y = s.historyOf y :=
      historyOf_of_ne s hne t.happenings
    have hplaces : (s.apply i x rest t).placesAt y = s.placesAt y :=
      Pool.flatMap_set hi (by rw [placesOf_of_ne hne, placesOf_of_ne hne])
    rw [hhistory, hplaces]
    exact h.unborn y hlong

theorem Invariant.spawn (h : Invariant s) : Invariant { s with threads := s.threads ++ [[]] } := by
  have hplaces (x : Nat) :
      ({ s with threads := s.threads ++ [[]] } : State).placesAt x = s.placesAt x := by
    simp [State.placesAt, placesOf]
  refine ⟨fun x o hx => ?_, fun x hx => ?_⟩
  · rw [hplaces]
    exact h.lived x o hx
  · rw [hplaces]
    exact h.unborn x hx

/-- The state of a new instrument is made. -/
theorem Invariant.create (h : Invariant s) (hi : s.threads[i]? = some frames) (backed : Bool)
    (userDataDestroy : Option UInt64) :
    Invariant { s with
      instruments := s.instruments ++ [.new backed userDataDestroy]
      threads := s.threads.set i (⟨.creating, s.instruments.length⟩ :: frames) } := by
  refine ⟨fun y o hy => ?_, fun y hy => ?_⟩
  · have hstate : (s.instruments ++ [.new backed userDataDestroy])[y]? = some o := hy
    by_cases hne : s.instruments.length = y
    · subst hne
      rw [List.getElem?_concat_length] at hstate
      obtain rfl := Option.some.inj hstate
      obtain ⟨hplaces, hhistory⟩ := h.unborn _ le_rfl
      have hexchange : Exchange (s.placesAt s.instruments.length)
          ((s.threads.set i (⟨.creating, s.instruments.length⟩ :: frames)).flatMap
            (placesOf s.instruments.length)) [] [.creating] :=
        Pool.exchange_flatMap (placesOf _) hi rfl (placesOf_self _ [.creating] frames)
      rw [hplaces] at hexchange
      show Lived _ _ (s.historyOf _)
      rw [hhistory]
      exact lived_new hexchange backed userDataDestroy
    · have hlt : y < s.instruments.length := by
        have hlen := (List.getElem?_eq_some_iff.mp hstate).1
        rw [List.length_append, List.length_singleton] at hlen
        omega
      rw [List.getElem?_append_left hlt] at hstate
      have hplaces : (s.threads.set i (⟨.creating, s.instruments.length⟩ :: frames)).flatMap
          (placesOf y) = s.placesAt y :=
        Pool.flatMap_set hi (placesOf_of_ne hne [.creating] frames)
      show Lived o ((s.threads.set i _).flatMap (placesOf y)) (s.historyOf y)
      rw [hplaces]
      exact h.lived y o hstate
  · have hlen : (s.instruments ++ [CallbackState.new backed userDataDestroy]).length ≤ y := hy
    rw [List.length_append, List.length_singleton] at hlen
    have hne : s.instruments.length ≠ y := by omega
    have hplaces : (s.threads.set i (⟨.creating, s.instruments.length⟩ :: frames)).flatMap
        (placesOf y) = s.placesAt y :=
      Pool.flatMap_set hi (placesOf_of_ne hne [.creating] frames)
    show (s.threads.set i _).flatMap (placesOf y) = [] ∧ s.historyOf y = []
    rw [hplaces]
    exact h.unborn y (by omega)

theorem step_invariant {action : Action} {answer : Option Fail} (h : Invariant s)
    (hstep : step s action = some (s', answer)) : Invariant s' := by
  cases action with
  | spawn =>
    obtain rfl := congrArg Prod.fst (Option.some.inj hstep).symm
    exact h.spawn
  | create i request =>
    obtain ⟨frames, hi, hstep⟩ := Option.bind_eq_some_iff.mp hstep
    split at hstep
    · split at hstep
      · obtain rfl := congrArg Prod.fst (Option.some.inj hstep).symm
        exact h
      · rename_i backed _
        obtain rfl := congrArg Prod.fst (Option.some.inj hstep).symm
        exact h.create hi backed request.userDataDestroy
    · cases hstep
  | call i x call =>
    obtain ⟨frames, hi, hstep⟩ := Option.bind_eq_some_iff.mp hstep
    split at hstep
    · obtain ⟨o, hx, hstep⟩ := Option.bind_eq_some_iff.mp hstep
      obtain ⟨t, henter, heq⟩ := Option.map_eq_some_iff.mp hstep
      obtain rfl := congrArg Prod.fst heq
      exact h.apply hi hx rfl fun pool' hexchange => enter_lived (h.lived x o hx) henter hexchange
    · cases hstep
  | turn i move =>
    obtain ⟨frames, hi, hstep⟩ := Option.bind_eq_some_iff.mp hstep
    cases frames with
    | nil => cases hstep
    | cons frame rest =>
      obtain ⟨o, hx, hstep⟩ := Option.bind_eq_some_iff.mp hstep
      obtain ⟨t, hturn, heq⟩ := Option.map_eq_some_iff.mp hstep
      obtain rfl := congrArg Prod.fst heq
      have hp : frame.place ∈ s.placesAt frame.instrument := by
        refine List.mem_flatMap.mpr ⟨_, List.mem_of_getElem? hi, ?_⟩
        simp [placesOf]
      exact h.apply hi hx rfl fun pool' hexchange =>
        turn_lived (h.lived _ o hx) hp hturn hexchange

theorem run_invariant {actions : List Action} (h : run actions = some s) : Invariant s := by
  refine Run.tryRun_invariant ?_ invariant_initial h
  intro s action s' hs hstep
  obtain ⟨⟨s₁, answer⟩, htaken, rfl⟩ := Option.map_eq_some_iff.mp hstep
  exact step_invariant hs htaken

/-! ### What holds of every instrument -/

/-- No call holds the user data of an instrument. -/
def State.Unheld (s : State) (x : Nat) : Prop := ∀ place ∈ s.placesAt x, place.datas = 0

instance (s : State) (x : Nat) : Decidable (s.Unheld x) := by
  unfold State.Unheld
  infer_instance

structure UserDataOnce (s : State) : Prop where
  /-- The user data of a successful creation is destroyed once when the destruction of the handle has
  taken it and no call holds it, and before that not at all. -/
  destroyed : ∀ x o, s.instruments[x]? = some o → (s.historyOf x).count .destroyBegan =
    if o.userDataDestroy.isSome = true ∧ .created ∈ s.historyOf x ∧ o.userData = false ∧ s.Unheld x
    then 1 else 0
  taken : ∀ x o, s.instruments[x]? = some o → .destroyReturned ∈ s.historyOf x →
    .created ∈ s.historyOf x ∧ o.userData = false
  /-- The user data of a failed creation stays with the caller. -/
  failed : ∀ x, .failed ∈ s.historyOf x → .created ∉ s.historyOf x ∧ .destroyBegan ∉ s.historyOf x
  running : ∀ x, .running ∈ s.placesAt x → .destroyBegan ∉ s.historyOf x
  destroyed_last : ∀ x before after, s.historyOf x = before ++ .destroyBegan :: after →
    .destroyCalled ∈ before ∧ before.count .callbackBegan = before.count .callbackEnded ∧
      .callbackBegan ∉ after ∧ .destroyBegan ∉ after
  /-- Once the destruction of the handle has returned no call clones the user data, and the callbacks
  that begin are those of the calls that had. -/
  returned_last : ∀ x before after, s.historyOf x = before ++ .destroyReturned :: after →
    .acquired ∉ after ∧
      before.count .callbackBegan + after.count .callbackBegan ≤ before.count .acquired
  /-- The SDK is handed a reference at most once. -/
  handed : ∀ x, (s.historyOf x).count .handed ≤ 1
  /-- The reference is released once when neither the SDK nor the closure has it any more, and before
  that not at all. -/
  released : ∀ x o, s.instruments[x]? = some o → (s.historyOf x).count .released =
    if .handed ∈ s.historyOf x ∧ .lent ∉ s.placesAt x ∧ o.closure = false then 1 else 0
  /-- A creation that is refused changes nothing. -/
  refused : ∀ i request e s' answer, checkCreate request = .error e →
    step s (.create i request) = some (s', answer) → s' = s ∧ answer = some e

namespace Lived

theorem destroyed_eq (h : Lived o pool events) : events.count .destroyBegan =
    if o.userDataDestroy.isSome = true ∧ .created ∈ events ∧ o.userData = false ∧
      ∀ place ∈ pool, place.datas = 0 then 1 else 0 := by
  have hdatas := h.balanced.datas
  have howner := h.balanced.owner
  have hfate := h.balanced.fate
  have hmono := Pool.weight_mono Balanced.pending_le pool
  rw [Pool.weight_add] at hmono
  have hiff : (.relinquished ∉ events ∧ o.dataCount = 0) ↔ (.created ∈ events ∧
      o.userData = false ∧ ∀ place ∈ pool, place.datas = 0) := by
    rw [← Pool.weight_eq_zero_iff, ← Bool.toNat_eq_zero, ← List.count_eq_zero, ← List.count_pos_iff]
    omega
  rw [h.kept.destroyed]
  simp only [hiff]

theorem not_destroyed (h : Lived o pool events) {place : Place} (hplace : place ∈ pool)
    (hdatas : place.datas = 1) : .destroyBegan ∉ events := by
  have hnone := h.destroyed_eq
  rw [if_neg fun hall => absurd (hall.2.2.2 place hplace) (by omega)] at hnone
  exact List.count_eq_zero.mp hnone

theorem failed (h : Lived o pool events) (hfailed : .failed ∈ events) :
    .created ∉ events ∧ .destroyBegan ∉ events := by
  have hpos := List.count_pos_iff.mpr hfailed
  have hback := h.balanced.failed
  have hfate := h.balanced.fate
  have hcreated : events.count .created = 0 := by omega
  have hnot := List.count_eq_zero.mp hcreated
  have hnone := h.destroyed_eq
  rw [if_neg fun hall => hnot hall.2.1] at hnone
  exact ⟨hnot, List.count_eq_zero.mp hnone⟩

theorem destroyed_last (h : Lived o pool events) {before after : List Happening}
    (hsplit : events = before ++ .destroyBegan :: after) :
    .destroyCalled ∈ before ∧ before.count .callbackBegan = before.count .callbackEnded ∧
      .callbackBegan ∉ after ∧ .destroyBegan ∉ after := by
  obtain ⟨hcalled, -, hended⟩ := h.lawful before _ after hsplit
  refine ⟨hcalled, hended, fun hbegan => ?_, fun hagain => ?_⟩
  · obtain ⟨earlier, hin, hlegal⟩ := h.lawful.later hsplit hbegan
    exact hlegal hin
  · obtain ⟨earlier, hin, hlegal⟩ := h.lawful.later hsplit hagain
    exact hlegal.2.1 hin

theorem returned_last (h : Lived o pool events) {before after : List Happening}
    (hsplit : events = before ++ .destroyReturned :: after) : .acquired ∉ after ∧
      before.count .callbackBegan + after.count .callbackBegan ≤ before.count .acquired := by
  have hnot : .acquired ∉ after := by
    intro hacquired
    obtain ⟨earlier, hin, hlegal⟩ := h.lawful.later hsplit hacquired
    exact hlegal hin
  refine ⟨hnot, ?_⟩
  have hacquired := h.balanced.acquired
  rw [hsplit, List.count_append, List.count_append, List.count_cons_of_ne (by decide),
    List.count_cons_of_ne (by decide), List.count_eq_zero_of_not_mem hnot] at hacquired
  omega

theorem released_eq (h : Lived o pool events) : events.count .released =
    if .handed ∈ events ∧ .lent ∉ pool ∧ o.closure = false then 1 else 0 := by
  have hlease := h.balanced.lease
  have hhanding := h.balanced.handing
  have hlent : .lent ∉ pool ↔ weight Place.lent.is pool = 0 := by
    rw [Pool.weight_eq_zero_iff]
    refine ⟨fun hnot place hplace => ?_, fun hzero hin => by cases hzero _ hin⟩
    have hne : place ≠ .lent := fun heq => hnot (heq ▸ hplace)
    simp [hne]
  simp only [hlent]
  simp only [← Bool.toNat_eq_zero, ← List.count_pos_iff]
  split
  · omega
  · omega

end Lived

theorem Invariant.history (h : Invariant s) {e : Happening} (he : e ∈ s.historyOf x) :
    ∃ o, s.instruments[x]? = some o ∧ Lived o (s.placesAt x) (s.historyOf x) := by
  by_cases hx : x < s.instruments.length
  · exact ⟨_, List.getElem?_eq_getElem hx, h.lived x _ (List.getElem?_eq_getElem hx)⟩
  · rw [(h.unborn x (Nat.le_of_not_lt hx)).2] at he
    exact absurd he List.not_mem_nil

theorem Invariant.userDataOnce (h : Invariant s) : UserDataOnce s := {
  destroyed := fun x o hx => (h.lived x o hx).destroyed_eq
  taken := by
    intro x o hx hreturned
    have hlived := h.lived x o hx
    have hpos := List.count_pos_iff.mpr hreturned
    have hcalled := hlived.balanced.called
    have hlater := hlived.balanced.returned
    exact ⟨List.count_pos_iff.mp (by omega), hlived.balanced.of_returned hreturned⟩
  failed := by
    intro x hfailed
    obtain ⟨o, -, hlived⟩ := h.history hfailed
    exact hlived.failed hfailed
  running := by
    intro x hrunning hbegan
    obtain ⟨o, -, hlived⟩ := h.history hbegan
    exact hlived.not_destroyed hrunning rfl hbegan
  destroyed_last := by
    intro x before after hsplit
    obtain ⟨o, -, hlived⟩ := h.history (hsplit ▸ List.mem_append_right _ List.mem_cons_self)
    exact hlived.destroyed_last hsplit
  returned_last := by
    intro x before after hsplit
    obtain ⟨o, -, hlived⟩ := h.history (hsplit ▸ List.mem_append_right _ List.mem_cons_self)
    exact hlived.returned_last hsplit
  handed := by
    intro x
    by_cases hin : .handed ∈ s.historyOf x
    · obtain ⟨o, -, hlived⟩ := h.history hin
      have hhanding := hlived.balanced.handing
      omega
    · rw [List.count_eq_zero_of_not_mem hin]
      exact Nat.zero_le 1
  released := fun x o hx => (h.lived x o hx).released_eq
  refused := by
    intro i request e s' answer hrefused hstep
    obtain ⟨frames, hi, hstep⟩ := Option.bind_eq_some_iff.mp hstep
    rw [hrefused] at hstep
    split at hstep
    · have hsame := Option.some.inj hstep
      exact ⟨(congrArg Prod.fst hsame).symm, (congrArg Prod.snd hsame).symm⟩
    · cases hstep }

/-- **The user data of an observable instrument is destroyed once and never while in use**, and the
reference that the SDK has been handed is released once, in every run. -/
theorem observable_user_data_run (actions : List Action) (s : State) (hrun : run actions = some s) :
    UserDataOnce s := (run_invariant hrun).userDataOnce

def gaugeRequest : CreateRequest :=
  ⟨.live true, .elems [0x67], none, some 1, some 2, false⟩

/-- A collection has cloned the user data when the handle is destroyed, and calls the application's
callback after that. -/
def lateCallback : List Action :=
  [.spawn, .spawn, .create 0 gaugeRequest, .turn 0 .handOver, .turn 0 .build, .turn 0 (.built false),
    .call 1 0 .collect, .turn 1 .check, .turn 1 .acquire,
    .call 0 0 .destroy, .turn 0 .disable, .turn 0 .take, .turn 0 .drop, .turn 0 .drop, .turn 0 .ret,
    .turn 1 .begin, .turn 1 .finish, .turn 1 .drop, .turn 1 .finish, .turn 1 .drop,
    .call 0 0 .dropClosure]

theorem observable_user_data_run_lateCallback :
    ∃ s, run lateCallback = some s ∧ UserDataOnce s :=
  ⟨_, rfl, observable_user_data_run lateCallback _ rfl⟩

theorem callback_begins_after_destroy : ∃ s before after, run lateCallback = some s ∧
    s.historyOf 0 = before ++ .destroyReturned :: after ∧ .callbackBegan ∈ after :=
  ⟨_, [.handed, .created, .acquired, .destroyCalled],
    [.callbackBegan, .callbackEnded, .destroyBegan, .destroyEnded, .released], rfl, rfl, by decide⟩

end OtelC.Observable
