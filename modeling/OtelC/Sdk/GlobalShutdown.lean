import OtelC.Sdk.GlobalLifecycle

/-!
# A shut-down SDK is not the global provider

* `shut_down_sdk_is_not_global`: what every interleaving of installations and shutdowns keeps to.
* `shutdown_removes_a_later_registration`: where it stops, when the registration ids come again.
-/

namespace OtelC.Sdk.GlobalLifecycle

open Global (GlobalProvider Ids Vtable nextRegistrationId)

/-! ### Where the registration ids are -/

/-- Every registration id in use was taken, for the SDK that uses it. -/
structure Tokens (s : State) : Prop where
  ids : Ids s.counter (s.taken.map Prod.fst)
  carried : ∀ thread t, (s.calls thread).token = some t → t ∈ s.taken
  stored : ∀ sdk id, (s.lifecycle sdk).globalRegistration = some id → (id, sdk) ∈ s.taken
  installed : ∀ sdk, s.global.provider = some sdk → (s.global.registrationId, sdk) ∈ s.taken
  empty : s.global.provider = none → s.global.registrationId = 0

theorem tokens_initial : Tokens State.initial := {
  ids := Global.ids_start
  carried := fun _ _ h => (by cases h)
  stored := fun _ _ h => (by cases h)
  installed := fun _ h => (by cases h)
  empty := fun _ => rfl }

/-- A registration is taken out of the slot by its id only. -/
theorem unregisterRegistration_fst (signal : Signal) (global : GlobalProvider Nat)
    (registration : Option UInt64) :
    (unregisterRegistration signal global registration).1 =
      if registration = some global.registrationId ∧ global.registrationId ≠ 0 then .empty
      else global := by
  cases registration with
  | none => rw [if_neg (fun h => by cases h.1), unregisterRegistration]
  | some id =>
    rw [unregisterRegistration]
    by_cases hzero : id = 0
    · subst hzero
      rw [if_pos rfl, if_neg (fun h => h.2 (Option.some.inj h.1).symm)]
    · rw [if_neg hzero]
      by_cases hid : id = global.registrationId
      · subst hid
        rw [if_pos ⟨rfl, hzero⟩, Global.unregister_self]
      · rw [if_neg (fun h => hid (Option.some.inj h.1)), Global.unregister_of_ne (Ne.symm hid)]

section Tokens

variable {s : State} {thread sdk : Nat} {pc : Pc}

theorem Tokens.ne_zero (h : Tokens s) {id : UInt64} (hid : (id, sdk) ∈ s.taken) : id ≠ 0 :=
  h.ids.ne_zero (List.mem_map_of_mem (f := Prod.fst) hid)

theorem Tokens.setCall (h : Tokens s) (hpc : ∀ t, pc.token = some t → t ∈ s.taken) :
    Tokens (s.setCall thread pc) := by
  refine ⟨h.ids, ?_, h.stored, h.installed, h.empty⟩
  exact forall_setCall (p := fun _ pc => ∀ t, pc.token = some t → t ∈ s.taken) s pc hpc
    fun other _ => h.carried other

theorem Tokens.setLifecycle (h : Tokens s) {lifecycle : Lifecycle}
    (hlifecycle : ∀ id, lifecycle.globalRegistration = some id → (id, sdk) ∈ s.taken) :
    Tokens (s.setLifecycle sdk lifecycle) := by
  refine ⟨h.ids, h.carried, fun i id hid => ?_, h.installed, h.empty⟩
  change (Function.update s.lifecycle sdk lifecycle i).globalRegistration = some id at hid
  by_cases hi : i = sdk
  · subst hi
    rw [Function.update_self] at hid
    exact hlifecycle id hid
  · rw [Function.update_of_ne hi] at hid
    exact h.stored i id hid

theorem Tokens.take (h : Tokens s) : Tokens { s with
    counter := (nextRegistrationId s.counter).2
    taken := s.taken ++ [((nextRegistrationId s.counter).1, sdk)] } := {
  ids := by
    rw [List.map_append, List.map_singleton]
    exact h.ids.next
  carried := fun thread t ht => List.mem_append_left _ (h.carried thread t ht)
  stored := fun i id hid => List.mem_append_left _ (h.stored i id hid)
  installed := fun i hi => List.mem_append_left _ (h.installed i hi)
  empty := h.empty }

theorem Tokens.unregister (h : Tokens s) (signal : Signal) (registration : Option UInt64) :
    Tokens { s with global := (unregisterRegistration signal s.global registration).1 } := by
  rw [unregisterRegistration_fst]
  split
  · exact ⟨h.ids, h.carried, h.stored, fun _ hnone => (by cases hnone), fun _ => rfl⟩
  · exact h

theorem Tokens.step (h : Tokens s) {signal : Signal} {action : Action} {s' : State}
    (hmoves : Moves signal s action s') : Tokens s' := by
  cases hmoves with
  | stay => exact h
  | lock _ _ _ =>
    apply Tokens.setCall
    · exact ⟨h.ids, h.carried, h.stored, h.installed, h.empty⟩
    · intro t ht
      cases ht
  | refuse _ =>
    apply Tokens.setCall
    · exact ⟨h.ids, h.carried, h.stored, h.installed, h.empty⟩
    · intro t ht
      cases ht
  | take _ =>
    apply Tokens.setCall h.take
    intro t ht
    obtain rfl := Option.some.inj ht
    exact List.mem_append_right _ (List.mem_singleton_self _)
  | @swap thread sdk id hcall =>
    have htaken : (id, sdk) ∈ s.taken := h.carried thread _ (congrArg Pc.token hcall)
    apply Tokens.setCall
    · refine ⟨h.ids, h.carried, h.stored, fun i hi => ?_, fun hnone => by cases hnone⟩
      obtain rfl := Option.some.inj hi
      exact htaken
    · intro t ht
      obtain rfl := Option.some.inj ht
      exact htaken
  | forget _ =>
    apply Tokens.setCall
    · exact ⟨h.ids, h.carried, h.stored, h.installed, h.empty⟩
    · intro t ht
      cases ht
  | @store thread sdk id hcall =>
    have htaken : (id, sdk) ∈ s.taken := h.carried thread _ (congrArg Pc.token hcall)
    apply Tokens.setLifecycle
    · apply Tokens.setCall
      · exact ⟨h.ids, h.carried, h.stored, h.installed, h.empty⟩
      · intro t ht
        cases ht
    · intro other hother
      obtain rfl := Option.some.inj hother
      exact htaken
  | @start thread sdk reentrant _ _ _ =>
    apply Tokens.setCall
    · apply Tokens.setLifecycle
      · exact ⟨h.ids, h.carried, h.stored, h.installed, h.empty⟩
      · intro id hid
        cases hid
    · intro t ht
      obtain ⟨id, hid, rfl⟩ := Option.map_eq_some_iff.mp ht
      exact h.stored sdk id hid
  | unregister _ =>
    apply Tokens.setCall (h.unregister signal _)
    intro t ht
    cases ht
  | finish _ =>
    apply Tokens.setCall
    · exact ⟨h.ids, h.carried, h.stored, h.installed, h.empty⟩
    · intro t ht
      cases ht

end Tokens

/-! ### Who knows the registration in the slot -/

/-- The SDK knows its registration: the call that just made it is about to store it, the call that
shuts the SDK down has it in hand, or it is stored and nobody is about to replace it. -/
def State.Knows (s : State) (sdk : Nat) (id : UInt64) : Prop :=
  (∃ thread, s.calls thread = .registered sdk id) ∨
    (∃ thread, s.calls thread = .unregistering sdk (some id)) ∨
    (s.lifecycle sdk).globalRegistration = some id ∧
      ∀ thread other, s.calls thread ≠ .registered sdk other

def Known (s : State) : Prop :=
  ∀ sdk, s.global.provider = some sdk → s.Knows sdk s.global.registrationId

theorem known_initial : Known State.initial := fun _ h => (by cases h)

section Known

variable {s : State} {thread sdk other : Nat} {pc : Pc} {id : UInt64}

/-- A call moves that has nothing to do with the registration. -/
theorem State.Knows.setCall (h : s.Knows sdk id)
    (hregistered : ∀ id, s.calls thread ≠ .registered sdk id)
    (hunregistering : ∀ registration, s.calls thread ≠ .unregistering sdk registration)
    (hpc : ∀ id, pc ≠ .registered sdk id) : (s.setCall thread pc).Knows sdk id := by
  rcases h with ⟨x, hx⟩ | ⟨x, hx⟩ | ⟨hstored, hnone⟩
  · have hne : x ≠ thread := by
      rintro rfl
      exact hregistered id hx
    exact .inl ⟨x, (setCall_of_ne s pc hne).trans hx⟩
  · have hne : x ≠ thread := by
      rintro rfl
      exact hunregistering (some id) hx
    exact .inr (.inl ⟨x, (setCall_of_ne s pc hne).trans hx⟩)
  · refine .inr (.inr ⟨hstored, ?_⟩)
    exact forall_setCall (p := fun _ pc => ∀ id, pc ≠ .registered sdk id) s pc hpc
      fun x _ => hnone x

theorem State.Knows.setLifecycle (h : s.Knows sdk id) (hne : sdk ≠ other) (lifecycle : Lifecycle) :
    (s.setLifecycle other lifecycle).Knows sdk id := by
  rcases h with h | h | ⟨hstored, hnone⟩
  · exact .inl h
  · exact .inr (.inl h)
  · refine .inr (.inr ⟨?_, hnone⟩)
    rw [← hstored]
    exact congrArg Lifecycle.globalRegistration (Function.update_of_ne hne _ _)

/-- The one call that installs an SDK is the one that made the registration in the slot. -/
theorem State.Knows.eq_of_registered (h : s.Knows sdk id) (hlocked : Locked s) (honce : Once s)
    {made : UInt64} (hcall : s.calls thread = .registered sdk made) : made = id := by
  have hlocks : (s.calls thread).locks = some sdk := congrArg Pc.locks hcall
  rcases h with ⟨x, hx⟩ | ⟨x, hx⟩ | ⟨-, hnone⟩
  · obtain rfl := hlocked.eq hlocks (congrArg Pc.locks hx)
    cases hcall.symm.trans hx
    rfl
  · have heffective := (honce.shuts x sdk (congrArg Pc.shuts hx)).1
    exact absurd ((honce.mem_effective sdk).mp heffective) (hlocked.not_started hlocks)
  · exact absurd hcall (hnone thread made)

/-- Before its shutdown starts, an SDK that is not being installed has stored the registration. -/
theorem State.Knows.stored (h : s.Knows sdk id) (hlocked : Locked s) (honce : Once s)
    (hlock : s.lockedBy sdk = none) (hstarted : ¬(s.lifecycle sdk).shutdownStarted) :
    (s.lifecycle sdk).globalRegistration = some id := by
  rcases h with ⟨x, hx⟩ | ⟨x, hx⟩ | ⟨hstored, -⟩
  · cases hlock.symm.trans ((hlocked.holder x sdk).mp (congrArg Pc.locks hx))
  · have heffective := (honce.shuts x sdk (congrArg Pc.shuts hx)).1
    exact absurd ((honce.mem_effective sdk).mp heffective) hstarted
  · exact hstored

/-- Once its shutdown has started, only the call that shuts the SDK down has the registration. -/
theorem State.Knows.unregistering (h : s.Knows sdk id) (hlocked : Locked s)
    (hstarted : (s.lifecycle sdk).shutdownStarted) :
    ∃ thread, s.calls thread = .unregistering sdk (some id) := by
  rcases h with ⟨x, hx⟩ | ⟨x, hx⟩ | ⟨hstored, -⟩
  · exact absurd hstarted (hlocked.not_started (congrArg Pc.locks hx))
  · exact ⟨x, hx⟩
  · cases (hlocked.started sdk hstarted).2.symm.trans hstored

theorem Known.step (h : Known s) (hlocked : Locked s) (honce : Once s) (htokens : Tokens s)
    {signal : Signal} {action : Action} {s' : State} (hmoves : Moves signal s action s') :
    Known s' := by
  cases hmoves with
  | stay => exact h
  | lock hcall _ _ =>
    intro i hi
    apply State.Knows.setCall (h i hi)
    · exact fun _ heq => (by cases hcall.symm.trans heq)
    · exact fun _ heq => (by cases hcall.symm.trans heq)
    · exact fun _ heq => (by cases heq)
  | refuse hcall =>
    intro i hi
    apply State.Knows.setCall (h i hi)
    · exact fun _ heq => (by cases hcall.symm.trans heq)
    · exact fun _ heq => (by cases hcall.symm.trans heq)
    · exact fun _ heq => (by cases heq)
  | take hcall =>
    intro i hi
    apply State.Knows.setCall (h i hi)
    · exact fun _ heq => (by cases hcall.symm.trans heq)
    · exact fun _ heq => (by cases hcall.symm.trans heq)
    · exact fun _ heq => (by cases heq)
  | @swap thread sdk id hcall =>
    intro i hi
    obtain rfl := Option.some.inj hi
    exact .inl ⟨thread, setCall_self _ _⟩
  | @forget thread sdk hcall =>
    -- the counter does not hand out zero
    have htaken : (0, sdk) ∈ s.taken := htokens.carried thread _ (congrArg Pc.token hcall)
    exact absurd rfl (htokens.ne_zero htaken)
  | @store thread sdk id hcall =>
    intro i hi
    by_cases hsdk : i = sdk
    · subst hsdk
      have hid := (h i hi).eq_of_registered hlocked honce hcall
      refine .inr (.inr ⟨?_, ?_⟩)
      · show (Function.update s.lifecycle i _ i).globalRegistration = some s.global.registrationId
        rw [Function.update_self, ← hid]
      · refine forall_setCall (p := fun _ pc => ∀ id, pc ≠ .registered i id) (s.unlock i) .idle ?_ ?_
        · exact fun _ heq => (by cases heq)
        · intro x hx other hother
          exact hx (hlocked.eq (congrArg Pc.locks hcall) (congrArg Pc.locks hother))
    · apply State.Knows.setLifecycle _ hsdk
      apply State.Knows.setCall (h i hi)
      · exact fun _ heq => hsdk (Pc.registered.inj (hcall.symm.trans heq)).1.symm
      · exact fun _ heq => (by cases hcall.symm.trans heq)
      · exact fun _ heq => (by cases heq)
  | @start thread sdk reentrant hcall hlock hstarted =>
    intro i hi
    by_cases hsdk : i = sdk
    · subst hsdk
      have hstored := (h i hi).stored hlocked honce hlock hstarted
      refine .inr (.inl ⟨thread, ?_⟩)
      rw [setCall_self, hstored]
      rfl
    · apply State.Knows.setCall
      · exact State.Knows.setLifecycle (h i hi) hsdk _
      · exact fun _ heq => (by cases hcall.symm.trans heq)
      · exact fun _ heq => (by cases hcall.symm.trans heq)
      · exact fun _ heq => (by cases heq)
  | @unregister thread sdk registration hcall =>
    rw [unregisterRegistration_fst]
    split
    · exact fun i hi => (by cases hi)
    · rename_i hnot
      intro i hi
      by_cases hsdk : i = sdk
      · subst hsdk
        have hshuts : (s.calls thread).shuts = some i := congrArg Pc.shuts hcall
        have hstarted := (honce.mem_effective i).mp (honce.shuts thread i hshuts).1
        obtain ⟨x, hx⟩ := (h i hi).unregistering hlocked hstarted
        obtain rfl := honce.alone thread x i hshuts (congrArg Pc.shuts hx)
        have hregistration := (Pc.unregistering.inj (hcall.symm.trans hx)).2
        exact absurd ⟨hregistration, htokens.ne_zero (htokens.installed i hi)⟩ hnot
      · apply State.Knows.setCall (h i hi)
        · exact fun _ heq => (by cases hcall.symm.trans heq)
        · exact fun _ heq => hsdk (Pc.unregistering.inj (hcall.symm.trans heq)).1.symm
        · exact fun _ heq => (by cases heq)
  | finish hcall =>
    intro i hi
    apply State.Knows.setCall (h i hi)
    · exact fun _ heq => (by cases hcall.symm.trans heq)
    · exact fun _ heq => (by cases hcall.symm.trans heq)
    · exact fun _ heq => (by cases heq)

end Known

/-! ### Every run -/

structure Invariant (s : State) : Prop where
  locked : Locked s
  once : Once s
  tokens : Tokens s
  known : Known s

theorem invariant_initial : Invariant State.initial :=
  ⟨locked_initial, once_initial, tokens_initial, known_initial⟩

theorem moves_of_attempt {signal : Signal} {s s' : State} {action : Action}
    (h : (step signal s action).map Prod.fst = some s') : Moves signal s action s' := by
  obtain ⟨⟨s₁, answer⟩, hstep, rfl⟩ := Option.map_eq_some_iff.mp h
  exact moves_of_step hstep

section Runs

variable {signal : Signal} {s s' : State} {action : Action} {actions : List Action}

theorem Invariant.step (h : Invariant s) (hmoves : Moves signal s action s') : Invariant s' := {
  locked := h.locked.step hmoves
  once := h.once.step hmoves
  tokens := h.tokens.step hmoves
  known := h.known.step h.locked h.once h.tokens hmoves }

/-- What was shut down stays shut down. -/
theorem reached_subset_step (hmoves : Moves signal s action s') : s.reached ⊆ s'.reached := by
  cases hmoves with
  | finish _ => exact List.subset_append_left _ _
  | _ => exact List.Subset.refl _

theorem Invariant.run (h : Invariant s) (hrun : run signal s actions = some s') :
    Invariant s' ∧ s.reached ⊆ s'.reached := by
  refine Run.tryRun_rel (r := fun s s' => s.reached ⊆ s'.reached) ?_ ?_ ?_ h hrun
  · exact fun _ => List.Subset.refl _
  · exact fun _ _ _ => List.Subset.trans
  · intro s action s' hs hstep
    have hmoves := moves_of_attempt hstep
    exact ⟨hs.step hmoves, reached_subset_step hmoves⟩

/-- The slot changes when an SDK is installed, and when its registration is taken out by id. -/
theorem global_of_moves (hmoves : Moves signal s action s') (hne : s'.global ≠ s.global) :
    (∃ thread, action = .swap thread) ∨ ∃ thread sdk, action = .unregister thread ∧
      s.calls thread = .unregistering sdk (some s.global.registrationId) ∧
      s.global.registrationId ≠ 0 := by
  cases hmoves with
  | @swap thread sdk id hcall => exact .inl ⟨thread, rfl⟩
  | @unregister thread sdk registration hcall =>
    change (unregisterRegistration signal s.global registration).1 ≠ s.global at hne
    rw [unregisterRegistration_fst] at hne
    split at hne
    · rename_i hown
      obtain ⟨rfl, hzero⟩ := hown
      exact .inr ⟨thread, sdk, rfl, hcall, hzero⟩
    · exact absurd rfl hne
  | _ => exact absurd rfl hne

/-- While the ids are distinct, an id in the slot belongs to the SDK that is installed. -/
theorem Tokens.provider_eq (h : Tokens s) (hids : s.taken.length < 2 ^ 64) {sdk : Nat}
    (htaken : (s.global.registrationId, sdk) ∈ s.taken) (hzero : s.global.registrationId ≠ 0) :
    s.global.provider = some sdk := by
  have hnodup : (s.taken.map Prod.fst).Nodup := by
    apply h.ids.nodup_iff.mpr
    rwa [List.length_map]
  cases hprovider : s.global.provider with
  | none => exact absurd (h.empty hprovider) hzero
  | some installed =>
    have hinj := List.inj_on_of_nodup_map hnodup (h.installed installed hprovider) htaken rfl
    rw [(Prod.mk.inj hinj).2]

end Runs

/-- What the SDKs and the slot keep to. -/
structure ShutDownOnce (signal : Signal) (s : State) : Prop where
  /-- While the ids are distinct, a shutdown takes nothing out of the slot but its own SDK. -/
  removes_own : s.taken.length < 2 ^ 64 →
    ∀ action s' answer, step signal s action = some (s', answer) → s'.global ≠ s.global →
      (∃ thread, action = .swap thread) ∨ ∃ thread sdk registration, action = .unregister thread ∧
        s.calls thread = .unregistering sdk registration ∧ s.global.provider = some sdk
  effective_nodup : s.effective.Nodup
  reached_nodup : s.reached.Nodup
  reached_effective : ∀ sdk ∈ s.reached, sdk ∈ s.effective
  /-- A shutdown after the effective one changes nothing and says so, but for a call from an async
  reader, which is refused anyway. -/
  others : ∀ thread sdk reentrant s' answer, sdk ∈ s.effective →
    step signal s (.shutdown thread sdk reentrant) = some (s', answer) →
      s' = s ∧ (answer = some ⟨.alreadyShutdown, some signal.alreadyShutdown⟩ ∨
        ∃ message, reentrant ∧ signal.reentrant = some message ∧
          answer = some ⟨.invalidConfig, some message⟩)

theorem shutdown_again {signal : Signal} {s s' : State} {thread sdk : Nat} {reentrant : Bool}
    {answer : Option Answer} (hstarted : (s.lifecycle sdk).shutdownStarted)
    (h : step signal s (.shutdown thread sdk reentrant) = some (s', answer)) :
    s' = s ∧ (answer = some ⟨.alreadyShutdown, some signal.alreadyShutdown⟩ ∨
      ∃ message, reentrant ∧ signal.reentrant = some message ∧
        answer = some ⟨.invalidConfig, some message⟩) := by
  rw [step] at h
  split at h
  · rename_i message _ hmessage
    cases h
    by_cases hreentrant : reentrant = true
    · rw [if_pos hreentrant] at hmessage
      exact ⟨rfl, .inr ⟨message, hreentrant, hmessage, rfl⟩⟩
    · rw [if_neg hreentrant] at hmessage
      cases hmessage
  · rw [if_pos hstarted] at h
    cases h
    exact ⟨rfl, .inl rfl⟩
  · cases h

theorem Invariant.shutDownOnce {s : State} (h : Invariant s) (signal : Signal) :
    ShutDownOnce signal s := {
  removes_own := by
    intro hids action s' answer hstep hne
    rcases global_of_moves (moves_of_step hstep) hne with hswap | ⟨thread, sdk, haction, hcall, hzero⟩
    · exact .inl hswap
    · have htaken := h.tokens.carried thread _ (congrArg Pc.token hcall)
      exact .inr ⟨thread, sdk, _, haction, hcall, h.tokens.provider_eq hids htaken hzero⟩
  effective_nodup := h.once.effective_nodup
  reached_nodup := h.once.reached_nodup
  reached_effective := h.once.reached_effective
  others := fun _ sdk _ _ _ heffective =>
    shutdown_again ((h.once.mem_effective sdk).mp heffective) }

theorem Invariant.not_global {s : State} (h : Invariant s) {sdk : Nat} (hsdk : sdk ∈ s.reached) :
    s.global.provider ≠ some sdk := by
  intro hprovider
  have hstarted := (h.once.mem_effective sdk).mp (h.once.reached_effective sdk hsdk)
  obtain ⟨thread, hcall⟩ := (h.known sdk hprovider).unregistering h.locked hstarted
  exact (h.once.shuts thread sdk (congrArg Pc.shuts hcall)).2 hsdk

/-- **A shut-down SDK is not the global provider**, and never again becomes it. -/
theorem shut_down_sdk_is_not_global (signal : Signal) (before later : List Action) (s s' : State)
    (h : run signal .initial before = some s) (hlater : run signal s later = some s') :
    (∀ sdk ∈ s.reached, s'.global.provider ≠ some sdk) ∧ ShutDownOnce signal s' := by
  have hs := (invariant_initial.run h).1
  obtain ⟨hs', hsubset⟩ := hs.run hlater
  exact ⟨fun sdk hsdk => hs'.not_global (hsubset hsdk), hs'.shutDownOnce signal⟩

/-- Two SDKs are installed at the same time, and the first one is shut down while the second one is
replaced by it. -/
def raceBefore : List Action :=
  [.setAsGlobal 0 0, .setAsGlobal 1 1, .register 0 .compatible, .register 1 .compatible, .swap 1,
    .swap 0, .store 0, .shutdown 2 0 false, .unregister 2, .shutdownProvider 2 (.ok ())]

def raceLater : List Action := [.store 1, .setAsGlobal 0 0, .shutdown 3 0 false, .shutdown 0 1 false]

theorem shut_down_sdk_is_not_global_race :
    ∃ s s', run metrics .initial raceBefore = some s ∧ run metrics s raceLater = some s' ∧
      (∀ sdk ∈ s.reached, s'.global.provider ≠ some sdk) ∧ ShutDownOnce metrics s' :=
  ⟨_, _, rfl, rfl, shut_down_sdk_is_not_global metrics raceBefore raceLater _ _ rfl rfl⟩

/-! ### When the registration ids come again -/

def installation (thread sdk : Nat) : List Action :=
  [.setAsGlobal thread sdk, .register thread .compatible, .swap thread, .store thread]

/-- One SDK is installed, and another one over and over again. -/
def reinstallations : Nat → List Action
  | 0 => installation 0 0
  | n + 1 => reinstallations n ++ installation 1 1

/-- Nobody is calling, and no SDK is shut down. -/
structure Quiet (s : State) : Prop where
  idle : ∀ thread, s.calls thread = .idle
  unlocked : ∀ sdk, s.lockedBy sdk = none
  running : ∀ sdk, ¬(s.lifecycle sdk).shutdownStarted

theorem quiet_initial : Quiet State.initial :=
  ⟨fun _ => rfl, fun _ => rfl, fun _ h => (by cases h)⟩

section Installing

variable {signal : Signal} {s : State} {thread sdk : Nat} {id : UInt64}

/-- The state after an installation that nobody disturbs. -/
def State.installed (s : State) (thread sdk : Nat) : State :=
  let id := (nextRegistrationId s.counter).1
  ((({ s with
    counter := (nextRegistrationId s.counter).2
    taken := s.taken ++ [(id, sdk)]
    lockedBy := Function.update (Function.update s.lockedBy sdk (some thread)) sdk none
    global := ⟨some sdk, id⟩ }.setCall thread (.checked sdk)).setCall thread
      (.registering sdk id)).setCall thread (.registered sdk id)).setCall thread .idle |>.setLifecycle
        sdk { s.lifecycle sdk with globalRegistration := some id }

theorem run_cons {s' : State} {action : Action} {actions : List Action} {answer : Option Answer}
    (h : step signal s action = some (s', answer)) :
    run signal s (action :: actions) = run signal s' actions := by
  refine Run.tryRun_cons_of_eq ?_
  rw [h]
  rfl

theorem step_setAsGlobal (h : Quiet s) : step signal s (.setAsGlobal thread sdk) =
    continued ((s.lock sdk thread).setCall thread (.checked sdk)) := by
  rw [step, h.idle thread, h.unlocked sdk]
  exact if_neg (h.running sdk)

theorem step_register (hcall : s.calls thread = .checked sdk) :
    step signal s (.register thread .compatible) = continued ({ s with
      counter := (nextRegistrationId s.counter).2
      taken := s.taken ++ [((nextRegistrationId s.counter).1, sdk)] }.setCall thread
        (.registering sdk (nextRegistrationId s.counter).1)) := by
  rw [step, hcall]
  rfl

theorem step_swap (hcall : s.calls thread = .registering sdk id) : step signal s (.swap thread) =
    continued ({ s with global := ⟨some sdk, id⟩ }.setCall thread (.registered sdk id)) := by
  rw [step, hcall]
  rfl

theorem step_store (hcall : s.calls thread = .registered sdk id) (hid : id ≠ 0) :
    step signal s (.store thread) =
      answered (((s.unlock sdk).setCall thread .idle).setLifecycle sdk
        { s.lifecycle sdk with globalRegistration := some id }) ⟨.ok, none⟩ := by
  rw [step, hcall]
  exact if_neg hid

theorem step_unregister (signal : Signal) (s : State) {registration : Option UInt64}
    (hcall : s.calls thread = .unregistering sdk registration) :
    step signal s (.unregister thread) = continued ({ s with
      global := (unregisterRegistration signal s.global registration).1 }.setCall thread
        (.shutting sdk (unregisterRegistration signal s.global registration).2)) := by
  rw [step, hcall]

theorem run_installation (h : Quiet s) :
    run signal s (installation thread sdk) = some (s.installed thread sdk) := by
  refine (run_cons (step_setAsGlobal h)).trans ?_
  refine (run_cons (step_register (setCall_self _ _))).trans ?_
  refine (run_cons (step_swap (setCall_self _ _))).trans ?_
  refine (run_cons (step_store (setCall_self _ _) ?_)).trans rfl
  exact Global.nextRegistrationId_ne_zero s.counter

theorem quiet_installed (h : Quiet s) : Quiet (s.installed thread sdk) := by
  constructor
  · intro x
    refine forall_setCall (p := fun _ pc => pc = .idle) _ .idle rfl ?_ x
    intro x hx
    exact (setCall_of_ne _ _ hx).trans ((setCall_of_ne _ _ hx).trans
      ((setCall_of_ne _ _ hx).trans (h.idle x)))
  · intro i
    show Function.update (Function.update s.lockedBy sdk (some thread)) sdk none i = none
    by_cases hi : i = sdk
    · rw [hi, Function.update_self]
    · rw [Function.update_of_ne hi, Function.update_of_ne hi, h.unlocked i]
  · intro i
    show ¬(Function.update s.lifecycle sdk _ i).shutdownStarted
    by_cases hi : i = sdk
    · subst hi
      rw [Function.update_self]
      exact h.running i
    · rw [Function.update_of_ne hi]
      exact h.running i

end Installing

/-- After the installation of the first SDK and `n` of the second one. -/
structure Reinstalled (n : Nat) (s : State) : Prop extends Quiet s where
  first : (s.lifecycle 0).globalRegistration = some 1
  length : s.taken.length = n + 1
  id : s.global.registrationId.toNat = Ticket.nth Global.idRange n
  provider : 0 < n → s.global.provider = some 1

theorem reinstalled_run (n : Nat) :
    ∃ s, run metrics .initial (reinstallations n) = some s ∧ Reinstalled n s := by
  induction n with
  | zero =>
    refine ⟨_, run_installation quiet_initial, ?_⟩
    exact ⟨quiet_installed quiet_initial, rfl, rfl, rfl, fun h => absurd h (Nat.lt_irrefl 0)⟩
  | succ n ih =>
    obtain ⟨s, hrun, hs⟩ := ih
    have htokens := (invariant_initial.run hrun).1.tokens
    refine ⟨_, (Run.tryRun_append hrun).trans (run_installation hs.toQuiet), ?_⟩
    refine ⟨quiet_installed hs.toQuiet, hs.first, ?_, ?_, fun _ => rfl⟩
    · show (s.taken ++ [_]).length = n + 1 + 1
      rw [List.length_append, List.length_singleton, hs.length]
    · show (nextRegistrationId s.counter).1.toNat = _
      rw [Global.nextRegistrationId_fst, htokens.ids.counter_eq, List.length_map, hs.length]

/-- **A shutdown removes a registration that another SDK installed later**, when that one was given
the registration id of the first again; and a shutdown that an async reader calls is refused. -/
theorem shutdown_removes_a_later_registration :
    (∃ s s' answer, run metrics .initial
        (reinstallations (2 ^ 64 - 1) ++ [.shutdown 0 0 false]) = some s ∧
      s.calls 0 = .unregistering 0 (some 1) ∧ s.global.provider = some 1 ∧
      step metrics s (.unregister 0) = some (s', answer) ∧ s'.global.provider = none) ∧
    step metrics .initial (.shutdown 0 0 true) =
      some (.initial, some ⟨.invalidConfig, metrics.reentrant⟩) := by
  obtain ⟨s, hrun, hs⟩ := reinstalled_run (2 ^ 64 - 1)
  have hid : s.global.registrationId = 1 := by
    apply UInt64.toNat_inj.mp
    rw [hs.id]
    exact Ticket.nth_wraps.trans Ticket.nth_zero
  have hstart : step metrics s (.shutdown 0 0 false) =
      continued (({ s with effective := s.effective ++ [0] }.setLifecycle 0 ⟨true, none⟩).setCall 0
        (.unregistering 0 (some 1))) := by
    rw [step, hs.idle 0, hs.unlocked 0, ← hs.first]
    exact if_neg (hs.running 0)
  have hprovider : s.global.provider = some 1 := hs.provider (by omega)
  refine ⟨⟨_, _, _, (Run.tryRun_append hrun).trans (run_cons hstart), setCall_self _ _, hprovider,
    step_unregister metrics _ (setCall_self _ _), ?_⟩, rfl⟩
  show (unregisterRegistration metrics s.global (some 1)).1.provider = none
  rw [unregisterRegistration_fst, hid]
  rfl

end OtelC.Sdk.GlobalLifecycle
