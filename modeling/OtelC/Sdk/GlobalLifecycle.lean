import OtelC.Global.Slot
import OtelC.Lib.Run

/-!
# SDKs that are the global provider

Any number of SDKs share the global slot of one signal, and any number of threads install them there
and shut them down.  Installing keeps the lifecycle of the SDK locked from its check to the moment
the registration id is stored; shutting down releases the lock before it unregisters, so that the
steps of several calls interleave between the lifecycles and the slot, which has a lock of its own.

* `Invariant.step`: whatever the slot holds of an SDK is known to that SDK, or to the one call that
  shuts it down.
-/

namespace OtelC.Sdk.GlobalLifecycle

open Global (GlobalProvider Ids Vtable nextRegistrationId)

/-- What differs between `otel_sdk_set_metrics_as_global`, `otel_sdk_metrics_shutdown` and their
siblings for logs. -/
structure Signal where
  global : Global.Signal
  installShutDown : String
  zeroToken : String
  alreadyShutdown : String
  /-- The refusal of a shutdown that an async reader calls, where there are such readers. -/
  reentrant : Option String

def metrics : Signal where
  global := Global.metrics
  installShutDown := "cannot install a shut-down Metrics provider as global"
  zeroToken := "Metrics global registration returned an invalid zero token"
  alreadyShutdown := "Metrics provider has already been shut down"
  reentrant := some "cannot shut down Metrics reentrantly from an async reader callback"

def logs : Signal where
  global := Global.logs
  installShutDown := "cannot install a shut-down LoggerProvider as global"
  zeroToken := "Logs global registration returned an invalid zero token"
  alreadyShutdown := "LoggerProvider has already been shut down"
  reentrant := none

/-- `MetricsLifecycle` and `LogsLifecycle`. -/
structure Lifecycle where
  shutdownStarted : Bool
  globalRegistration : Option UInt64
  deriving DecidableEq

def Lifecycle.default : Lifecycle := ⟨false, none⟩

structure Answer where
  status : OtelStatus
  message : Option String
  deriving DecidableEq

def Answer.ofResult : Except Fail Unit → Answer
  | .ok () => ⟨.ok, none⟩
  | .error e => ⟨e.status, some e.message⟩

/-- What a shutdown answers: a failed unregistration hides the status of the provider. -/
def shutdownAnswer (unregistered provider : Except Fail Unit) : Answer :=
  match unregistered, provider with
  | .ok (), provider => .ofResult provider
  | .error e, .ok () => ⟨e.status, some e.message⟩
  | .error e, .error e' => ⟨e.status, some e'.message⟩

/-- What a thread is doing. -/
inductive Pc where
  | idle
  /-- Installing: past the check, with the lifecycle locked. -/
  | checked (sdk : Nat)
  | registering (sdk : Nat) (id : UInt64)
  | registered (sdk : Nat) (id : UInt64)
  /-- Shutting down: the flag is set and the lock released. -/
  | unregistering (sdk : Nat) (registration : Option UInt64)
  | shutting (sdk : Nat) (unregistered : Except Fail Unit)

/-- The SDK whose lifecycle a call has locked. -/
def Pc.locks : Pc → Option Nat
  | .checked sdk => some sdk
  | .registering sdk _ => some sdk
  | .registered sdk _ => some sdk
  | _ => none

/-- The SDK that a call is shutting down. -/
def Pc.shuts : Pc → Option Nat
  | .unregistering sdk _ => some sdk
  | .shutting sdk _ => some sdk
  | _ => none

/-- The registration id a call carries, with the SDK it is for. -/
def Pc.token : Pc → Option (UInt64 × Nat)
  | .registering sdk id => some (id, sdk)
  | .registered sdk id => some (id, sdk)
  | .unregistering sdk registration => registration.map fun id => (id, sdk)
  | _ => none

structure State where
  /-- The slot, whose providers are the SDKs. -/
  global : GlobalProvider Nat
  counter : UInt64
  lifecycle : Nat → Lifecycle
  lockedBy : Nat → Option Nat
  calls : Nat → Pc
  /-- The ids that were taken, and for which SDK. -/
  taken : List (UInt64 × Nat)
  /-- The SDKs of the shutdown calls that did not report an earlier one. -/
  effective : List Nat
  /-- The SDKs of the shutdown calls that reached the provider and returned. -/
  reached : List Nat

def State.initial : State :=
  ⟨.empty, 1, fun _ => .default, fun _ => none, fun _ => .idle, [], [], []⟩

def State.setCall (s : State) (thread : Nat) (pc : Pc) : State :=
  { s with calls := Function.update s.calls thread pc }

def State.lock (s : State) (sdk thread : Nat) : State :=
  { s with lockedBy := Function.update s.lockedBy sdk (some thread) }

def State.unlock (s : State) (sdk : Nat) : State :=
  { s with lockedBy := Function.update s.lockedBy sdk none }

def State.setLifecycle (s : State) (sdk : Nat) (lifecycle : Lifecycle) : State :=
  { s with lifecycle := Function.update s.lifecycle sdk lifecycle }

inductive Action where
  | setAsGlobal (thread sdk : Nat)
  | register (thread : Nat) (vtable : Vtable)
  | swap (thread : Nat)
  | store (thread : Nat)
  /-- `reentrant` when the thread runs an async reader of the SDK. -/
  | shutdown (thread sdk : Nat) (reentrant : Bool)
  | unregister (thread : Nat)
  | shutdownProvider (thread : Nat) (result : Except Fail Unit)

def answered (s : State) (answer : Answer) : Option (State × Option Answer) := some (s, some answer)

def continued (s : State) : Option (State × Option Answer) := some (s, none)

/-- `otel_api_unregister_global_…_provider`, when there is a registration. -/
def unregisterRegistration (signal : Signal) (global : GlobalProvider Nat) :
    Option UInt64 → GlobalProvider Nat × Except Fail Unit
  | none => (global, .ok ())
  | some id =>
    if id = 0 then (global, fail .invalidArgument signal.global.zeroToken)
    else ((global.unregister id).1, .ok ())

/-- One step of one thread; `none` while the thread is elsewhere or the lifecycle locked. -/
def step (signal : Signal) (s : State) : Action → Option (State × Option Answer)
  | .setAsGlobal thread sdk =>
    match s.calls thread, s.lockedBy sdk with
    | .idle, none =>
      if (s.lifecycle sdk).shutdownStarted then
        answered s ⟨.alreadyShutdown, some signal.installShutDown⟩
      else continued ((s.lock sdk thread).setCall thread (.checked sdk))
    | _, _ => none
  | .register thread vtable =>
    match s.calls thread with
    | .checked sdk =>
      match Global.checkRegister signal.global .writable vtable with
      | .error e =>
        answered ((s.unlock sdk).setCall thread .idle) ⟨e.status, some e.message⟩
      | .ok () =>
        let (id, counter) := nextRegistrationId s.counter
        continued ({ s with counter := counter, taken := s.taken ++ [(id, sdk)] }.setCall thread
          (.registering sdk id))
    | _ => none
  | .swap thread =>
    match s.calls thread with
    | .registering sdk id =>
      continued ({ s with global := (s.global.install sdk id).1 }.setCall thread
        (.registered sdk id))
    | _ => none
  | .store thread =>
    match s.calls thread with
    | .registered sdk id =>
      let released := (s.unlock sdk).setCall thread .idle
      if id = 0 then answered released ⟨.internalError, some signal.zeroToken⟩
      else
        answered (released.setLifecycle sdk { s.lifecycle sdk with globalRegistration := some id })
          ⟨.ok, none⟩
    | _ => none
  | .shutdown thread sdk reentrant =>
    match s.calls thread, (if reentrant then signal.reentrant else none), s.lockedBy sdk with
    | .idle, some message, _ => answered s ⟨.invalidConfig, some message⟩
    | .idle, none, none =>
      if (s.lifecycle sdk).shutdownStarted then
        answered s ⟨.alreadyShutdown, some signal.alreadyShutdown⟩
      else
        continued (({ s with effective := s.effective ++ [sdk] }.setLifecycle sdk
          ⟨true, none⟩).setCall thread (.unregistering sdk (s.lifecycle sdk).globalRegistration))
    | _, _, _ => none
  | .unregister thread =>
    match s.calls thread with
    | .unregistering sdk registration =>
      let (global, unregistered) := unregisterRegistration signal s.global registration
      continued ({ s with global := global }.setCall thread (.shutting sdk unregistered))
    | _ => none
  | .shutdownProvider thread result =>
    match s.calls thread with
    | .shutting sdk unregistered =>
      answered ({ s with reached := s.reached ++ [sdk] }.setCall thread .idle)
        (shutdownAnswer unregistered result)
    | _ => none

/-- The state after an interleaving of steps. -/
def run (signal : Signal) : State → List Action → Option State :=
  Run.tryRun fun s action => (step signal s action).map Prod.fst

/-! ### What a step does -/

inductive Moves (signal : Signal) (s : State) : Action → State → Prop where
  | stay {action : Action} : Moves signal s action s
  | lock {thread sdk : Nat} (hcall : s.calls thread = .idle) (hlock : s.lockedBy sdk = none)
      (hstarted : ¬(s.lifecycle sdk).shutdownStarted) :
      Moves signal s (.setAsGlobal thread sdk)
        ((s.lock sdk thread).setCall thread (.checked sdk))
  | refuse {thread sdk : Nat} {vtable : Vtable} (hcall : s.calls thread = .checked sdk) :
      Moves signal s (.register thread vtable) ((s.unlock sdk).setCall thread .idle)
  | take {thread sdk : Nat} {vtable : Vtable} (hcall : s.calls thread = .checked sdk) :
      Moves signal s (.register thread vtable) ({ s with
        counter := (nextRegistrationId s.counter).2
        taken := s.taken ++ [((nextRegistrationId s.counter).1, sdk)] }.setCall thread
          (.registering sdk (nextRegistrationId s.counter).1))
  | swap {thread sdk : Nat} {id : UInt64} (hcall : s.calls thread = .registering sdk id) :
      Moves signal s (.swap thread)
        ({ s with global := ⟨some sdk, id⟩ }.setCall thread (.registered sdk id))
  | forget {thread sdk : Nat} (hcall : s.calls thread = .registered sdk 0) :
      Moves signal s (.store thread) ((s.unlock sdk).setCall thread .idle)
  | store {thread sdk : Nat} {id : UInt64} (hcall : s.calls thread = .registered sdk id) :
      Moves signal s (.store thread) (((s.unlock sdk).setCall thread .idle).setLifecycle sdk
        { s.lifecycle sdk with globalRegistration := some id })
  | start {thread sdk : Nat} {reentrant : Bool} (hcall : s.calls thread = .idle)
      (hlock : s.lockedBy sdk = none) (hstarted : ¬(s.lifecycle sdk).shutdownStarted) :
      Moves signal s (.shutdown thread sdk reentrant)
        (({ s with effective := s.effective ++ [sdk] }.setLifecycle sdk ⟨true, none⟩).setCall thread
          (.unregistering sdk (s.lifecycle sdk).globalRegistration))
  | unregister {thread sdk : Nat} {registration : Option UInt64}
      (hcall : s.calls thread = .unregistering sdk registration) :
      Moves signal s (.unregister thread) ({ s with
        global := (unregisterRegistration signal s.global registration).1 }.setCall thread
          (.shutting sdk (unregisterRegistration signal s.global registration).2))
  | finish {thread sdk : Nat} {unregistered result : Except Fail Unit}
      (hcall : s.calls thread = .shutting sdk unregistered) :
      Moves signal s (.shutdownProvider thread result)
        ({ s with reached := s.reached ++ [sdk] }.setCall thread .idle)

theorem moves_of_step {signal : Signal} {s s' : State} {action : Action} {answer : Option Answer}
    (h : step signal s action = some (s', answer)) : Moves signal s action s' := by
  cases action with
  | setAsGlobal thread sdk =>
    rw [step] at h
    split at h
    · rename_i hcall hlock
      split at h
      · cases h
        exact .stay
      · rename_i hstarted
        cases h
        exact .lock hcall hlock hstarted
    · cases h
  | register thread vtable =>
    rw [step] at h
    split at h
    · rename_i sdk hcall
      split at h
      · cases h
        exact .refuse hcall
      · cases h
        exact .take hcall
    · cases h
  | swap thread =>
    rw [step] at h
    split at h
    · rename_i sdk id hcall
      cases h
      exact .swap hcall
    · cases h
  | store thread =>
    rw [step] at h
    split at h
    · rename_i sdk id hcall
      dsimp only at h
      split at h
      · rename_i hzero
        subst hzero
        cases h
        exact .forget hcall
      · cases h
        exact .store hcall
    · cases h
  | shutdown thread sdk reentrant =>
    rw [step] at h
    split at h
    · cases h
      exact .stay
    · rename_i hcall _ hlock
      split at h
      · cases h
        exact .stay
      · rename_i hstarted
        cases h
        exact .start hcall hlock hstarted
    · cases h
  | unregister thread =>
    rw [step] at h
    split at h
    · rename_i sdk registration hcall
      cases h
      exact .unregister hcall
    · cases h
  | shutdownProvider thread result =>
    rw [step] at h
    split at h
    · rename_i sdk unregistered hcall
      cases h
      exact .finish hcall
    · cases h

/-! ### The lifecycle lock -/

section SetCall

variable (s : State) {thread other : Nat} (pc : Pc)

theorem setCall_self : (s.setCall thread pc).calls thread = pc := Function.update_self _ _ _

theorem setCall_of_ne (h : other ≠ thread) : (s.setCall thread pc).calls other = s.calls other :=
  Function.update_of_ne h _ _

/-- A property of all calls after one of them moved. -/
theorem forall_setCall {p : Nat → Pc → Prop} (hself : p thread pc)
    (hother : ∀ other, other ≠ thread → p other (s.calls other)) (x : Nat) :
    p x ((s.setCall thread pc).calls x) := by
  by_cases h : x = thread
  · subst h
    rw [setCall_self]
    exact hself
  · rw [setCall_of_ne s pc h]
    exact hother x h

end SetCall

/-- The lock of a lifecycle is held by the one call that installs its SDK, and no longer taken once
the SDK is shut down. -/
structure Locked (s : State) : Prop where
  holder : ∀ thread sdk, (s.calls thread).locks = some sdk ↔ s.lockedBy sdk = some thread
  started : ∀ sdk, (s.lifecycle sdk).shutdownStarted →
    s.lockedBy sdk = none ∧ (s.lifecycle sdk).globalRegistration = none

theorem locked_initial : Locked State.initial := {
  holder := fun _ _ => ⟨fun h => (by cases h), fun h => (by cases h)⟩
  started := fun _ h => (by cases h) }

section Locked

variable {s : State} {thread sdk : Nat} {pc : Pc}

theorem Locked.setCall (h : Locked s) (hpc : pc.locks = (s.calls thread).locks) :
    Locked (s.setCall thread pc) := by
  refine ⟨fun x i => ?_, h.started⟩
  rw [← show s.lockedBy i = (s.setCall thread pc).lockedBy i from rfl, ← h.holder x i]
  by_cases hx : x = thread
  · subst hx
    rw [setCall_self, hpc]
  · rw [setCall_of_ne s pc hx]

theorem Locked.lock (h : Locked s) (hcall : (s.calls thread).locks = none) (hpc : pc.locks = some sdk)
    (hfree : s.lockedBy sdk = none) (hstarted : ¬(s.lifecycle sdk).shutdownStarted) :
    Locked ((s.lock sdk thread).setCall thread pc) := by
  constructor
  · intro x i
    show ((s.setCall thread pc).calls x).locks = some i ↔
      Function.update s.lockedBy sdk (some thread) i = some x
    by_cases hx : x = thread
    · subst hx
      rw [setCall_self, hpc]
      by_cases hi : i = sdk
      · subst hi
        rw [Function.update_self]
        exact ⟨fun _ => rfl, fun _ => rfl⟩
      · rw [Function.update_of_ne hi, ← h.holder, hcall]
        exact ⟨fun heq => absurd (Option.some.inj heq).symm hi, fun heq => (by cases heq)⟩
    · rw [setCall_of_ne s pc hx, h.holder]
      by_cases hi : i = sdk
      · subst hi
        rw [Function.update_self, hfree]
        exact ⟨fun heq => (by cases heq), fun heq => absurd (Option.some.inj heq).symm hx⟩
      · rw [Function.update_of_ne hi]
  · intro i hi
    have hne : i ≠ sdk := by
      rintro rfl
      exact hstarted hi
    show Function.update s.lockedBy sdk (some thread) i = none ∧ _
    rw [Function.update_of_ne hne]
    exact h.started i hi

theorem Locked.unlock (h : Locked s) (hcall : (s.calls thread).locks = some sdk)
    (hpc : pc.locks = none) : Locked ((s.unlock sdk).setCall thread pc) := by
  have hholder := (h.holder thread sdk).mp hcall
  constructor
  · intro x i
    show ((s.setCall thread pc).calls x).locks = some i ↔
      Function.update s.lockedBy sdk none i = some x
    by_cases hx : x = thread
    · subst hx
      rw [setCall_self, hpc]
      by_cases hi : i = sdk
      · subst hi
        rw [Function.update_self]
        exact ⟨fun heq => (by cases heq), fun heq => (by cases heq)⟩
      · rw [Function.update_of_ne hi, ← h.holder, hcall]
        exact ⟨fun heq => (by cases heq), fun heq => absurd (Option.some.inj heq).symm hi⟩
    · rw [setCall_of_ne s pc hx, h.holder]
      by_cases hi : i = sdk
      · subst hi
        rw [Function.update_self, hholder]
        exact ⟨fun heq => absurd (Option.some.inj heq).symm hx, fun heq => (by cases heq)⟩
      · rw [Function.update_of_ne hi]
  · intro i hi
    obtain ⟨hnone, hregistration⟩ := h.started i hi
    refine ⟨?_, hregistration⟩
    show Function.update s.lockedBy sdk none i = none
    by_cases hne : i = sdk
    · rw [hne, Function.update_self]
    · rw [Function.update_of_ne hne, hnone]

/-- While a lifecycle is locked its SDK is not shut down. -/
theorem Locked.not_started (h : Locked s) (hcall : (s.calls thread).locks = some sdk) :
    ¬(s.lifecycle sdk).shutdownStarted := by
  intro hstarted
  have hnone := (h.started sdk hstarted).1
  cases hnone.symm.trans ((h.holder thread sdk).mp hcall)

/-- Two calls do not hold one lock. -/
theorem Locked.eq (h : Locked s) {other : Nat} (hcall : (s.calls thread).locks = some sdk)
    (hother : (s.calls other).locks = some sdk) : other = thread := by
  have hlock := (h.holder other sdk).mp hother
  exact Option.some.inj (hlock.symm.trans ((h.holder thread sdk).mp hcall))

theorem Locked.setLifecycle (h : Locked s) {lifecycle : Lifecycle}
    (hlifecycle : lifecycle.shutdownStarted →
      s.lockedBy sdk = none ∧ lifecycle.globalRegistration = none) :
    Locked (s.setLifecycle sdk lifecycle) := by
  refine ⟨h.holder, fun i hi => ?_⟩
  change (Function.update s.lifecycle sdk lifecycle i).shutdownStarted at hi
  show s.lockedBy i = none ∧
    (Function.update s.lifecycle sdk lifecycle i).globalRegistration = none
  by_cases hne : i = sdk
  · subst hne
    rw [Function.update_self] at hi ⊢
    exact hlifecycle hi
  · rw [Function.update_of_ne hne] at hi ⊢
    exact h.started i hi

theorem Locked.step (h : Locked s) {signal : Signal} {action : Action} {s' : State}
    (hmoves : Moves signal s action s') : Locked s' := by
  cases hmoves with
  | stay => exact h
  | lock hcall hlock hstarted => exact h.lock (by rw [hcall]; rfl) rfl hlock hstarted
  | refuse hcall => exact h.unlock (by rw [hcall]; rfl) rfl
  | take hcall => exact Locked.setCall ⟨h.holder, h.started⟩ (congrArg Pc.locks hcall).symm
  | swap hcall => exact Locked.setCall ⟨h.holder, h.started⟩ (congrArg Pc.locks hcall).symm
  | forget hcall => exact h.unlock (by rw [hcall]; rfl) rfl
  | @store thread sdk id hcall =>
    have hlocks : (s.calls thread).locks = some sdk := by rw [hcall]; rfl
    refine (h.unlock hlocks rfl).setLifecycle fun hstarted => ?_
    exact absurd hstarted (h.not_started hlocks)
  | start hcall hlock hstarted =>
    apply Locked.setCall
    · apply Locked.setLifecycle
      · exact ⟨h.holder, h.started⟩
      · exact fun _ => ⟨hlock, rfl⟩
    · exact (congrArg Pc.locks hcall).symm
  | unregister hcall =>
    exact Locked.setCall ⟨h.holder, h.started⟩ (congrArg Pc.locks hcall).symm
  | finish hcall => exact Locked.setCall ⟨h.holder, h.started⟩ (congrArg Pc.locks hcall).symm

end Locked

/-! ### Shutting down once -/

/-- The SDKs that are shut down, each by one call. -/
structure Once (s : State) : Prop where
  shuts : ∀ thread sdk, (s.calls thread).shuts = some sdk → sdk ∈ s.effective ∧ sdk ∉ s.reached
  alone : ∀ thread other sdk, (s.calls thread).shuts = some sdk →
    (s.calls other).shuts = some sdk → other = thread
  effective_nodup : s.effective.Nodup
  mem_effective : ∀ sdk, sdk ∈ s.effective ↔ (s.lifecycle sdk).shutdownStarted
  reached_nodup : s.reached.Nodup
  reached_effective : ∀ sdk ∈ s.reached, sdk ∈ s.effective

theorem once_initial : Once State.initial := {
  shuts := fun _ _ h => (by cases h)
  alone := fun _ _ _ h => (by cases h)
  effective_nodup := List.nodup_nil
  mem_effective := fun _ => ⟨fun h => absurd h List.not_mem_nil, fun h => (by cases h)⟩
  reached_nodup := List.nodup_nil
  reached_effective := fun _ h => absurd h List.not_mem_nil }

section Once

variable {s : State} {thread sdk : Nat} {pc : Pc}

theorem Once.setCall (h : Once s) (hpc : pc.shuts = (s.calls thread).shuts) :
    Once (s.setCall thread pc) := by
  have hshuts : ∀ x, ((s.setCall thread pc).calls x).shuts = (s.calls x).shuts := by
    intro x
    by_cases hx : x = thread
    · subst hx
      rw [setCall_self, hpc]
    · rw [setCall_of_ne s pc hx]
  exact {
    shuts := fun x i hi => h.shuts x i ((hshuts x).symm.trans hi)
    alone := fun x y i hi hj =>
      h.alone x y i ((hshuts x).symm.trans hi) ((hshuts y).symm.trans hj)
    effective_nodup := h.effective_nodup
    mem_effective := h.mem_effective
    reached_nodup := h.reached_nodup
    reached_effective := h.reached_effective }

/-- The first shutdown of an SDK. -/
theorem Once.start (h : Once s) (hcall : (s.calls thread).shuts = none)
    (hstarted : ¬(s.lifecycle sdk).shutdownStarted) (hpc : pc.shuts = some sdk) :
    Once (({ s with effective := s.effective ++ [sdk] }.setLifecycle sdk ⟨true, none⟩).setCall
      thread pc) := by
  have hfresh : sdk ∉ s.effective := fun hin => hstarted ((h.mem_effective sdk).mp hin)
  have hother : ∀ x, (s.calls x).shuts ≠ some sdk := fun x hx => hfresh (h.shuts x sdk hx).1
  have hshuts : ∀ x i, (Function.update s.calls thread pc x).shuts = some i →
      (x = thread ∧ i = sdk) ∨ (x ≠ thread ∧ i ≠ sdk ∧ (s.calls x).shuts = some i) := by
    intro x i hi
    by_cases hx : x = thread
    · subst hx
      rw [Function.update_self, hpc] at hi
      exact .inl ⟨rfl, (Option.some.inj hi).symm⟩
    · rw [Function.update_of_ne hx] at hi
      refine .inr ⟨hx, ?_, hi⟩
      rintro rfl
      exact hother x hi
  exact {
    shuts := by
      intro x i hi
      rcases hshuts x i hi with ⟨rfl, rfl⟩ | ⟨-, -, hold⟩
      · refine ⟨List.mem_append_right _ (List.mem_singleton_self _), fun hreached => ?_⟩
        exact hfresh (h.reached_effective _ hreached)
      · obtain ⟨heffective, hreached⟩ := h.shuts x i hold
        exact ⟨List.mem_append_left _ heffective, hreached⟩
    alone := by
      intro x y i hx hy
      rcases hshuts x i hx with ⟨rfl, rfl⟩ | ⟨-, hne, hx'⟩
      · rcases hshuts y _ hy with ⟨rfl, -⟩ | ⟨-, hne, -⟩
        · rfl
        · exact absurd rfl hne
      · rcases hshuts y i hy with ⟨-, rfl⟩ | ⟨-, -, hy'⟩
        · exact absurd rfl hne
        · exact h.alone x y i hx' hy'
    effective_nodup :=
      List.nodup_append_comm.mp (List.nodup_cons.mpr ⟨hfresh, h.effective_nodup⟩)
    mem_effective := by
      intro i
      show i ∈ s.effective ++ [sdk] ↔ (Function.update s.lifecycle sdk ⟨true, none⟩ i).shutdownStarted
      rw [List.mem_append, List.mem_singleton, h.mem_effective]
      by_cases hi : i = sdk
      · subst hi
        rw [Function.update_self]
        exact ⟨fun _ => rfl, fun _ => .inr rfl⟩
      · rw [Function.update_of_ne hi]
        exact ⟨fun hor => hor.resolve_right hi, .inl⟩
    reached_nodup := h.reached_nodup
    reached_effective := fun i hi => List.mem_append_left _ (h.reached_effective i hi) }

/-- The shutdown of the provider. -/
theorem Once.finish (h : Once s) (hcall : (s.calls thread).shuts = some sdk)
    (hpc : pc.shuts = none) :
    Once ({ s with reached := s.reached ++ [sdk] }.setCall thread pc) := by
  obtain ⟨heffective, hreached⟩ := h.shuts thread sdk hcall
  have hshuts : ∀ x i, (Function.update s.calls thread pc x).shuts = some i →
      x ≠ thread ∧ (s.calls x).shuts = some i := by
    intro x i hi
    by_cases hx : x = thread
    · subst hx
      rw [Function.update_self, hpc] at hi
      cases hi
    · rw [Function.update_of_ne hx] at hi
      exact ⟨hx, hi⟩
  exact {
    shuts := by
      intro x i hi
      obtain ⟨hx, hold⟩ := hshuts x i hi
      obtain ⟨hin, hnot⟩ := h.shuts x i hold
      refine ⟨hin, fun hmem => ?_⟩
      rcases List.mem_append.mp hmem with hmem | hmem
      · exact hnot hmem
      · obtain rfl := List.mem_singleton.mp hmem
        exact hx (h.alone thread x _ hcall hold)
    alone := fun x y i hx hy => h.alone x y i (hshuts x i hx).2 (hshuts y i hy).2
    effective_nodup := h.effective_nodup
    mem_effective := h.mem_effective
    reached_nodup :=
      List.nodup_append_comm.mp (List.nodup_cons.mpr ⟨hreached, h.reached_nodup⟩)
    reached_effective := by
      intro i hi
      rcases List.mem_append.mp hi with hi | hi
      · exact h.reached_effective i hi
      · rw [List.mem_singleton.mp hi]
        exact heffective }

/-- Storing a registration id. -/
theorem Once.store (h : Once s) (registration : Option UInt64) :
    Once (s.setLifecycle sdk { s.lifecycle sdk with globalRegistration := registration }) := {
  shuts := h.shuts
  alone := h.alone
  effective_nodup := h.effective_nodup
  mem_effective := by
    intro i
    show i ∈ s.effective ↔ (Function.update s.lifecycle sdk _ i).shutdownStarted
    by_cases hi : i = sdk
    · subst hi
      rw [Function.update_self]
      exact h.mem_effective i
    · rw [Function.update_of_ne hi]
      exact h.mem_effective i
  reached_nodup := h.reached_nodup
  reached_effective := h.reached_effective }

theorem Once.congr (h : Once s) {s' : State} (hcalls : s'.calls = s.calls)
    (hlifecycle : s'.lifecycle = s.lifecycle) (heffective : s'.effective = s.effective)
    (hreached : s'.reached = s.reached) : Once s' := by
  obtain ⟨⟩ := s
  obtain ⟨⟩ := s'
  subst hcalls hlifecycle heffective hreached
  exact ⟨h.shuts, h.alone, h.effective_nodup, h.mem_effective, h.reached_nodup, h.reached_effective⟩

theorem Once.step (h : Once s) {signal : Signal} {action : Action} {s' : State}
    (hmoves : Moves signal s action s') : Once s' := by
  cases hmoves with
  | stay => exact h
  | lock hcall _ _ =>
    exact Once.setCall (h.congr rfl rfl rfl rfl) (congrArg Pc.shuts hcall).symm
  | refuse hcall =>
    exact Once.setCall (h.congr rfl rfl rfl rfl) (congrArg Pc.shuts hcall).symm
  | take hcall => exact Once.setCall (h.congr rfl rfl rfl rfl) (congrArg Pc.shuts hcall).symm
  | swap hcall => exact Once.setCall (h.congr rfl rfl rfl rfl) (congrArg Pc.shuts hcall).symm
  | forget hcall => exact Once.setCall (h.congr rfl rfl rfl rfl) (congrArg Pc.shuts hcall).symm
  | @store thread sdk id hcall =>
    have hidle : Once ((s.unlock sdk).setCall thread .idle) :=
      Once.setCall (h.congr rfl rfl rfl rfl) (congrArg Pc.shuts hcall).symm
    exact hidle.store (some id)
  | start hcall _ hstarted => exact h.start (congrArg Pc.shuts hcall) hstarted rfl
  | unregister hcall =>
    exact Once.setCall (h.congr rfl rfl rfl rfl) (congrArg Pc.shuts hcall).symm
  | finish hcall => exact h.finish (congrArg Pc.shuts hcall) rfl

end Once

end OtelC.Sdk.GlobalLifecycle
