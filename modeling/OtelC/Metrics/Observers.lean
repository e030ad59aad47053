import OtelC.Abi
import OtelC.Lib.Registry
import OtelC.Lib.Run

/-!
# Observers of collection callbacks

An observable instrument hands the SDK a trampoline of its number kind, and each call of it gives the
application's callback an observer: a token that is good on this thread until the callback is over.
Callbacks nest where an observation makes the SDK collect again.

* `observerStep_invariant`: the active observers of a thread are those of its running callbacks.
* `observer_tokens_run`: what an observer reaches, and what a callback leaves, in every run.
* `observer_token_repeats`: the 64 bits of the tokens are the limit of this.
-/

namespace OtelC.Metrics

open Registry (ThreadLists Scope Tracks)

/-! ### Instruments -/

/-- `OtelMetricNumberKind`. -/
inductive NumberKind where
  | u64
  | i64
  | f64
  deriving DecidableEq

/-- The instruments of `define_observable_instrument!`. -/
inductive ObservableInstrument where
  | counterU64
  | counterF64
  | upDownCounterI64
  | upDownCounterF64
  | gaugeU64
  | gaugeI64
  | gaugeF64
  deriving DecidableEq

namespace ObservableInstrument

def number : ObservableInstrument → NumberKind
  | counterU64 => .u64
  | counterF64 => .f64
  | upDownCounterI64 => .i64
  | upDownCounterF64 => .f64
  | gaugeU64 => .u64
  | gaugeI64 => .i64
  | gaugeF64 => .f64

/-- The variant of `UserCallback`. -/
def callbackVariant : ObservableInstrument → NumberKind
  | counterU64 => .u64
  | counterF64 => .f64
  | upDownCounterI64 => .i64
  | upDownCounterF64 => .f64
  | gaugeU64 => .u64
  | gaugeI64 => .i64
  | gaugeF64 => .f64

/-- The kind of `callback_trampoline_…`. -/
def trampoline : ObservableInstrument → NumberKind
  | counterU64 => .u64
  | counterF64 => .f64
  | upDownCounterI64 => .i64
  | upDownCounterF64 => .f64
  | gaugeU64 => .u64
  | gaugeI64 => .i64
  | gaugeF64 => .f64

end ObservableInstrument

/-- The `CallbackState` and the trampoline that the SDK has been handed. -/
structure HandedOver where
  vtable : Option Nat
  callback : NumberKind
  trampoline : NumberKind
  deriving DecidableEq

/-- What `create_observable` hands over: nothing for a meter without an SDK. -/
def createObservable (instrument : ObservableInstrument) : Option Nat → Option HandedOver
  | none => none
  | some vtable => some ⟨some vtable, instrument.callbackVariant, instrument.trampoline⟩

structure ObserverEntry where
  vtable : Option Nat
  ctx : Nat
  number : NumberKind
  deriving DecidableEq

/-! ### Observing -/

def notActiveObserver : Fail :=
  ⟨.invalidArgument, "observer is not active for this callback invocation"⟩

/-- `observe` up to the call of the SDK. -/
def observe (lists : ThreadLists ObserverEntry) (thread : Nat) (observer : UInt64)
    (expected : NumberKind) : Except Fail ObserverEntry :=
  match Registry.lookup (lists.entries thread) observer with
  | some entry =>
    if entry.number = expected ∧ entry.vtable.isSome = true then .ok entry
    else .error notActiveObserver
  | none => .error notActiveObserver

/-- The handed-over pairs, the lists of observers, and the callbacks that run on each thread, the
innermost first. -/
structure Collecting where
  handedOver : List HandedOver
  lists : ThreadLists ObserverEntry
  callbacks : Nat → List (Scope ObserverEntry)

def Collecting.initial : Collecting := ⟨[], .initial, fun _ => []⟩

inductive ObserverAction where
  /-- `otel_meter_create_…`, with the SDK of its meter. -/
  | create (instrument : ObservableInstrument) (vtable : Option Nat)
  /-- The token zero is passed over. -/
  | skipZero
  /-- The SDK calls a trampoline, and the user data is there or not. -/
  | invoke (thread index observerCtx : Nat) (userData : Bool)
  /-- The callback returns or panics. -/
  | returned (thread : Nat)
  | observe (thread : Nat) (observer : UInt64) (expected : NumberKind)

def Collecting.setCallbacks (s : Collecting) (thread : Nat) (callbacks : List (Scope ObserverEntry)) :
    Collecting :=
  { s with callbacks := Function.update s.callbacks thread callbacks }

/-- `ObserverRegistration::new`, with the scope it opens. -/
def Collecting.register (s : Collecting) (thread : Nat) (entry : ObserverEntry) : Collecting :=
  { s with lists := s.lists.register thread entry }

/-- `ObserverRegistration::drop`. -/
def Collecting.unregister (s : Collecting) (thread : Nat) (token : UInt64) : Collecting :=
  { s with lists := s.lists.unregister thread token }

/-- One step on one thread, with what an observation comes to; `none` while it cannot be taken. -/
def observerStep (s : Collecting) :
    ObserverAction → Option (Collecting × Option (Except Fail ObserverEntry))
  | .create instrument vtable =>
    some ({ s with handedOver := s.handedOver ++ (createObservable instrument vtable).toList }, none)
  | .skipZero =>
    if s.lists.counter = 0 then some ({ s with lists := s.lists.skip }, none) else none
  | .invoke thread index observerCtx userData =>
    match s.handedOver[index]? with
    | none => none
    | some state =>
      if userData = false then some (s, none)
      else if s.lists.counter = 0 then none
      else
        let entry := ⟨state.vtable, observerCtx, state.trampoline⟩
        let scope := s.lists.scope thread entry
        let s := s.register thread entry
        if state.callback = state.trampoline then
          some (s.setCallbacks thread (scope :: s.callbacks thread), none)
        else some (s.unregister thread scope.token, none)
  | .returned thread =>
    match s.callbacks thread with
    | scope :: outer => some ((s.unregister thread scope.token).setCallbacks thread outer, none)
    | [] => none
  | .observe thread observer expected =>
    some (s, some (Metrics.observe s.lists thread observer expected))

def observerRun (actions : List ObserverAction) : Option Collecting :=
  Run.tryRun (fun s action => (observerStep s action).map Prod.fst) Collecting.initial actions

/-! ### The invariant -/

/-- Number kind, callback and trampoline of an instrument go together. -/
theorem kinds_agree (instrument : ObservableInstrument) :
    instrument.callbackVariant = instrument.number ∧ instrument.trampoline = instrument.number := by
  cases instrument <;> exact ⟨rfl, rfl⟩

theorem createObservable_spec {instrument : ObservableInstrument} {vtable : Option Nat}
    {state : HandedOver} (h : createObservable instrument vtable = some state) :
    state.vtable.isSome = true ∧ state.callback = state.trampoline ∧
      state.trampoline = instrument.number := by
  cases vtable with
  | none => cases h
  | some vtable =>
    obtain rfl := Option.some.inj h
    obtain ⟨hcallback, htrampoline⟩ := kinds_agree instrument
    exact ⟨rfl, hcallback.trans htrampoline.symm, htrampoline⟩

structure ObserverInvariant (s : Collecting) : Prop where
  tracks : Tracks s.lists s.callbacks
  handedOver : ∀ state ∈ s.handedOver, state.vtable.isSome = true ∧ state.callback = state.trampoline
  entries : ∀ thread, ∀ scope ∈ s.callbacks thread, scope.entry.vtable.isSome = true

variable {s s' : Collecting}

theorem observerInvariant_initial : ObserverInvariant Collecting.initial :=
  ⟨Registry.tracks_initial, fun _ h => absurd h List.not_mem_nil,
    fun _ _ h => absurd h List.not_mem_nil⟩

/-- What a step does, whatever its answer is. -/
inductive ObserverSteps (s : Collecting) : ObserverAction → Collecting → Prop where
  | create {instrument : ObservableInstrument} {vtable : Option Nat} :
    ObserverSteps s (.create instrument vtable)
      { s with handedOver := s.handedOver ++ (createObservable instrument vtable).toList }
  | skipZero (hzero : s.lists.counter = 0) :
    ObserverSteps s .skipZero { s with lists := s.lists.skip }
  /-- The user data is gone. -/
  | unreached {thread index observerCtx : Nat} :
    ObserverSteps s (.invoke thread index observerCtx false) s
  | began {thread index observerCtx : Nat} {state : HandedOver}
    (hstate : s.handedOver[index]? = some state) (hzero : s.lists.counter ≠ 0)
    (hkind : state.callback = state.trampoline) :
    ObserverSteps s (.invoke thread index observerCtx true)
      ((s.register thread ⟨state.vtable, observerCtx, state.trampoline⟩).setCallbacks thread
        (s.lists.scope thread ⟨state.vtable, observerCtx, state.trampoline⟩ :: s.callbacks thread))
  /-- A callback of another number kind than the trampoline's. -/
  | mismatched {thread index observerCtx : Nat} {state : HandedOver}
    (hstate : s.handedOver[index]? = some state) (hzero : s.lists.counter ≠ 0)
    (hkind : state.callback ≠ state.trampoline) :
    ObserverSteps s (.invoke thread index observerCtx true)
      ((s.register thread ⟨state.vtable, observerCtx, state.trampoline⟩).unregister thread
        (s.lists.scope thread (⟨state.vtable, observerCtx, state.trampoline⟩ : ObserverEntry)).token)
  | ended {thread : Nat} {scope : Scope ObserverEntry} {outer : List (Scope ObserverEntry)}
    (hcallbacks : s.callbacks thread = scope :: outer) :
    ObserverSteps s (.returned thread) ((s.unregister thread scope.token).setCallbacks thread outer)
  | observe {thread : Nat} {observer : UInt64} {expected : NumberKind} :
    ObserverSteps s (.observe thread observer expected) s

theorem steps_of_observerStep {action : ObserverAction}
    {answer : Option (Except Fail ObserverEntry)}
    (hstep : observerStep s action = some (s', answer)) : ObserverSteps s action s' := by
  cases action with
  | create instrument vtable =>
    cases hstep
    exact .create
  | skipZero =>
    rw [observerStep] at hstep
    split at hstep
    · rename_i hzero
      cases hstep
      exact .skipZero hzero
    · cases hstep
  | invoke thread index observerCtx userData =>
    rw [observerStep] at hstep
    split at hstep
    · cases hstep
    · rename_i state hstate
      cases userData with
      | false =>
        cases hstep
        exact .unreached
      | true =>
        rw [if_neg Bool.noConfusion] at hstep
        split at hstep
        · cases hstep
        · rename_i hzero
          dsimp only at hstep
          split at hstep
          · rename_i hkind
            cases hstep
            exact .began hstate hzero hkind
          · rename_i hkind
            cases hstep
            exact .mismatched hstate hzero hkind
  | returned thread =>
    rw [observerStep] at hstep
    split at hstep
    · rename_i scope outer hcallbacks
      cases hstep
      exact .ended hcallbacks
    · cases hstep
  | observe thread observer expected =>
    cases hstep
    exact .observe

/-- **One step keeps the invariant.** -/
theorem observerStep_invariant {action : ObserverAction}
    {answer : Option (Except Fail ObserverEntry)} (h : ObserverInvariant s)
    (hstep : observerStep s action = some (s', answer)) : ObserverInvariant s' := by
  cases steps_of_observerStep hstep with
  | create =>
    refine ⟨h.tracks, fun state hstate => ?_, h.entries⟩
    rcases List.mem_append.mp hstate with hold | hnew
    · exact h.handedOver state hold
    · obtain ⟨hvtable, hkind, -⟩ := createObservable_spec (Option.mem_toList.mp hnew)
      exact ⟨hvtable, hkind⟩
  | skipZero hzero => exact ⟨h.tracks.skip hzero, h.handedOver, h.entries⟩
  | unreached => exact h
  | @began thread index observerCtx state hstate hzero hkind =>
    refine ⟨h.tracks.register hzero thread _, h.handedOver, fun other scope hscope => ?_⟩
    rcases Registry.mem_update_cons hscope with ⟨-, rfl⟩ | hold
    · exact (h.handedOver state (List.mem_of_getElem? hstate)).1
    · exact h.entries other scope hold
  | @mismatched thread index observerCtx state hstate hzero hkind =>
    exact absurd (h.handedOver state (List.mem_of_getElem? hstate)).2 hkind
  | ended hcallbacks =>
    exact ⟨h.tracks.unregister hcallbacks, h.handedOver, fun other inner hinner =>
      h.entries other inner (Registry.mem_update_tail hcallbacks hinner)⟩
  | observe => exact h

theorem observerRun_invariant {actions : List ObserverAction} (h : observerRun actions = some s) :
    ObserverInvariant s := by
  refine Run.tryRun_invariant ?_ observerInvariant_initial h
  intro s action s' hs hstep
  obtain ⟨⟨s₁, answer⟩, htaken, rfl⟩ := Option.map_eq_some_iff.mp hstep
  exact observerStep_invariant hs htaken

/-! ### What an observer reaches -/

/-- Callbacks and the lists of observers, whatever the tokens are. -/
structure CallbacksNest (s : Collecting) : Prop where
  /-- What reaches the SDK is an observer of a running callback of the calling thread. -/
  running : ∀ thread observer expected entry,
    observe s.lists thread observer expected = .ok entry →
      ∃ scope ∈ s.callbacks thread, scope.token = observer ∧ scope.entry = entry ∧
        entry.number = expected
  rejected : ∀ thread observer expected,
    (∀ scope ∈ s.callbacks thread, scope.token = observer → scope.entry.number ≠ expected) →
      observerStep s (.observe thread observer expected) = some (s, some (.error notActiveObserver))
  /-- What the SDK is handed is of the number kind of the instrument. -/
  created : ∀ instrument vtable s' answer,
    observerStep s (.create instrument (some vtable)) = some (s', answer) →
      s'.handedOver = s.handedOver ++ [⟨some vtable, instrument.number, instrument.number⟩]
  began : ∀ thread index observerCtx s' answer,
    observerStep s (.invoke thread index observerCtx true) = some (s', answer) →
      ∃ state scope, s.handedOver[index]? = some state ∧
        s'.callbacks thread = scope :: s.callbacks thread ∧
        scope.index = s.lists.issued.length ∧ s'.lists.issued = s.lists.issued ++ [scope.token] ∧
        scope.entry = ⟨state.vtable, observerCtx, state.trampoline⟩ ∧
        scope.before = s.lists.entries thread
  ended : ∀ thread s' answer, observerStep s (.returned thread) = some (s', answer) →
    ∃ scope outer, s.callbacks thread = scope :: outer ∧ s'.callbacks thread = outer ∧
      s'.lists.entries = Function.update s.lists.entries thread scope.before
  /-- Where the user data is gone, no observer is made. -/
  unreached : ∀ thread index observerCtx s' answer,
    observerStep s (.invoke thread index observerCtx false) = some (s', answer) → s' = s

/-- Observers and their callbacks. -/
structure ObserversConfined (s : Collecting) : Prop where
  /-- An observer reaches the SDK in a running callback of the calling thread and for its number
  kind, and nowhere else. -/
  observe_iff : ∀ thread observer expected entry,
    observe s.lists thread observer expected = .ok entry ↔
      ∃ scope ∈ s.callbacks thread, scope.token = observer ∧ scope.entry = entry ∧
        entry.number = expected
  /-- The observer of an invocation reaches the SDK while that invocation runs. -/
  issued_iff : ∀ index observer, s.lists.issued[index]? = some observer →
    ∀ thread expected entry, observe s.lists thread observer expected = .ok entry ↔
      ∃ scope ∈ s.callbacks thread, scope.index = index ∧ scope.entry = entry ∧
        entry.number = expected

theorem observe_ok {lists : ThreadLists ObserverEntry} {thread : Nat} {observer : UInt64}
    {expected : NumberKind} {entry : ObserverEntry} :
    observe lists thread observer expected = .ok entry ↔
      Registry.lookup (lists.entries thread) observer = some entry ∧ entry.number = expected ∧
        entry.vtable.isSome = true := by
  rw [observe]
  cases Registry.lookup (lists.entries thread) observer with
  | none => exact iff_of_false (fun h => by cases h) fun h => by cases h.1
  | some found =>
    dsimp only
    by_cases hready : found.number = expected ∧ found.vtable.isSome = true
    · rw [if_pos hready]
      constructor
      · intro h
        obtain rfl := Except.ok.inj h
        exact ⟨rfl, hready⟩
      · rintro ⟨h, -⟩
        rw [Option.some.inj h]
    · rw [if_neg hready]
      refine iff_of_false (fun h => by cases h) ?_
      rintro ⟨h, hentry⟩
      rw [Option.some.inj h] at hready
      exact hready hentry

theorem observe_error {lists : ThreadLists ObserverEntry} {thread : Nat} {observer : UInt64}
    {expected : NumberKind} {e : Fail} (h : observe lists thread observer expected = .error e) :
    e = notActiveObserver := by
  rw [observe] at h
  split at h
  · split at h
    · cases h
    · exact (Except.error.inj h).symm
  · exact (Except.error.inj h).symm

theorem ObserverInvariant.nest (h : ObserverInvariant s) : CallbacksNest s := by
  have hrunning : ∀ thread observer expected entry,
      observe s.lists thread observer expected = .ok entry →
        ∃ scope ∈ s.callbacks thread, scope.token = observer ∧ scope.entry = entry ∧
          entry.number = expected := by
    intro thread observer expected entry hobserve
    obtain ⟨hlookup, hnumber, -⟩ := observe_ok.mp hobserve
    obtain ⟨scope, hscope, hitem⟩ := h.tracks.mem_entries.mp (Registry.mem_of_lookup hlookup)
    obtain ⟨htoken, hentry⟩ := Prod.mk.inj hitem
    exact ⟨scope, hscope, htoken, hentry, hnumber⟩
  exact {
    running := hrunning
    rejected := by
      intro thread observer expected hnone
      rw [observerStep]
      cases hobserve : observe s.lists thread observer expected with
      | ok entry =>
        obtain ⟨scope, hscope, htoken, rfl, hnumber⟩ := hrunning _ _ _ _ hobserve
        exact absurd hnumber (hnone scope hscope htoken)
      | error e => rw [observe_error hobserve]
    created := by
      intro instrument vtable s' answer hstep
      obtain rfl := congrArg Prod.fst (Option.some.inj hstep).symm
      obtain ⟨hcallback, htrampoline⟩ := kinds_agree instrument
      show s.handedOver ++ [⟨some vtable, instrument.callbackVariant, instrument.trampoline⟩] = _
      rw [hcallback, htrampoline]
    began := by
      intro thread index observerCtx s' answer hstep
      cases steps_of_observerStep hstep with
      | @began _ _ _ state hstate hzero hkind =>
        exact ⟨state, _, hstate, Function.update_self thread _ _, rfl, rfl, rfl, rfl⟩
      | @mismatched _ _ _ state hstate hzero hkind =>
        exact absurd (h.handedOver state (List.mem_of_getElem? hstate)).2 hkind
    ended := by
      intro thread s' answer hstep
      cases steps_of_observerStep hstep with
      | @ended _ scope outer hcallbacks =>
        exact ⟨scope, outer, hcallbacks, Function.update_self thread _ _,
          h.tracks.unregister_entries hcallbacks⟩
    unreached := by
      intro thread index observerCtx s' answer hstep
      cases steps_of_observerStep hstep with
      | unreached => rfl }

theorem ObserverInvariant.confined (h : ObserverInvariant s)
    (hfew : s.lists.issued.length < 2 ^ 64) : ObserversConfined s where
  observe_iff thread observer expected entry := by
    rw [observe_ok, h.tracks.lookup_iff hfew]
    constructor
    · rintro ⟨⟨scope, hscope, htoken, hentry⟩, hnumber, -⟩
      exact ⟨scope, hscope, htoken, hentry, hnumber⟩
    · rintro ⟨scope, hscope, htoken, hentry, hnumber⟩
      exact ⟨⟨scope, hscope, htoken, hentry⟩, hnumber, hentry ▸ h.entries thread scope hscope⟩
  issued_iff index observer hissued thread expected entry := by
    rw [observe_ok, h.tracks.lookup_issued_iff hfew hissued]
    constructor
    · rintro ⟨⟨scope, hscope, hindex, hentry⟩, hnumber, -⟩
      exact ⟨scope, hscope, hindex, hentry, hnumber⟩
    · rintro ⟨scope, hscope, hindex, hentry, hnumber⟩
      exact ⟨⟨scope, hscope, hindex, hentry⟩, hnumber, hentry ▸ h.entries thread scope hscope⟩

def ObserverAction.isInvoke : ObserverAction → Bool
  | .invoke _ _ _ _ => true
  | _ => false

theorem observerStep_issued {action : ObserverAction} {answer : Option (Except Fail ObserverEntry)}
    (hstep : observerStep s action = some (s', answer)) :
    s'.lists.issued.length ≤ s.lists.issued.length + action.isInvoke.toNat := by
  cases steps_of_observerStep hstep with
  | unreached => exact Nat.le_succ _
  | began hstate hzero hkind => exact Nat.le_of_eq (Registry.length_issued_register s.lists _ _)
  | @mismatched thread _ observerCtx state hstate hzero hkind =>
    exact Nat.le_of_eq (Registry.length_issued_register s.lists thread
      (⟨state.vtable, observerCtx, state.trampoline⟩ : ObserverEntry))
  | create => exact Nat.le_refl _
  | skipZero hzero => exact Nat.le_refl _
  | ended hcallbacks => exact Nat.le_refl _
  | observe => exact Nat.le_refl _

theorem observerRun_issued {actions : List ObserverAction} (h : observerRun actions = some s) :
    s.lists.issued.length ≤ actions.countP ObserverAction.isInvoke := by
  have hcount := Run.tryRun_count (fun s : Collecting => s.lists.issued.length)
    ObserverAction.isInvoke ?_ h
  · rwa [Collecting.initial, ThreadLists.initial, List.length_nil, Nat.zero_add] at hcount
  · intro s action s' hstep
    obtain ⟨⟨s₁, answer⟩, htaken, rfl⟩ := Option.map_eq_some_iff.mp hstep
    exact observerStep_issued htaken

/-- **Observers are confined to their callback.**  In every run what reaches the SDK is an observer
of a running callback, and every callback leaves the list of its thread as it found it; with fewer
than `2 ^ 64` calls of trampolines every observer reaches the SDK exactly in its own callback. -/
theorem observer_tokens_run (actions : List ObserverAction) (s : Collecting)
    (hrun : observerRun actions = some s) :
    CallbacksNest s ∧ (actions.countP ObserverAction.isInvoke < 2 ^ 64 → ObserversConfined s) := by
  have h := observerRun_invariant hrun
  exact ⟨h.nest, fun hfew => h.confined (Nat.lt_of_le_of_lt (observerRun_issued hrun) hfew)⟩

/-- A callback that makes the SDK collect another instrument, whose callback is over. -/
def nestedCallbacks : List ObserverAction :=
  [.create .gaugeU64 (some 9), .create .counterF64 (some 9), .invoke 0 0 5 true, .invoke 0 1 6 true,
    .observe 0 1 .u64, .returned 0]

theorem observer_tokens_run_nested :
    ∃ s, observerRun nestedCallbacks = some s ∧ CallbacksNest s ∧ ObserversConfined s := by
  obtain ⟨hnest, hconfined⟩ := observer_tokens_run nestedCallbacks _ rfl
  exact ⟨_, rfl, hnest, hconfined (by decide)⟩

/-! ### The limit of the tokens -/

/-- One callback after the other, `n` of them, of the one instrument there is. -/
def rounds : Nat → List ObserverAction
  | 0 => [.create .gaugeU64 (some 9)]
  | n + 1 => rounds n ++ [.invoke 0 0 5 true, .returned 0]

/-- Between two callbacks. -/
structure Between (s : Collecting) (n : Nat) : Prop where
  counter : s.lists.counter.toNat = (n + 1) % 2 ^ 64
  issued : s.lists.issued.length = n
  handedOver : s.handedOver = [⟨some 9, .u64, .u64⟩]
  callbacks : s.callbacks 0 = []

/-- The state in the callback that a between-state begins. -/
def Collecting.inside (s : Collecting) : Collecting :=
  (s.register 0 ⟨some 9, 5, .u64⟩).setCallbacks 0 (s.lists.scope 0 ⟨some 9, 5, .u64⟩ :: s.callbacks 0)

theorem callbacks_setCallbacks_self (s : Collecting) (thread : Nat)
    (callbacks : List (Scope ObserverEntry)) :
    (s.setCallbacks thread callbacks).callbacks thread = callbacks := Function.update_self _ _ _

theorem invoke_inside (hhanded : s.handedOver = [⟨some 9, .u64, .u64⟩]) (hzero : s.lists.counter ≠ 0) :
    observerStep s (.invoke 0 0 5 true) = some (s.inside, none) := by
  rw [observerStep, hhanded]
  show (if true = false then _ else if s.lists.counter = 0 then none else _) = _
  rw [if_neg Bool.noConfusion, if_neg hzero]
  rfl

theorem run_rounds {n : Nat} (h : n < 2 ^ 64) :
    ∃ s, observerRun (rounds n) = some s ∧ Between s n := by
  induction n with
  | zero => exact ⟨_, rfl, rfl, rfl, rfl, rfl⟩
  | succ n ih =>
    obtain ⟨s, hrun, hcounter, hissued, hhanded, hcallbacks⟩ := ih (Nat.lt_of_succ_lt h)
    have hnat : s.lists.counter.toNat = n + 1 := by rw [hcounter, Nat.mod_eq_of_lt h]
    have hzero : s.lists.counter ≠ 0 := by
      intro heq
      rw [heq] at hnat
      cases hnat
    have htop : s.inside.callbacks 0 = [s.lists.scope 0 ⟨some 9, 5, .u64⟩] := by
      rw [Collecting.inside, hcallbacks, callbacks_setCallbacks_self]
    have hreturned : observerStep s.inside (.returned 0) =
        some ((s.inside.unregister 0 s.lists.counter).setCallbacks 0 [], none) := by
      rw [observerStep, htop]
      rfl
    refine ⟨(s.inside.unregister 0 s.lists.counter).setCallbacks 0 [], ?_, ?_, ?_, hhanded, ?_⟩
    · refine Run.tryRun_append_iff.mpr ⟨s, hrun, ?_⟩
      refine Run.tryRun_cons.mpr ⟨s.inside, ?_, Run.tryRun_cons.mpr ⟨_, ?_, rfl⟩⟩
      · rw [invoke_inside hhanded hzero]
        rfl
      · rw [hreturned]
        rfl
    · show (s.lists.counter + 1).toNat = _
      rw [Ticket.toNat_succ, hnat]
    · rw [← hissued]
      exact Registry.length_issued_register s.lists 0 (⟨some 9, 5, .u64⟩ : ObserverEntry)
    · rw [callbacks_setCallbacks_self]

/-- After `n` callbacks the counter passes over zero, and one more callback begins. -/
def roundsThenInvoke (n : Nat) : List ObserverAction :=
  rounds n ++ [.skipZero, .invoke 0 0 5 true]

/-- Where the tokens begin again, the observer of the first callback reaches the SDK in the last. -/
theorem not_confined_of_wraps {n : Nat} (hn : 0 < n) (h : n < 2 ^ 64) (hwraps : (n + 1) % 2 ^ 64 = 0) :
    ∃ s, observerRun (roundsThenInvoke n) = some s ∧ ¬ObserversConfined s := by
  obtain ⟨s, hrun, hcounter, hissued, hhanded, hcallbacks⟩ := run_rounds h
  have hzero : s.lists.counter = 0 := UInt64.toNat_inj.mp (hcounter.trans hwraps)
  let t : Collecting := { s with lists := s.lists.skip }
  have hone : t.lists.counter = 1 := by
    show s.lists.counter + 1 = 1
    rw [hzero]
    rfl
  have hne : t.lists.counter ≠ 0 := by
    rw [hone]
    decide
  have hrun' : observerRun (roundsThenInvoke n) = some t.inside := by
    refine Run.tryRun_append_iff.mpr ⟨s, hrun, ?_⟩
    refine Run.tryRun_cons.mpr ⟨t, ?_, Run.tryRun_cons.mpr ⟨t.inside, ?_, rfl⟩⟩
    · rw [observerStep, if_pos hzero]
      rfl
    · rw [invoke_inside (s := t) hhanded hne]
      rfl
  refine ⟨t.inside, hrun', fun hconfined => ?_⟩
  have htop : t.inside.callbacks 0 = [t.lists.scope 0 ⟨some 9, 5, .u64⟩] := by
    rw [Collecting.inside, callbacks_setCallbacks_self]
    exact congrArg (List.cons _) hcallbacks
  have hobserve : observe t.inside.lists 0 1 .u64 = .ok ⟨some 9, 5, .u64⟩ := by
    refine (hconfined.observe_iff 0 1 .u64 _).mpr
      ⟨t.lists.scope 0 ⟨some 9, 5, .u64⟩, ?_, hone, rfl, rfl⟩
    rw [htop]
    exact List.mem_singleton_self _
  -- The first token of all is that of the first callback.
  have hfirst : t.inside.lists.issued[0]? = some 1 := by
    have hissued' : s.lists.issued.map UInt64.toNat = Ticket.firstTickets (2 ^ 64) n := by
      rw [(observerRun_invariant hrun).tracks.issued, hissued]
    have hmap : (s.lists.issued.map UInt64.toNat)[0]? = some 1 := by
      rw [hissued', Ticket.firstTickets, List.getElem?_map, List.getElem?_range hn]
      rfl
    rw [List.getElem?_map] at hmap
    obtain ⟨token, htoken, hnat⟩ := Option.map_eq_some_iff.mp hmap
    have hlt : 0 < s.lists.issued.length := by rwa [hissued]
    obtain rfl : token = 1 := UInt64.toNat_inj.mp hnat
    exact (List.getElem?_append_left hlt).trans htoken
  obtain ⟨scope, hscope, hindex, -⟩ := (hconfined.issued_iff 0 1 hfirst 0 .u64 _).mp hobserve
  rw [htop, List.mem_singleton] at hscope
  rw [hscope] at hindex
  exact absurd (hissued.symm.trans hindex) (Nat.ne_of_gt hn)

/-- **After `2 ^ 64 - 1` callbacks the observers come again**: one that was kept then reaches the SDK
in another callback than its own. -/
theorem observer_token_repeats :
    ∃ s, observerRun (roundsThenInvoke (2 ^ 64 - 1)) = some s ∧ ¬ObserversConfined s :=
  not_confined_of_wraps (by decide) (by decide) (by decide)

end OtelC.Metrics
