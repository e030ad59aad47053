import OtelC.Abi
import OtelC.Lib.Run
import Mathlib.Logic.Function.Basic

/-!
# Timed force flushes

A force flush with a timeout runs on a helper thread, and a flag of the SDK is there to let one of
them run at a time.  The calling thread sets the flag; a guard inside the closure of the helper
clears it when the closure is dropped.  When the helper cannot be spawned the closure is dropped as
well, and the calling thread clears the flag once more.

* `one_timed_flush_iff`: the flag is right in just those runs in which it is not set when a call
  clears it that second time.
* `two_helpers_flush`: a run in which it is.
-/

namespace OtelC.Sdk.ForceFlush

/-- A call of `otel_sdk_force_flush`. -/
inductive Call where
  | idle
  /-- Flushing on the calling thread. -/
  | blocking
  | entering
  /-- The flag is set, and the helper is not there yet. -/
  | starting
  /-- The helper could not be spawned; its closure, and the guard in it, have been dropped. -/
  | clearing (err : String)
  | waiting (helper : Nat)

/-- A helper thread. -/
inductive Helper where
  | unborn
  | flushing
  /-- The guard is dropped, and the result not sent yet. -/
  | sending (result : Except Fail Unit)
  /-- The channel holds the result, or is disconnected. -/
  | ended (sent : Option (Except Fail Unit))

structure State where
  shutdown : Bool
  flushInFlight : Bool
  calls : Nat → Call
  helpers : Nat → Helper
  spawned : Nat

def State.initial : State := ⟨false, false, fun _ => .idle, fun _ => .unborn, 0⟩

def State.setCall (s : State) (thread : Nat) (call : Call) : State :=
  { s with calls := Function.update s.calls thread call }

def State.setHelper (s : State) (helper : Nat) (pc : Helper) : State :=
  { s with helpers := Function.update s.helpers helper pc }

inductive Action where
  | forceFlush (thread timeoutMillis : Nat)
  /-- The end of a flush on the calling thread. -/
  | flushed (thread : Nat) (result : Except Fail Unit)
  /-- The swap of the flag. -/
  | acquire (thread : Nat)
  | spawn (thread : Nat)
  | spawnFail (thread : Nat) (err : String)
  /-- The store after a failed spawn. -/
  | clear (thread : Nat)
  /-- A helper has flushed and drops its guard. -/
  | flush (helper : Nat) (result : Except Fail Unit)
  | panic (helper : Nat)
  | send (helper : Nat)
  | receive (thread : Nat)
  | timeout (thread : Nat)
  /-- The swap of `otel_sdk_shutdown`. -/
  | shutdown

abbrev Answer := Except Fail Unit

def alreadyShutdown : Answer := fail .alreadyShutdown "cannot force flush a shut-down SDK"

def inProgress : Answer :=
  fail .timeout "a timed force flush is already in progress; retry after it completes"

def timedOut : Answer := fail .timeout "force flush did not complete within the requested timeout"

def answered (s : State) (answer : Answer) : Option (State × Option Answer) := some (s, some answer)

def continued (s : State) : Option (State × Option Answer) := some (s, none)

/-- One step of one thread; `none` while the thread is elsewhere. -/
def step (s : State) : Action → Option (State × Option Answer)
  | .forceFlush thread timeoutMillis =>
    match s.calls thread with
    | .idle =>
      if s.shutdown then answered s alreadyShutdown
      else if timeoutMillis = 0 then continued (s.setCall thread .blocking)
      else continued (s.setCall thread .entering)
    | _ => none
  | .flushed thread result =>
    match s.calls thread with
    | .blocking => answered (s.setCall thread .idle) result
    | _ => none
  | .acquire thread =>
    match s.calls thread with
    | .entering =>
      if s.flushInFlight then answered (s.setCall thread .idle) inProgress
      else continued ({ s with flushInFlight := true }.setCall thread .starting)
    | _ => none
  | .spawn thread =>
    match s.calls thread with
    | .starting =>
      continued (({ s with spawned := s.spawned + 1 }.setCall thread (.waiting s.spawned)).setHelper
        s.spawned .flushing)
    | _ => none
  | .spawnFail thread err =>
    match s.calls thread with
    | .starting => continued ({ s with flushInFlight := false }.setCall thread (.clearing err))
    | _ => none
  | .clear thread =>
    match s.calls thread with
    | .clearing err =>
      answered ({ s with flushInFlight := false }.setCall thread .idle)
        (fail .internalError s!"failed to spawn force-flush helper thread: {err}")
    | _ => none
  | .flush helper result =>
    match s.helpers helper with
    | .flushing => continued ({ s with flushInFlight := false }.setHelper helper (.sending result))
    | _ => none
  | .panic helper =>
    match s.helpers helper with
    | .flushing => continued ({ s with flushInFlight := false }.setHelper helper (.ended none))
    | _ => none
  | .send helper =>
    match s.helpers helper with
    | .sending result => continued (s.setHelper helper (.ended (some result)))
    | _ => none
  | .receive thread =>
    match s.calls thread with
    | .waiting helper =>
      match s.helpers helper with
      | .ended (some result) => answered (s.setCall thread .idle) result
      | .ended none => answered (s.setCall thread .idle) timedOut
      | _ => none
    | _ => none
  | .timeout thread =>
    match s.calls thread with
    | .waiting _ => answered (s.setCall thread .idle) timedOut
    | _ => none
  | .shutdown => continued { s with shutdown := true }

def attempt (s : State) (action : Action) : Option State := (step s action).map Prod.fst

/-- The state after an interleaving of steps. -/
def run : State → List Action → Option State := Run.tryRun attempt

/-! ### Who is behind the flag -/

inductive Holder where
  | call (thread : Nat)
  | helper (helper : Nat)
  deriving DecidableEq

/-- A call that is starting and a helper that is flushing have the flag set. -/
def State.holds (s : State) : Holder → Prop
  | .call thread => s.calls thread = .starting
  | .helper helper => s.helpers helper = .flushing

/-- The flag is set while a call is starting or a helper flushing, and there is one of them then. -/
structure InFlight (s : State) : Prop where
  flag_iff : s.flushInFlight = true ↔ ∃ holder, s.holds holder
  one : ∀ holder other, s.holds holder → s.holds other → other = holder

theorem inFlight_initial : InFlight State.initial := by
  have hnone : ∀ holder, ¬State.initial.holds holder := by
    intro holder
    cases holder with
    | call thread => exact fun h => (by cases h)
    | helper helper => exact fun h => (by cases h)
  refine ⟨⟨fun h => (by cases h), fun ⟨holder, h⟩ => absurd h (hnone holder)⟩, ?_⟩
  exact fun holder _ h _ => absurd h (hnone holder)

section InFlight

variable {s s' : State} {holder : Holder}

/-- Nothing changes behind the flag. -/
theorem InFlight.congr (h : InFlight s) (hflag : s'.flushInFlight = s.flushInFlight)
    (hholds : ∀ holder, s'.holds holder ↔ s.holds holder) : InFlight s' := by
  constructor
  · rw [hflag, h.flag_iff]
    exact exists_congr fun holder => (hholds holder).symm
  · intro holder other hx hy
    exact h.one holder other ((hholds holder).mp hx) ((hholds other).mp hy)

/-- The flag is cleared, and nobody is behind it. -/
theorem inFlight_of_none (hflag : s'.flushInFlight = false) (hholds : ∀ holder, ¬s'.holds holder) :
    InFlight s' := by
  constructor
  · rw [hflag]
    exact ⟨fun h => (by cases h), fun ⟨holder, h⟩ => absurd h (hholds holder)⟩
  · exact fun holder _ h _ => absurd h (hholds holder)

/-- The flag is set, with one behind it. -/
theorem inFlight_of_one (holder : Holder) (hflag : s'.flushInFlight = true)
    (hholds : ∀ other, s'.holds other ↔ other = holder) : InFlight s' := by
  constructor
  · exact ⟨fun _ => ⟨holder, (hholds holder).mpr rfl⟩, fun _ => hflag⟩
  · intro x y hx hy
    rw [(hholds x).mp hx, (hholds y).mp hy]

theorem InFlight.not_holds (h : InFlight s) (hflag : s.flushInFlight = false) :
    ¬s.holds holder := by
  intro hholds
  cases hflag.symm.trans (h.flag_iff.mpr ⟨holder, hholds⟩)

theorem InFlight.flag (h : InFlight s) (hholds : s.holds holder) : s.flushInFlight = true :=
  h.flag_iff.mpr ⟨holder, hholds⟩

end InFlight

section Setting

variable (s : State) {thread helper : Nat} {call : Call} {pc : Helper} {holder : Holder}

/-- Behind the flag, when a call moved. -/
theorem holds_setCall (hholder : holder ≠ .call thread) :
    (s.setCall thread call).holds holder ↔ s.holds holder := by
  cases holder with
  | call other =>
    have hne : other ≠ thread := fun heq => hholder (congrArg Holder.call heq)
    show Function.update s.calls thread call other = .starting ↔ s.calls other = .starting
    rw [Function.update_of_ne hne]
  | helper other => exact Iff.rfl

theorem holds_setCall_self : (s.setCall thread call).holds (.call thread) ↔ call = .starting := by
  show Function.update s.calls thread call thread = .starting ↔ _
  rw [Function.update_self]

theorem holds_setHelper (hholder : holder ≠ .helper helper) :
    (s.setHelper helper pc).holds holder ↔ s.holds holder := by
  cases holder with
  | call other => exact Iff.rfl
  | helper other =>
    have hne : other ≠ helper := fun heq => hholder (congrArg Holder.helper heq)
    show Function.update s.helpers helper pc other = .flushing ↔ s.helpers other = .flushing
    rw [Function.update_of_ne hne]

theorem holds_setHelper_self :
    (s.setHelper helper pc).holds (.helper helper) ↔ pc = .flushing := by
  show Function.update s.helpers helper pc helper = .flushing ↔ _
  rw [Function.update_self]

end Setting

section Steps

variable {s : State} {thread helper : Nat} {call : Call} {pc : Helper}

/-- A call moves that neither was nor is starting. -/
theorem InFlight.setCall (h : InFlight s) (hbefore : s.calls thread ≠ .starting)
    (hcall : call ≠ .starting) : InFlight (s.setCall thread call) := by
  refine h.congr rfl fun holder => ?_
  by_cases hholder : holder = .call thread
  · subst hholder
    rw [holds_setCall_self]
    exact ⟨fun heq => absurd heq hcall, fun heq => absurd heq hbefore⟩
  · exact holds_setCall s hholder

theorem InFlight.setHelper (h : InFlight s) (hbefore : s.helpers helper ≠ .flushing)
    (hpc : pc ≠ .flushing) : InFlight (s.setHelper helper pc) := by
  refine h.congr rfl fun holder => ?_
  by_cases hholder : holder = .helper helper
  · subst hholder
    rw [holds_setHelper_self]
    exact ⟨fun heq => absurd heq hpc, fun heq => absurd heq hbefore⟩
  · exact holds_setHelper s hholder

/-- A call finds the flag clear and sets it. -/
theorem InFlight.acquire (h : InFlight s) (hflag : s.flushInFlight = false) :
    InFlight ({ s with flushInFlight := true }.setCall thread .starting) := by
  refine inFlight_of_one (.call thread) rfl fun holder => ?_
  by_cases hholder : holder = .call thread
  · subst hholder
    rw [holds_setCall_self]
    exact ⟨fun _ => rfl, fun _ => rfl⟩
  · rw [holds_setCall _ hholder]
    exact ⟨fun hholds => absurd hholds (h.not_holds hflag), fun heq => absurd heq hholder⟩

/-- The flag passes from the call to its helper. -/
theorem InFlight.spawn (h : InFlight s) (hcall : s.calls thread = .starting) :
    InFlight (({ s with spawned := s.spawned + 1 }.setCall thread (.waiting s.spawned)).setHelper
      s.spawned .flushing) := by
  have hholds : s.holds (.call thread) := hcall
  refine inFlight_of_one (.helper s.spawned) ?_ fun holder => ?_
  · exact h.flag hholds
  by_cases hhelper : holder = .helper s.spawned
  · subst hhelper
    rw [holds_setHelper_self]
    exact ⟨fun _ => rfl, fun _ => rfl⟩
  · rw [holds_setHelper _ hhelper]
    refine ⟨fun hother => ?_, fun heq => absurd heq hhelper⟩
    by_cases hthread : holder = .call thread
    · subst hthread
      exact absurd ((holds_setCall_self _).mp hother) (fun heq => by cases heq)
    · exact absurd (h.one _ _ hholds ((holds_setCall _ hthread).mp hother)) hthread

/-- The guard is dropped with the closure that was not spawned. -/
theorem InFlight.spawnFail (h : InFlight s) (hcall : s.calls thread = .starting)
    (hnext : call ≠ .starting) :
    InFlight ({ s with flushInFlight := false }.setCall thread call) := by
  refine inFlight_of_none rfl fun holder hholds => ?_
  by_cases hholder : holder = .call thread
  · subst hholder
    exact hnext ((holds_setCall_self _).mp hholds)
  · exact hholder (h.one (.call thread) holder hcall ((holds_setCall _ hholder).mp hholds))

/-- A helper drops its guard. -/
theorem InFlight.drop (h : InFlight s) (hhelper : s.helpers helper = .flushing)
    (hnext : pc ≠ .flushing) :
    InFlight ({ s with flushInFlight := false }.setHelper helper pc) := by
  refine inFlight_of_none rfl fun holder hholds => ?_
  by_cases hholder : holder = .helper helper
  · subst hholder
    exact hnext ((holds_setHelper_self _).mp hholds)
  · exact hholder (h.one (.helper helper) holder hhelper ((holds_setHelper _ hholder).mp hholds))

end Steps

/-! ### Every run -/

/-- What is said of a step: the flag is right after it, a call that finds the flag set reports that
and starts nothing, and the failure path of a call leaves the flag to others that have it. -/
structure Respects (s : State) (action : Action) (s' : State) : Prop where
  inFlight : InFlight s'
  refused : ∀ thread, action = .acquire thread → s.flushInFlight = true →
    step s action = answered (s.setCall thread .idle) inProgress
  keeps : ∀ thread, (∃ err, action = .spawnFail thread err) ∨ action = .clear thread →
    ∀ holder, holder ≠ .call thread → s.holds holder → s'.flushInFlight = true

/-- The flag is not set when a call clears it after a failed spawn. -/
def ClearsOwn (s : State) (action : Action) (_ : State) : Prop :=
  ∀ thread, action = .clear thread → s.flushInFlight = false

section Runs

variable {s s' : State} {action : Action} {thread : Nat}

theorem clear_of_attempt (h : attempt s (.clear thread) = some s') :
    (∃ err, s.calls thread = .clearing err) ∧
      s' = { s with flushInFlight := false }.setCall thread .idle := by
  rw [attempt, step] at h
  split at h
  · rename_i err hcall
    cases h
    exact ⟨⟨err, hcall⟩, rfl⟩
  · cases h

theorem spawnFail_of_attempt {err : String} (h : attempt s (.spawnFail thread err) = some s') :
    s.calls thread = .starting ∧
      s' = { s with flushInFlight := false }.setCall thread (.clearing err) := by
  rw [attempt, step] at h
  split at h
  · rename_i hcall
    cases h
    exact ⟨hcall, rfl⟩
  · cases h

theorem acquire_refused (h : attempt s (.acquire thread) = some s')
    (hflag : s.flushInFlight = true) :
    step s (.acquire thread) = answered (s.setCall thread .idle) inProgress := by
  rw [attempt, step] at h
  rw [step]
  split at h
  · exact if_pos hflag
  · cases h

theorem InFlight.step (h : InFlight s) (hstep : attempt s action = some s')
    (hclears : ClearsOwn s action s') : InFlight s' := by
  cases action with
  | forceFlush thread timeoutMillis =>
    rw [attempt, ForceFlush.step] at hstep
    split at hstep
    · rename_i hcall
      have hidle : s.calls thread ≠ .starting := fun heq => by cases hcall.symm.trans heq
      split at hstep
      · cases hstep
        exact h
      · split at hstep
        · cases hstep
          exact h.setCall hidle fun heq => by cases heq
        · cases hstep
          exact h.setCall hidle fun heq => by cases heq
    · cases hstep
  | flushed thread result =>
    rw [attempt, ForceFlush.step] at hstep
    split at hstep
    · rename_i hcall
      cases hstep
      exact h.setCall (fun heq => by cases hcall.symm.trans heq) fun heq => by cases heq
    · cases hstep
  | acquire thread =>
    rw [attempt, ForceFlush.step] at hstep
    split at hstep
    · rename_i hcall
      split at hstep
      · cases hstep
        exact h.setCall (fun heq => by cases hcall.symm.trans heq) fun heq => by cases heq
      · rename_i hflag
        cases hstep
        exact h.acquire (Bool.eq_false_iff.mpr hflag)
    · cases hstep
  | spawn thread =>
    rw [attempt, ForceFlush.step] at hstep
    split at hstep
    · rename_i hcall
      cases hstep
      exact h.spawn hcall
    · cases hstep
  | spawnFail thread err =>
    obtain ⟨hcall, rfl⟩ := spawnFail_of_attempt hstep
    exact h.spawnFail hcall fun heq => by cases heq
  | clear thread =>
    obtain ⟨⟨err, hcall⟩, rfl⟩ := clear_of_attempt hstep
    have hflag := hclears thread rfl
    have hsame : InFlight { s with flushInFlight := false } := h.congr hflag.symm fun _ => Iff.rfl
    exact hsame.setCall (fun heq => by cases hcall.symm.trans heq) fun heq => by cases heq
  | flush helper result =>
    rw [attempt, ForceFlush.step] at hstep
    split at hstep
    · rename_i hhelper
      cases hstep
      exact h.drop hhelper fun heq => by cases heq
    · cases hstep
  | panic helper =>
    rw [attempt, ForceFlush.step] at hstep
    split at hstep
    · rename_i hhelper
      cases hstep
      exact h.drop hhelper fun heq => by cases heq
    · cases hstep
  | send helper =>
    rw [attempt, ForceFlush.step] at hstep
    split at hstep
    · rename_i result hhelper
      cases hstep
      exact h.setHelper (fun heq => by cases hhelper.symm.trans heq) fun heq => by cases heq
    · cases hstep
  | receive thread =>
    rw [attempt, ForceFlush.step] at hstep
    split at hstep
    · rename_i helper hcall
      have hwaiting : s.calls thread ≠ .starting := fun heq => by cases hcall.symm.trans heq
      split at hstep
      · cases hstep
        exact h.setCall hwaiting fun heq => by cases heq
      · cases hstep
        exact h.setCall hwaiting fun heq => by cases heq
      · cases hstep
    · cases hstep
  | timeout thread =>
    rw [attempt, ForceFlush.step] at hstep
    split at hstep
    · rename_i helper hcall
      cases hstep
      exact h.setCall (fun heq => by cases hcall.symm.trans heq) fun heq => by cases heq
    · cases hstep
  | shutdown =>
    rw [attempt, ForceFlush.step] at hstep
    cases hstep
    exact h.congr rfl fun _ => Iff.rfl

theorem InFlight.respects (h : InFlight s) (hstep : attempt s action = some s')
    (hclears : ClearsOwn s action s') : Respects s action s' := by
  refine ⟨h.step hstep hclears, ?_, ?_⟩
  · rintro thread rfl hflag
    exact acquire_refused hstep hflag
  · rintro thread (⟨err, rfl⟩ | rfl) holder hne hholds
    · obtain ⟨hcall, -⟩ := spawnFail_of_attempt hstep
      exact absurd (h.one (.call thread) holder hcall hholds) hne
    · exact absurd hholds (h.not_holds (hclears thread rfl))

/-- Whoever is behind a flag that is set loses it to a call that clears it. -/
theorem InFlight.clearsOwn (h : InFlight s) (hstep : attempt s action = some s')
    (hrespects : Respects s action s') : ClearsOwn s action s' := by
  rintro thread rfl
  apply Bool.eq_false_iff.mpr
  intro hflag
  obtain ⟨⟨err, hcall⟩, rfl⟩ := clear_of_attempt hstep
  obtain ⟨holder, hholds⟩ := h.flag_iff.mp hflag
  have hne : holder ≠ .call thread := by
    rintro rfl
    cases hcall.symm.trans hholds
  cases hrespects.keeps thread (.inr rfl) holder hne hholds

end Runs

/-- **The flag is right throughout a run exactly when no call clears it, after a failed spawn, while
it is set.** -/
theorem one_timed_flush_iff (actions : List Action) :
    Run.AllSteps attempt Respects .initial actions ↔
      Run.AllSteps attempt ClearsOwn .initial actions :=
  Run.allSteps_iff (fun _ _ _ h hstep => ⟨h.clearsOwn hstep, h.respects hstep⟩)
    (fun _ _ _ h hstep hclears => h.step hstep hclears) inFlight_initial

/-- One call cannot spawn its helper; between the two times it clears the flag, a second call sets
it. -/
def interrupted : List Action :=
  [.forceFlush 0 1000, .acquire 0, .spawnFail 0 "out of threads", .forceFlush 1 1000, .acquire 1,
    .clear 0, .spawn 1, .forceFlush 2 1000, .acquire 2, .spawn 2]

/-- **Two helpers flush at once.** -/
theorem two_helpers_flush :
    (∃ s, run .initial interrupted = some s ∧ s.holds (.helper 0) ∧ s.holds (.helper 1)) ∧
      ¬Run.AllSteps attempt Respects .initial interrupted := by
  refine ⟨⟨_, rfl, rfl, rfl⟩, fun h => ?_⟩
  have hacquired := (((((h _ rfl).2 _ rfl).2 _ rfl).2 _ rfl).2 _ rfl).2
  cases (hacquired _ rfl).1.keeps 0 (.inr rfl) (.call 1) (by decide) rfl

end OtelC.Sdk.ForceFlush
