import OtelC.Lib.Registry
import OtelC.Lib.Run
import OtelC.Sdk.CustomCallbacks

/-!
# Tokens of metric batches

A custom metric exporter is not handed a batch but a token for it, with which the callback may visit
the batch on its own thread.  Exports and visits nest: a callback, of an exporter or of a visitor, may
export again.  The batches themselves belong to another package.

* `step_invariant`: the list of active batches of a thread is that of its running exports.
* `batch_tokens_run`: what a token finds, and what an export leaves, in every run.
-/

namespace OtelC.Metrics

open Registry (ThreadLists Scope Tracks)
open Sdk.Custom (Outcome OTelSdkError OTelSdkResult callbackResult)

/-! ### Exports and visits -/

variable {M : Type}

/-- `MetricBatchRegistration::new`, once the counter has given it a token. -/
def registerBatch (lists : ThreadLists M) (thread : Nat) (metrics : M) : ThreadLists M :=
  lists.register thread metrics

/-- `MetricBatchRegistration::drop`. -/
def unregisterBatch (lists : ThreadLists M) (thread : Nat) (token : UInt64) : ThreadLists M :=
  lists.unregister thread token

/-- `active_batch`. -/
def activeBatch (lists : ThreadLists M) (thread : Nat) (token : UInt64) : Option M :=
  Registry.lookup (lists.entries thread) token

/-- A visitor argument, as far as it is read before the traversal. -/
inductive VisitorArg where
  | null
  | sized (structSize : Nat)
  deriving DecidableEq

/-- `size_of::<OtelMetricVisitor>()`. -/
def visitorSize : Nat := 48

def VisitorArg.Complete : VisitorArg → Prop
  | .null => False
  | .sized structSize => visitorSize ≤ structSize

/-- `otel_metric_batch_visit` up to the traversal. -/
def otelMetricBatchVisit (lists : ThreadLists M) (thread : Nat) (batch : UInt64)
    (visitor : VisitorArg) : Except Fail M :=
  match activeBatch lists thread batch with
  | none => fail .invalidArgument "metric batch is not active for this exporter callback thread"
  | some metrics =>
    match visitor with
    | .null => fail .invalidArgument "metric visitor must not be NULL"
    | .sized structSize =>
      if structSize < visitorSize then
        fail .invalidConfig "metric visitor structure is smaller than the required ABI size"
      else .ok metrics

/-- What goes on in a thread, from the innermost outwards. -/
inductive Activity (M : Type) where
  /-- The export callback runs. -/
  | exporting (scope : Scope M)
  /-- The traversal of a batch, which calls the visitor. -/
  | visiting (metrics : M)

def Activity.scope? : Activity M → Option (Scope M)
  | .exporting scope => some scope
  | .visiting _ => none

/-- A custom metric exporter. -/
structure Exporter where
  shutdown : Bool
  hasExport : Bool

def Exporter.down (exporter : Exporter) : Exporter := { exporter with shutdown := true }

structure State (M : Type) where
  lists : ThreadLists M
  activities : Nat → List (Activity M)
  exporters : Nat → Exporter

/-- The exports that run on each thread. -/
def State.scopes (s : State M) (thread : Nat) : List (Scope M) :=
  (s.activities thread).filterMap Activity.scope?

def State.initial (hasExport : Nat → Bool) : State M :=
  ⟨.initial, fun _ => [], fun exporter => ⟨false, hasExport exporter⟩⟩

/-- The thread that acts is the one on which the call is made. -/
inductive Action (M : Type) where
  /-- The token zero is passed over. -/
  | skipZero
  | exportMetrics (thread exporter : Nat) (metrics : M)
  /-- The export callback returns or panics. -/
  | exported (thread : Nat) (outcome : Outcome)
  | visit (thread : Nat) (batch : UInt64) (visitor : VisitorArg)
  /-- The traversal ends, in whatever way. -/
  | visited (thread : Nat)
  | shutdown (exporter : Nat)

/-- What a call answers: a result of an export, or the failure of a visit. -/
inductive Answer where
  | exported (result : OTelSdkResult)
  | visit (e : Fail)

def State.setActivities (s : State M) (thread : Nat) (activities : List (Activity M)) : State M :=
  { s with activities := Function.update s.activities thread activities }

/-- One step on one thread; `none` while the thread is elsewhere.  The lock that keeps a shutdown
waiting for exports is left out: here it may come at any time. -/
def step (s : State M) : Action M → Option (State M × Option Answer)
  | .skipZero => if s.lists.counter = 0 then some ({ s with lists := s.lists.skip }, none) else none
  | .exportMetrics thread exporter metrics =>
    if (s.exporters exporter).shutdown then some (s, some (.exported (.error .alreadyShutdown)))
    else if s.lists.counter = 0 then none
    else
      let scope := s.lists.scope thread metrics
      let lists := registerBatch s.lists thread metrics
      if (s.exporters exporter).hasExport then
        some ({ s with lists := lists }.setActivities thread
          (.exporting scope :: s.activities thread), none)
      else
        some ({ s with lists := unregisterBatch lists thread scope.token },
          some (.exported (.error (.internalFailure
            "custom metric exporter lost its validated export callback"))))
  | .exported thread outcome =>
    match s.activities thread with
    | .exporting scope :: outer =>
      some ({ s with lists := unregisterBatch s.lists thread scope.token }.setActivities thread outer,
        some (.exported (callbackResult "metric" false "export" 0 outcome)))
    | _ => none
  | .visit thread batch visitor =>
    match otelMetricBatchVisit s.lists thread batch visitor with
    | .ok metrics => some (s.setActivities thread (.visiting metrics :: s.activities thread), none)
    | .error e => some (s, some (.visit e))
  | .visited thread =>
    match s.activities thread with
    | .visiting _ :: outer => some (s.setActivities thread outer, none)
    | _ => none
  | .shutdown exporter =>
    some ({ s with
      exporters := Function.update s.exporters exporter (s.exporters exporter).down }, none)

def run (hasExport : Nat → Bool) (actions : List (Action M)) : Option (State M) :=
  Run.tryRun (fun s action => (step s action).map Prod.fst) (State.initial hasExport) actions

/-! ### The invariant -/

theorem activities_setActivities_self (s : State M) (thread : Nat) (activities : List (Activity M)) :
    (s.setActivities thread activities).activities thread = activities := Function.update_self _ _ _

theorem activities_setActivities_of_ne (s : State M) {thread other : Nat}
    (activities : List (Activity M)) (h : other ≠ thread) :
    (s.setActivities thread activities).activities other = s.activities other :=
  Function.update_of_ne h _ _

theorem scopes_setActivities (s : State M) (thread : Nat) (activities : List (Activity M)) :
    (s.setActivities thread activities).scopes =
      Function.update s.scopes thread (activities.filterMap Activity.scope?) := by
  funext other
  by_cases hother : other = thread
  · subst hother
    rw [Function.update_self, State.scopes, activities_setActivities_self]
  · rw [Function.update_of_ne hother, State.scopes, activities_setActivities_of_ne s _ hother,
      State.scopes]

/-- The batch that is being visited is that of an export around the visit. -/
def VisitsInside : List (Activity M) → Prop
  | [] => True
  | .exporting _ :: outer => VisitsInside outer
  | .visiting metrics :: outer =>
    (∃ scope, .exporting scope ∈ outer ∧ scope.entry = metrics) ∧ VisitsInside outer

structure Invariant (s : State M) : Prop where
  tracks : Tracks s.lists s.scopes
  visits : ∀ thread, VisitsInside (s.activities thread)

variable {s s' : State M}

theorem invariant_initial (hasExport : Nat → Bool) :
    Invariant (State.initial hasExport : State M) :=
  ⟨Registry.tracks_initial, fun _ => trivial⟩

theorem visits_setActivities (h : ∀ thread, VisitsInside (s.activities thread)) {thread : Nat}
    {activities : List (Activity M)} (hnew : VisitsInside activities) (other : Nat) :
    VisitsInside ((s.setActivities thread activities).activities other) := by
  by_cases hother : other = thread
  · subst hother
    rw [activities_setActivities_self]
    exact hnew
  · rw [activities_setActivities_of_ne s _ hother]
    exact h other

theorem mem_scopes {thread : Nat} {scope : Scope M} :
    scope ∈ s.scopes thread ↔ .exporting scope ∈ s.activities thread := by
  rw [State.scopes, List.mem_filterMap]
  constructor
  · rintro ⟨activity, hmem, hscope⟩
    cases activity with
    | exporting scope' =>
      obtain rfl := Option.some.inj hscope
      exact hmem
    | visiting metrics => cases hscope
  · intro hmem
    exact ⟨_, hmem, rfl⟩

theorem visit_ok {lists : ThreadLists M} {thread : Nat} {batch : UInt64} {visitor : VisitorArg}
    {metrics : M} : otelMetricBatchVisit lists thread batch visitor = .ok metrics ↔
      visitor.Complete ∧ activeBatch lists thread batch = some metrics := by
  rw [otelMetricBatchVisit]
  cases activeBatch lists thread batch with
  | none => exact iff_of_false (fun h => by cases h) fun h => by cases h.2
  | some found =>
    cases visitor with
    | null => exact iff_of_false (fun h => by cases h) fun h => h.1
    | sized structSize =>
      dsimp only
      by_cases hsize : structSize < visitorSize
      · rw [if_pos hsize]
        exact iff_of_false (fun h => by cases h) fun h => Nat.not_le_of_lt hsize h.1
      · rw [if_neg hsize, Except.ok.injEq, Option.some.injEq]
        exact (and_iff_right (Nat.le_of_not_lt hsize)).symm

/-- What a step does, with its answer. -/
inductive Steps (s : State M) : Action M → State M → Option Answer → Prop where
  | skipZero (hzero : s.lists.counter = 0) :
    Steps s .skipZero { s with lists := s.lists.skip } none
  /-- An exporter that was shut down. -/
  | refused {thread exporter : Nat} {metrics : M} {answer : Answer} :
    Steps s (.exportMetrics thread exporter metrics) s (some answer)
  | began {thread exporter : Nat} {metrics : M} (hzero : s.lists.counter ≠ 0) :
    Steps s (.exportMetrics thread exporter metrics)
      ({ s with lists := registerBatch s.lists thread metrics }.setActivities thread
        (.exporting (s.lists.scope thread metrics) :: s.activities thread)) none
  /-- An exporter without a callback. -/
  | lost {thread exporter : Nat} {metrics : M} {answer : Answer} (hzero : s.lists.counter ≠ 0) :
    Steps s (.exportMetrics thread exporter metrics)
      { s with
        lists := unregisterBatch (registerBatch s.lists thread metrics) thread
          (s.lists.scope thread metrics).token } (some answer)
  | ended {thread : Nat} {outcome : Outcome} {scope : Scope M} {outer : List (Activity M)}
    {answer : Answer} (hactivities : s.activities thread = .exporting scope :: outer) :
    Steps s (.exported thread outcome)
      ({ s with lists := unregisterBatch s.lists thread scope.token }.setActivities thread outer)
      (some answer)
  | visiting {thread : Nat} {batch : UInt64} {visitor : VisitorArg} {metrics : M}
    (hvisit : otelMetricBatchVisit s.lists thread batch visitor = .ok metrics) :
    Steps s (.visit thread batch visitor)
      (s.setActivities thread (.visiting metrics :: s.activities thread)) none
  | rejected {thread : Nat} {batch : UInt64} {visitor : VisitorArg} {answer : Answer} :
    Steps s (.visit thread batch visitor) s (some answer)
  | visited {thread : Nat} {metrics : M} {outer : List (Activity M)}
    (hactivities : s.activities thread = .visiting metrics :: outer) :
    Steps s (.visited thread) (s.setActivities thread outer) none
  | shutdown {exporter : Nat} :
    Steps s (.shutdown exporter) { s with
      exporters := Function.update s.exporters exporter (s.exporters exporter).down } none

theorem steps_of_step {action : Action M} {answer : Option Answer}
    (hstep : step s action = some (s', answer)) : Steps s action s' answer := by
  cases action with
  | skipZero =>
    rw [step] at hstep
    split at hstep
    · rename_i hzero
      cases hstep
      exact .skipZero hzero
    · cases hstep
  | exportMetrics thread exporter metrics =>
    rw [step] at hstep
    split at hstep
    · cases hstep
      exact .refused
    · split at hstep
      · cases hstep
      · rename_i hzero
        split at hstep
        · cases hstep
          exact .began hzero
        · cases hstep
          exact .lost hzero
  | exported thread outcome =>
    rw [step] at hstep
    split at hstep
    · rename_i scope outer hactivities
      cases hstep
      exact .ended hactivities
    · cases hstep
  | visit thread batch visitor =>
    rw [step] at hstep
    split at hstep
    · rename_i metrics hvisit
      cases hstep
      exact .visiting hvisit
    · cases hstep
      exact .rejected
  | visited thread =>
    rw [step] at hstep
    split at hstep
    · rename_i metrics outer hactivities
      cases hstep
      exact .visited hactivities
    · cases hstep
  | shutdown exporter =>
    cases hstep
    exact .shutdown

/-- **One step keeps the invariant.** -/
theorem step_invariant {action : Action M} {answer : Option Answer} (h : Invariant s)
    (hstep : step s action = some (s', answer)) : Invariant s' := by
  cases steps_of_step hstep with
  | skipZero hzero => exact ⟨h.tracks.skip hzero, h.visits⟩
  | refused => exact h
  | @began thread exporter metrics hzero =>
    refine ⟨?_, visits_setActivities h.visits (h.visits thread)⟩
    rw [scopes_setActivities]
    exact h.tracks.register hzero thread metrics
  | @lost thread exporter metrics answer hzero =>
    have hunregister := (h.tracks.register hzero thread metrics).unregister
      (Function.update_self thread _ _)
    rw [Function.update_idem, Function.update_eq_self] at hunregister
    exact ⟨hunregister, h.visits⟩
  | @ended thread outcome scope outer answer hactivities =>
    have hscopes : s.scopes thread = scope :: outer.filterMap Activity.scope? := by
      rw [State.scopes, hactivities]
      rfl
    have hinside := h.visits thread
    rw [hactivities] at hinside
    refine ⟨?_, visits_setActivities h.visits hinside⟩
    rw [scopes_setActivities]
    exact h.tracks.unregister hscopes
  | @visiting thread batch visitor metrics hvisit =>
    have hactive := (visit_ok.mp hvisit).2
    obtain ⟨scope, hscope, hitem⟩ := h.tracks.mem_entries.mp (Registry.mem_of_lookup hactive)
    refine ⟨?_, visits_setActivities h.visits ⟨⟨scope, mem_scopes.mp hscope, ?_⟩, h.visits thread⟩⟩
    · rw [scopes_setActivities]
      show Tracks s.lists (Function.update s.scopes thread (s.scopes thread))
      rw [Function.update_eq_self]
      exact h.tracks
    · exact (Prod.mk.inj hitem).2
  | rejected => exact h
  | @visited thread metrics outer hactivities =>
    have hscopes : s.scopes thread = outer.filterMap Activity.scope? := by
      rw [State.scopes, hactivities]
      rfl
    have hinside := h.visits thread
    rw [hactivities] at hinside
    refine ⟨?_, visits_setActivities h.visits hinside.2⟩
    rw [scopes_setActivities, ← hscopes]
    show Tracks s.lists (Function.update s.scopes thread (s.scopes thread))
    rw [Function.update_eq_self]
    exact h.tracks
  | shutdown => exact ⟨h.tracks, h.visits⟩

theorem run_invariant {hasExport : Nat → Bool} {actions : List (Action M)}
    (h : run hasExport actions = some s) : Invariant s := by
  refine Run.tryRun_invariant ?_ (invariant_initial hasExport) h
  intro s action s' hs hstep
  obtain ⟨⟨s₁, answer⟩, htaken, rfl⟩ := Option.map_eq_some_iff.mp hstep
  exact step_invariant hs htaken

/-! ### How many tokens there are -/

def Action.isExport : Action M → Bool
  | .exportMetrics _ _ _ => true
  | _ => false

theorem step_issued {action : Action M} {answer : Option Answer}
    (hstep : step s action = some (s', answer)) :
    s'.lists.issued.length ≤ s.lists.issued.length + action.isExport.toNat := by
  cases steps_of_step hstep with
  | refused => exact Nat.le_succ _
  | @began thread exporter metrics hzero =>
    exact Nat.le_of_eq (Registry.length_issued_register s.lists thread metrics)
  | @lost thread exporter metrics answer hzero =>
    exact Nat.le_of_eq (Registry.length_issued_register s.lists thread metrics)
  | skipZero hzero => exact Nat.le_refl _
  | ended hactivities => exact Nat.le_refl _
  | visiting hvisit => exact Nat.le_refl _
  | rejected => exact Nat.le_refl _
  | visited hactivities => exact Nat.le_refl _
  | shutdown => exact Nat.le_refl _

theorem run_issued {hasExport : Nat → Bool} {actions : List (Action M)}
    (h : run hasExport actions = some s) :
    s.lists.issued.length ≤ actions.countP Action.isExport := by
  have hcount := Run.tryRun_count (fun s : State M => s.lists.issued.length) Action.isExport ?_ h
  · rwa [State.initial, ThreadLists.initial, List.length_nil, Nat.zero_add] at hcount
  · intro s action s' hstep
    obtain ⟨⟨s₁, answer⟩, htaken, rfl⟩ := Option.map_eq_some_iff.mp hstep
    exact step_issued htaken

/-! ### What a token finds -/

/-- The failure of a visit with a token that is not active. -/
def notActive : Fail :=
  ⟨.invalidArgument, "metric batch is not active for this exporter callback thread"⟩

/-- Tokens and their exports. -/
structure TokensScoped (s : State M) : Prop where
  /-- A token finds the batch of a running export of the calling thread, and no other. -/
  visit_iff : ∀ thread batch visitor metrics,
    otelMetricBatchVisit s.lists thread batch visitor = .ok metrics ↔ visitor.Complete ∧
      ∃ scope, .exporting scope ∈ s.activities thread ∧ scope.token = batch ∧ scope.entry = metrics
  /-- The token of an export finds its batch while that export runs on the calling thread. -/
  issued_iff : ∀ index batch, s.lists.issued[index]? = some batch → ∀ thread visitor metrics,
    otelMetricBatchVisit s.lists thread batch visitor = .ok metrics ↔ visitor.Complete ∧
      ∃ scope, .exporting scope ∈ s.activities thread ∧ scope.index = index ∧ scope.entry = metrics
  rejected : ∀ thread batch visitor,
    (∀ scope, .exporting scope ∈ s.activities thread → scope.token ≠ batch) →
      step s (.visit thread batch visitor) = some (s, some (.visit notActive))
  /-- A visit goes on to the batch that the token finds. -/
  visiting : ∀ thread batch visitor metrics,
    otelMetricBatchVisit s.lists thread batch visitor = .ok metrics →
      step s (.visit thread batch visitor) =
        some (s.setActivities thread (.visiting metrics :: s.activities thread), none)
  /-- Every batch that is being visited is that of an export around the visit. -/
  visits : ∀ thread, VisitsInside (s.activities thread)
  began : ∀ thread exporter metrics s', step s (.exportMetrics thread exporter metrics) =
    some (s', none) → ∃ scope, s'.activities thread = .exporting scope :: s.activities thread ∧
      scope.index = s.lists.issued.length ∧ s'.lists.issued = s.lists.issued ++ [scope.token] ∧
      scope.entry = metrics ∧ scope.before = s.lists.entries thread
  ended : ∀ thread outcome s' answer, step s (.exported thread outcome) = some (s', answer) →
    ∃ scope outer, s.activities thread = .exporting scope :: outer ∧
      s'.activities thread = outer ∧
      s'.lists.entries = Function.update s.lists.entries thread scope.before
  /-- An export that does not reach its callback leaves every list as it was. -/
  refused : ∀ thread exporter metrics s' answer, step s (.exportMetrics thread exporter metrics) =
    some (s', some answer) → s'.lists.entries = s.lists.entries

theorem notActive_of_none {thread : Nat} {batch : UInt64} {visitor : VisitorArg}
    (h : activeBatch s.lists thread batch = none) :
    step s (.visit thread batch visitor) = some (s, some (.visit notActive)) := by
  rw [step, otelMetricBatchVisit, h]
  rfl

theorem Invariant.tokensScoped (h : Invariant s) (hfew : s.lists.issued.length < 2 ^ 64) :
    TokensScoped s := {
  visit_iff := by
    intro thread batch visitor metrics
    rw [visit_ok, activeBatch, h.tracks.lookup_iff hfew]
    simp only [mem_scopes]
  issued_iff := by
    intro index batch hissued thread visitor metrics
    rw [visit_ok, activeBatch, h.tracks.lookup_issued_iff hfew hissued]
    simp only [mem_scopes]
  rejected := by
    intro thread batch visitor hnone
    apply notActive_of_none
    rw [activeBatch, Registry.lookup_eq_none_iff]
    intro hmem
    obtain ⟨item, hitem, rfl⟩ := List.mem_map.mp hmem
    obtain ⟨scope, hscope, rfl⟩ := h.tracks.mem_entries.mp hitem
    exact hnone scope (mem_scopes.mp hscope) rfl
  visiting := by
    intro thread batch visitor metrics hvisit
    rw [step, hvisit]
  visits := h.visits
  began := by
    intro thread exporter metrics s' hstep
    cases steps_of_step hstep with
    | began hzero => exact ⟨_, Function.update_self thread _ _, rfl, rfl, rfl, rfl⟩
  ended := by
    intro thread outcome s' answer hstep
    cases steps_of_step hstep with
    | @ended _ _ scope outer answer hactivities =>
      have hscopes : s.scopes thread = scope :: outer.filterMap Activity.scope? := by
        rw [State.scopes, hactivities]
        rfl
      exact ⟨scope, outer, hactivities, Function.update_self thread _ _,
        h.tracks.unregister_entries hscopes⟩
  refused := by
    intro thread exporter metrics s' answer hstep
    cases steps_of_step hstep with
    | refused => rfl
    | lost hzero => exact Registry.unregister_register s.lists thread metrics }

/-- **Metric batch tokens never outlive their export**, in every run with fewer than `2 ^ 64`
exports. -/
theorem batch_tokens_run (hasExport : Nat → Bool) (actions : List (Action M)) (s : State M)
    (hrun : run hasExport actions = some s) (hfew : actions.countP Action.isExport < 2 ^ 64) :
    TokensScoped s :=
  (run_invariant hrun).tokensScoped (Nat.lt_of_le_of_lt (run_issued hrun) hfew)

/-- An export inside an export, and a visit of the outer batch in it. -/
def nestedExports : List (Action Nat) :=
  [.exportMetrics 0 0 7, .exportMetrics 0 1 8, .visit 0 1 (.sized 48)]

theorem batch_tokens_run_nested :
    ∃ s, run (fun _ => true) nestedExports = some s ∧ TokensScoped s :=
  ⟨_, rfl, batch_tokens_run (fun _ => true) nestedExports _ rfl (by decide)⟩

end OtelC.Metrics
