import OtelC.Lib.Pool
import OtelC.Logs.Batch
import OtelC.Sdk.CustomCallbacks
import OtelC.Sdk.CustomLifecycle
import OtelC.Trace.SpanExport

/-!
# Custom exporters

An exporter calls the callbacks it was made of under a reader-writer lock: exports and force flushes
hold it shared, a shutdown holds it alone, and each looks at the shutdown flag first.  Dropping the
exporter shuts it down and destroys the callback state.  The three exporters differ in their table,
in what a batch is, and in its conversion.

* `Simulates`, `step_simulates`: the callbacks of an exporter live the life of `CustomLifecycle`.
* `step_enter`: the callback of a call is the one that its own request asks for.
* `custom_callbacks_lifecycle`: what follows for the Logs, Traces and Metrics exporters.
-/

namespace OtelC.Sdk.Custom

open Fields (u64At)

/-! ### The exporters -/

/-- What the three exporters do not share. -/
structure Signal (β ν : Type) where
  signal : String
  strict : Bool
  layout : Layout
  hasTemporality : Bool
  convert : Resource → β → Except Fail ν

def logs : Signal Logs.LogBatch Logs.OtelLogExportBatchView where
  signal := "log"
  strict := true
  layout := ⟨none, 16, 24⟩
  hasTemporality := false
  convert := fun resource batch => Logs.convertBatch batch resource

def traces {TraceState : Type} (header : TraceState → Str) :
    Signal (List (Trace.SpanData TraceState)) Trace.OtelSpanExportBatchView where
  signal := "trace"
  strict := true
  layout := ⟨some 16, 24, 32⟩
  hasTemporality := false
  convert := fun resource spans => Trace.convertBatch header spans resource

/-- A batch of metrics is not converted: the callback gets a token for it. -/
def metrics (ResourceMetrics : Type) : Signal ResourceMetrics ResourceMetrics where
  signal := "metric"
  strict := false
  layout := ⟨some 16, 24, 32⟩
  hasTemporality := true
  convert := fun _ metrics => .ok metrics

variable {β ν : Type}

/-- `otel_custom_…_exporter_new`. -/
def Signal.new (x : Signal β ν) (args : NewArgs) : Read (Except Fail Callbacks) :=
  otelCustomExporterNew x.signal x.layout x.hasTemporality args

/-! ### The machine -/

inductive Request (β : Type) where
  | exportBatch (batch : β)
  | forceFlush
  | shutdown (timeout : Nat)

def Request.isShutdown : Request β → Bool
  | .shutdown _ => true
  | _ => false

/-- A call of one of the three functions of an exporter. -/
inductive Call (β ν : Type) where
  /-- It waits for the lock. -/
  | waiting (request : Request β)
  /-- It holds the lock. -/
  | locked (request : Request β)
  /-- Its callback runs, under the lock. -/
  | running (callback : Callback ν)

/-- An `RwLock`, as far as it keeps calls out. -/
structure RwLock where
  readers : Nat
  writer : Bool

def RwLock.acquire (lock : RwLock) (exclusive : Bool) : Option RwLock :=
  if exclusive then
    if lock.readers = 0 ∧ lock.writer = false then some { lock with writer := true } else none
  else if lock.writer then none
  else some { lock with readers := lock.readers + 1 }

def RwLock.release (lock : RwLock) (exclusive : Bool) : RwLock :=
  if exclusive then { lock with writer := false } else { lock with readers := lock.readers - 1 }

/-- Who has the exporter. -/
inductive Owner where
  | owned
  /-- `drop` has begun, and shuts the exporter down. -/
  | dropping
  /-- The state is being destroyed. -/
  | destroying
  | dropped
  deriving DecidableEq

structure State (β ν : Type) where
  resource : Resource
  lock : RwLock
  shutdown : Bool
  calls : List (Call β ν)
  owner : Owner
  events : List (Event ν)

def State.initial (resource : Resource) : State β ν := ⟨resource, ⟨0, false⟩, false, [], .owned, []⟩

/-- The calls are named by their places in the list of those that go on. -/
inductive Action (β : Type) where
  | call (request : Request β)
  | acquire (i : Nat)
  /-- The check of the flag, and what comes before the callback. -/
  | enter (i : Nat)
  /-- The callback is over. -/
  | finish (i : Nat) (outcome : Outcome)
  | setResource (resource : Resource)
  | drop
  | destroy
  | destroyed

/-- Five seconds. -/
def dropTimeout : Nat := 5 * 10 ^ 9

/-- `u64::try_from(timeout.as_millis()).unwrap_or(u64::MAX)`. -/
def timeoutMillis (timeout : Nat) : UInt64 :=
  if timeout / 10 ^ 6 < 2 ^ 64 then .ofNat (timeout / 10 ^ 6) else .ofNat (2 ^ 64 - 1)

def Callback.operation : Callback ν → String
  | .exportBatch _ => "export"
  | .forceFlush => "force-flush"
  | .shutdown _ _ => "shutdown"

/-- The timeout of `callback_result`. -/
def Callback.timeout : Callback ν → Nat
  | .shutdown timeout _ => timeout
  | _ => 0

/-- A call returns and lets go of the lock. -/
def State.leave (s : State β ν) (i : Nat) (exclusive : Bool) (result : OTelSdkResult) :
    Option (State β ν × Option OTelSdkResult) :=
  some ({ s with lock := s.lock.release exclusive, calls := s.calls.eraseIdx i }, some result)

/-- The callback of a call begins. -/
def State.begin (s : State β ν) (i : Nat) (callback : Callback ν) :
    Option (State β ν × Option OTelSdkResult) :=
  some ({ s with
    calls := s.calls.set i (.running callback), events := s.events ++ [.began callback] }, none)

/-- `export`, `force_flush` and `shutdown` once they hold the lock. -/
def enter (x : Signal β ν) (callbacks : Callbacks) (s : State β ν) (i : Nat) (request : Request β) :
    Option (State β ν × Option OTelSdkResult) :=
  if s.shutdown then s.leave i request.isShutdown (.error .alreadyShutdown)
  else
    match request with
    | .exportBatch batch =>
      match callbacks.exportBatch with
      | none => s.leave i false (.error (.internalFailure
          s!"custom {x.signal} exporter lost its validated export callback"))
      | some _ =>
        match x.convert s.resource batch with
        | .error e => s.leave i false (.error (.internalFailure e.message))
        | .ok view => s.begin i (.exportBatch view)
    | .forceFlush =>
      match callbacks.forceFlush with
      | none => s.leave i false (.ok ())
      | some _ => s.begin i .forceFlush
    | .shutdown timeout =>
      let s := { s with shutdown := true }
      match callbacks.shutdown with
      | none => s.leave i true (.ok ())
      | some _ => s.begin i (.shutdown timeout (timeoutMillis timeout))

/-- The Logs exporter has no force flush. -/
def Signal.offers (x : Signal β ν) : Request β → Bool
  | .forceFlush => x.layout.forceFlush.isSome
  | _ => true

/-- One step of one call, or of the owner; `none` while it cannot be taken.  Setting the resource and
dropping take the exporter by itself: no call goes on, and none is made afterwards. -/
def step (x : Signal β ν) (callbacks : Callbacks) (s : State β ν) :
    Action β → Option (State β ν × Option OTelSdkResult)
  | .call request =>
    if s.owner = .owned ∧ x.offers request = true then
      some ({ s with calls := s.calls ++ [.waiting request] }, none)
    else none
  | .acquire i =>
    match s.calls[i]? with
    | some (.waiting request) =>
      match s.lock.acquire request.isShutdown with
      | some lock => some ({ s with lock := lock, calls := s.calls.set i (.locked request) }, none)
      | none => none
    | _ => none
  | .enter i =>
    match s.calls[i]? with
    | some (.locked request) => enter x callbacks s i request
    | _ => none
  | .finish i outcome =>
    match s.calls[i]? with
    | some (.running callback) =>
      let s : State β ν := { s with events := s.events ++ [.ended callback] }
      s.leave i callback.isShutdown
        (callbackResult x.signal x.strict callback.operation callback.timeout outcome)
    | _ => none
  | .setResource resource =>
    if s.owner = .owned ∧ s.calls.isEmpty = true then some ({ s with resource := resource }, none)
    else none
  | .drop =>
    if s.owner = .owned ∧ s.calls.isEmpty = true then
      some ({ s with owner := .dropping, calls := [.waiting (.shutdown dropTimeout)] }, none)
    else none
  | .destroy =>
    if s.owner = .dropping ∧ s.calls.isEmpty = true then
      match callbacks.stateDestroy with
      | some _ => some ({ s with owner := .destroying, events := s.events ++ [.destroyBegan] }, none)
      | none => some ({ s with owner := .dropped }, none)
    else none
  | .destroyed =>
    if s.owner = .destroying then
      some ({ s with owner := .dropped, events := s.events ++ [.destroyEnded] }, none)
    else none

/-- The actions on an exporter, none of which was out of place. -/
def run (x : Signal β ν) (callbacks : Callbacks) (s : State β ν) (actions : List (Action β)) :
    Option (State β ν) :=
  Run.tryRun (fun s action => (step x callbacks s action).map Prod.fst) s actions

/-- A count of one for the calls that hold or use the lock in this way. -/
def one (exclusive isShutdown : Bool) : Nat := if isShutdown = exclusive then 1 else 0

def Call.holds (exclusive : Bool) : Call β ν → Nat
  | .waiting _ => 0
  | .locked request => one exclusive request.isShutdown
  | .running callback => one exclusive callback.isShutdown

def Call.runs (exclusive : Bool) : Call β ν → Nat
  | .running callback => one exclusive callback.isShutdown
  | _ => 0

@[simp] theorem runs_locked (exclusive : Bool) (request : Request β) :
    (Call.locked request : Call β ν).runs exclusive = 0 := rfl

@[simp] theorem runs_running (exclusive : Bool) (callback : Callback ν) :
    (Call.running callback : Call β ν).runs exclusive = one exclusive callback.isShutdown := rfl

theorem runs_le_holds (exclusive : Bool) (call : Call β ν) :
    call.runs exclusive ≤ call.holds exclusive := by
  cases call with
  | waiting request => exact Nat.le_refl 0
  | locked request => exact Nat.zero_le _
  | running callback => exact Nat.le_refl _

def toNat (b : Bool) : Nat := if b then 1 else 0

theorem one_self (b : Bool) : one b b = 1 := if_pos rfl

/-! ### The lock -/

/-- The lock counts the calls that hold it. -/
structure Counted (lock : RwLock) (calls : List (Call β ν)) : Prop where
  readers : lock.readers = Pool.weight (Call.holds false) calls
  writer : toNat lock.writer = Pool.weight (Call.holds true) calls
  exclusive : lock.writer = true → lock.readers = 0

variable {lock lock' : RwLock} {calls : List (Call β ν)} {i : Nat}

theorem Counted.concat (h : Counted lock calls) (request : Request β) :
    Counted lock (calls ++ [.waiting request]) := {
  readers := by
    rw [Pool.weight_append, ← h.readers]
    rfl
  writer := by
    rw [Pool.weight_append, ← h.writer]
    rfl
  exclusive := h.exclusive }

/-- A call goes on and holds what it has held. -/
theorem Counted.set (h : Counted lock calls) {call call' : Call β ν} (hi : calls[i]? = some call)
    (hsame : ∀ exclusive, call'.holds exclusive = call.holds exclusive) :
    Counted lock (calls.set i call') := {
  readers := by
    have hset := Pool.weight_set (w := Call.holds false) hi call'
    rw [hsame] at hset
    have hreaders := h.readers
    omega
  writer := by
    have hset := Pool.weight_set (w := Call.holds true) hi call'
    rw [hsame] at hset
    have hwriter := h.writer
    omega
  exclusive := h.exclusive }

theorem Counted.acquire (h : Counted lock calls) {request : Request β}
    (hi : calls[i]? = some (.waiting request)) (hlock : lock.acquire request.isShutdown = some lock') :
    Counted lock' (calls.set i (.locked request)) := by
  have hreads := Pool.weight_set (w := Call.holds false) hi (.locked request)
  have hwrites := Pool.weight_set (w := Call.holds true) hi (.locked request)
  rw [Call.holds, Call.holds] at hreads hwrites
  obtain ⟨hreaders, hwriter, -⟩ := h
  rw [RwLock.acquire] at hlock
  cases hkind : request.isShutdown with
  | true =>
    rw [hkind, if_pos rfl] at hlock
    rw [hkind] at hreads hwrites
    split at hlock
    · rename_i hfree
      obtain rfl := Option.some.inj hlock
      rw [hfree.2] at hwriter
      rw [one_self] at hwrites
      have hother : one false true = 0 := rfl
      have hnone : toNat false = 0 := rfl
      have hone : toNat true = 1 := rfl
      exact ⟨by show lock.readers = _; omega, by show toNat true = _; omega, fun _ => hfree.1⟩
    · cases hlock
  | false =>
    rw [hkind, if_neg Bool.false_ne_true] at hlock
    rw [hkind] at hreads hwrites
    split at hlock
    · cases hlock
    · rename_i hfree
      obtain rfl := Option.some.inj hlock
      rw [one_self] at hreads
      have hother : one true false = 0 := rfl
      exact ⟨by show lock.readers + 1 = _; omega, by show toNat lock.writer = _; omega,
        fun hw => absurd hw hfree⟩

/-- A call that holds the lock lets go of it and returns. -/
theorem Counted.release (h : Counted lock calls) {call : Call β ν} {isShutdown : Bool}
    (hi : calls[i]? = some call)
    (hholds : ∀ exclusive, call.holds exclusive = one exclusive isShutdown) :
    Counted (lock.release isShutdown) (calls.eraseIdx i) := by
  have hreads := Pool.weight_eraseIdx (w := Call.holds false) hi
  have hwrites := Pool.weight_eraseIdx (w := Call.holds true) hi
  rw [hholds] at hreads hwrites
  obtain ⟨hreaders, hwriter, hexclusive⟩ := h
  have hle : toNat lock.writer ≤ 1 := by cases lock.writer <;> decide
  cases isShutdown with
  | true =>
    rw [one_self] at hwrites
    have hother : one false true = 0 := rfl
    have hnone : toNat false = 0 := rfl
    exact ⟨by show lock.readers = _; omega, by show toNat false = _; omega,
      fun hw => absurd hw Bool.false_ne_true⟩
  | false =>
    rw [one_self] at hreads
    have hother : one true false = 0 := rfl
    refine ⟨by show lock.readers - 1 = _; omega, by show toNat lock.writer = _; omega, fun hw => ?_⟩
    have hzero := hexclusive hw
    show lock.readers - 1 = 0
    omega

/-- While a call holds the lock alone, no other one holds it. -/
theorem Counted.reads_eq_zero (h : Counted lock calls) {call : Call β ν} (hi : calls[i]? = some call)
    (hholds : call.holds true = 1) : Pool.weight (Call.holds false) calls = 0 := by
  have hle := Pool.le_weight (w := Call.holds true) hi
  rw [hholds, ← h.writer] at hle
  rw [← h.readers]
  apply h.exclusive
  cases hw : lock.writer with
  | true => rfl
  | false =>
    rw [hw] at hle
    exact absurd hle (by decide)

/-! ### The simulation -/

/-- A callback that begins is a member of the table, and a batch has been converted. -/
def Handed (x : Signal β ν) (callbacks : Callbacks) : Event ν → Prop
  | .began (.exportBatch view) =>
    callbacks.exportBatch ≠ none ∧ ∃ resource batch, x.convert resource batch = .ok view
  | .began .forceFlush => callbacks.forceFlush ≠ none
  | .began (.shutdown _ _) => callbacks.shutdown ≠ none
  | .ended _ => True
  | .destroyBegan => callbacks.stateDestroy ≠ none
  | .destroyEnded => True

def Stage.destroyOf (callbacks : Callbacks) : Owner → Stage
  | .owned => .notYet
  | .dropping => .notYet
  | .destroying => .running
  | .dropped => if callbacks.stateDestroy.isSome then .finished else .notYet

/-- The progress is what the calls of an exporter are at. -/
structure Follows (callbacks : Callbacks) (s : State β ν) (p : Progress) : Prop where
  running : p.running = Pool.weight (Call.runs false) s.calls
  shutdown : toNat (p.shutdown = .running) = Pool.weight (Call.runs true) s.calls
  flag : p.shutdown ≠ .notYet → s.shutdown = true
  destroy : p.destroy = Stage.destroyOf callbacks s.owner
  left : s.owner = .destroying ∨ s.owner = .dropped → s.calls = []

/-- An exporter and the life of its callbacks. -/
structure Simulates (x : Signal β ν) (callbacks : Callbacks) (s : State β ν) (p : Progress) :
    Prop where
  lifecycle : Lifecycle s.events p
  counted : Counted s.lock s.calls
  follows : Follows callbacks s p
  handed : ∀ e ∈ s.events, Handed x callbacks e

variable {x : Signal β ν} {callbacks : Callbacks} {s s' : State β ν} {p : Progress}

theorem simulates_initial (resource : Resource) :
    Simulates x callbacks (State.initial resource) Progress.initial := {
  lifecycle := rfl
  counted := ⟨rfl, rfl, fun _ => rfl⟩
  follows := ⟨rfl, rfl, fun h => absurd rfl h, rfl, fun _ => rfl⟩
  handed := fun _ h => absurd h List.not_mem_nil }

theorem Simulates.handed_concat (h : Simulates x callbacks s p) {e : Event ν}
    (he : Handed x callbacks e) : ∀ e' ∈ s.events ++ [e], Handed x callbacks e' := by
  intro e' he'
  rcases List.mem_append.mp he' with hold | hnew
  · exact h.handed e' hold
  · exact List.mem_singleton.mp hnew ▸ he

theorem ne_nil_of_getElem? {α : Type} {l : List α} {a : α} (h : l[i]? = some a) : l ≠ [] := by
  rintro rfl
  cases h

/-- While a call goes on, the exporter is not being destroyed. -/
theorem Follows.destroy_notYet (h : Follows callbacks s p) (hcalls : s.calls ≠ []) :
    p.destroy = .notYet := by
  rw [h.destroy]
  cases howner : s.owner with
  | owned => rfl
  | dropping => rfl
  | destroying => exact absurd (h.left (.inl howner)) hcalls
  | dropped => exact absurd (h.left (.inr howner)) hcalls

theorem Follows.erase (h : Follows callbacks s p) {call : Call β ν} (hi : s.calls[i]? = some call)
    (hidle : ∀ exclusive, call.runs exclusive = 0) (lock : RwLock) :
    Follows callbacks { s with lock := lock, calls := s.calls.eraseIdx i } p := {
  running := by
    have herase := Pool.weight_eraseIdx (w := Call.runs false) hi
    rw [hidle] at herase
    rw [h.running]
    exact herase.symm
  shutdown := by
    have herase := Pool.weight_eraseIdx (w := Call.runs true) hi
    rw [hidle] at herase
    rw [h.shutdown]
    exact herase.symm
  flag := h.flag
  destroy := h.destroy
  left := fun hleft => absurd (h.left hleft) (ne_nil_of_getElem? hi) }

/-- A call leaves without having run a callback. -/
theorem Simulates.leave (h : Simulates x callbacks s p) {request : Request β}
    (hi : s.calls[i]? = some (.locked request)) :
    Simulates x callbacks { s with
      lock := s.lock.release request.isShutdown, calls := s.calls.eraseIdx i } p :=
  { h with
    counted := h.counted.release hi fun _ => rfl
    follows := h.follows.erase hi (fun _ => rfl) _ }

/-- The callback of a call begins. -/
theorem Simulates.begin (h : Simulates x callbacks s p) {request : Request β} {callback : Callback ν}
    (hi : s.calls[i]? = some (.locked request)) (hkind : callback.isShutdown = request.isShutdown)
    (hready : p.shutdown = .notYet) (hflag : callback.isShutdown = true → s.shutdown = true)
    (hhanded : Handed x callbacks (.began callback)) :
    ∃ p', Simulates x callbacks { s with
      calls := s.calls.set i (.running callback), events := s.events ++ [.began callback] } p' := by
  have hdestroy := h.follows.destroy_notYet (ne_nil_of_getElem? hi)
  have hreads := Pool.weight_set (w := Call.runs false) hi (.running callback)
  have hwrites := Pool.weight_set (w := Call.runs true) hi (.running callback)
  rw [runs_locked, runs_running, Nat.add_zero] at hreads hwrites
  have hcounted : Counted s.lock (s.calls.set i (.running callback)) :=
    h.counted.set hi fun exclusive => congrArg (one exclusive) hkind
  have hleft : s.owner = .destroying ∨ s.owner = .dropped → s.calls.set i (.running callback) = [] :=
    fun howner => absurd (h.follows.left howner) (ne_nil_of_getElem? hi)
  obtain ⟨hrunning, hshutdown, -, howner, -⟩ := h.follows
  rw [hready] at hshutdown
  cases hcallback : callback.isShutdown with
  | true =>
    -- It holds the lock alone, so that no export and no force flush runs.
    rw [hcallback] at hreads hwrites hkind
    have hzero := h.counted.reads_eq_zero hi
      (show one true request.isShutdown = 1 by rw [← hkind]; rfl)
    have hle := Pool.weight_mono (runs_le_holds (β := β) (ν := ν) false) s.calls
    have hnone : p.running = 0 := by omega
    refine ⟨{ p with shutdown := .running }, ?_, hcounted, ?_, h.handed_concat hhanded⟩
    · refine lifecycle_concat.mpr ⟨p, h.lifecycle, ?_⟩
      rw [Progress.next, if_pos ⟨hready, hdestroy⟩, if_pos hcallback, if_pos hnone]
    · refine ⟨hrunning.trans ?_, ?_, fun _ => hflag hcallback, howner, hleft⟩
      · exact hreads.symm
      · show 1 = Pool.weight (Call.runs true) (s.calls.set i (.running callback))
        rw [hwrites, ← hshutdown]
        rfl
  | false =>
    rw [hcallback] at hreads hwrites
    refine ⟨{ p with running := p.running + 1 }, ?_, hcounted, ?_, h.handed_concat hhanded⟩
    · refine lifecycle_concat.mpr ⟨p, h.lifecycle, ?_⟩
      rw [Progress.next, if_pos ⟨hready, hdestroy⟩, if_neg (by rw [hcallback]; decide)]
    · refine ⟨?_, ?_, fun hne => absurd hready hne, howner, hleft⟩
      · show p.running + 1 = Pool.weight (Call.runs false) (s.calls.set i (.running callback))
        rw [hreads, hrunning]
        rfl
      · show toNat (p.shutdown = .running) =
          Pool.weight (Call.runs true) (s.calls.set i (.running callback))
        rw [hwrites, hready, hshutdown]
        rfl

theorem Simulates.finish (h : Simulates x callbacks s p) {callback : Callback ν}
    (hi : s.calls[i]? = some (.running callback)) :
    ∃ p', Simulates x callbacks { s with
      events := s.events ++ [.ended callback]
      lock := s.lock.release callback.isShutdown
      calls := s.calls.eraseIdx i } p' := by
  have hreads := Pool.weight_eraseIdx (w := Call.runs false) hi
  have hwrites := Pool.weight_eraseIdx (w := Call.runs true) hi
  rw [runs_running] at hreads hwrites
  have hcounted : Counted (s.lock.release callback.isShutdown) (s.calls.eraseIdx i) :=
    h.counted.release hi fun _ => rfl
  have hleft : s.owner = .destroying ∨ s.owner = .dropped → s.calls.eraseIdx i = [] :=
    fun howner => absurd (h.follows.left howner) (ne_nil_of_getElem? hi)
  obtain ⟨hrunning, hshutdown, hflag, howner, -⟩ := h.follows
  cases hcallback : callback.isShutdown with
  | true =>
    rw [hcallback, one_self] at hwrites
    rw [hcallback] at hreads hcounted
    have hother : one false true = 0 := rfl
    have hstage : p.shutdown = .running := by
      by_contra hne
      have hnone : toNat (p.shutdown = .running) = 0 := by
        rw [decide_eq_false hne]
        rfl
      omega
    refine ⟨{ p with shutdown := .finished }, ?_, hcounted, ?_, h.handed_concat trivial⟩
    · refine lifecycle_concat.mpr ⟨p, h.lifecycle, ?_⟩
      rw [Progress.next, if_pos hcallback, if_pos hstage]
    · refine ⟨?_, ?_, fun _ => hflag (by rw [hstage]; decide), howner, hleft⟩
      · show p.running = Pool.weight (Call.runs false) (s.calls.eraseIdx i)
        omega
      · have hone : toNat (p.shutdown = .running) = 1 := by
          rw [hstage]
          rfl
        show 0 = Pool.weight (Call.runs true) (s.calls.eraseIdx i)
        omega
  | false =>
    rw [hcallback, one_self] at hreads
    rw [hcallback] at hwrites hcounted
    have hother : one true false = 0 := rfl
    have hsome : p.running ≠ 0 := by omega
    refine ⟨{ p with running := p.running - 1 }, ?_, hcounted, ?_, h.handed_concat trivial⟩
    · refine lifecycle_concat.mpr ⟨p, h.lifecycle, ?_⟩
      rw [Progress.next, if_neg (by rw [hcallback]; decide), if_neg hsome]
    · refine ⟨?_, ?_, hflag, howner, hleft⟩
      · show p.running - 1 = Pool.weight (Call.runs false) (s.calls.eraseIdx i)
        omega
      · show toNat (p.shutdown = .running) = Pool.weight (Call.runs true) (s.calls.eraseIdx i)
        omega

/-- A call looks at the flag, and leaves or begins its callback. -/
theorem Simulates.enter {s' : State β ν × Option OTelSdkResult} (h : Simulates x callbacks s p)
    {request : Request β} (hi : s.calls[i]? = some (.locked request))
    (hstep : Custom.enter x callbacks s i request = some s') :
    ∃ p', Simulates x callbacks s'.1 p' := by
  unfold Custom.enter at hstep
  split at hstep
  · obtain rfl := Option.some.inj hstep
    exact ⟨p, h.leave hi⟩
  · rename_i hflag
    have hready : p.shutdown = .notYet := by
      by_contra hne
      exact hflag (h.follows.flag hne)
    cases request with
    | exportBatch batch =>
      dsimp only at hstep
      split at hstep
      · obtain rfl := Option.some.inj hstep
        exact ⟨p, h.leave hi⟩
      · rename_i pointer hexport
        split at hstep
        · obtain rfl := Option.some.inj hstep
          exact ⟨p, h.leave hi⟩
        · rename_i view hview
          obtain rfl := Option.some.inj hstep
          refine h.begin hi rfl hready (fun heq => by cases heq) ⟨?_, s.resource, batch, hview⟩
          rw [hexport]
          exact Option.some_ne_none pointer
    | forceFlush =>
      dsimp only at hstep
      split at hstep
      · obtain rfl := Option.some.inj hstep
        exact ⟨p, h.leave hi⟩
      · rename_i pointer hflush
        obtain rfl := Option.some.inj hstep
        refine h.begin hi rfl hready (fun heq => by cases heq) ?_
        rw [Handed, hflush]
        exact Option.some_ne_none pointer
    | shutdown timeout =>
      dsimp only at hstep
      have hset : Simulates x callbacks { s with shutdown := true } p :=
        { h with follows := { h.follows with flag := fun _ => rfl } }
      have hcall : ({ s with shutdown := true } : State β ν).calls[i]? =
          some (.locked (.shutdown timeout)) := hi
      split at hstep
      · obtain rfl := Option.some.inj hstep
        exact ⟨p, hset.leave hcall⟩
      · rename_i pointer hshutdown
        obtain rfl := Option.some.inj hstep
        refine hset.begin hcall rfl hready (fun _ => rfl) ?_
        rw [Handed, hshutdown]
        exact Option.some_ne_none pointer

/-- A call that runs no callback before and after a step is nothing to the progress. -/
theorem Follows.set (h : Follows callbacks s p) {call call' : Call β ν}
    (hi : s.calls[i]? = some call) (hcall : ∀ exclusive, call.runs exclusive = 0)
    (hcall' : ∀ exclusive, call'.runs exclusive = 0) (lock : RwLock) :
    Follows callbacks { s with lock := lock, calls := s.calls.set i call' } p := {
  running := by
    have hset := Pool.weight_set (w := Call.runs false) hi call'
    rw [hcall, hcall'] at hset
    rw [h.running]
    exact hset.symm
  shutdown := by
    have hset := Pool.weight_set (w := Call.runs true) hi call'
    rw [hcall, hcall'] at hset
    rw [h.shutdown]
    exact hset.symm
  flag := h.flag
  destroy := h.destroy
  left := fun hleft => absurd (h.left hleft) (ne_nil_of_getElem? hi) }

/-- **One step of an exporter** is a step of the life of its callbacks, or none. -/
theorem step_simulates {action : Action β} {s' : State β ν × Option OTelSdkResult}
    (h : Simulates x callbacks s p) (hstep : step x callbacks s action = some s') :
    ∃ p', Simulates x callbacks s'.1 p' := by
  cases action with
  | call request =>
    rw [step] at hstep
    split at hstep
    · rename_i howner
      obtain rfl := Option.some.inj hstep
      refine ⟨p, { h with counted := h.counted.concat request, follows := ?_ }⟩
      obtain ⟨hrunning, hshutdown, hflag, hdestroy, -⟩ := h.follows
      refine ⟨?_, ?_, hflag, hdestroy, fun hleft => ?_⟩
      · rw [Pool.weight_append, hrunning]
        rfl
      · rw [Pool.weight_append, hshutdown]
        rfl
      · rw [howner.1] at hleft
        rcases hleft with heq | heq
        · cases heq
        · cases heq
    · cases hstep
  | acquire i =>
    rw [step] at hstep
    split at hstep
    · rename_i request hi
      split at hstep
      · rename_i lock hlock
        obtain rfl := Option.some.inj hstep
        exact ⟨p, { h with
          counted := h.counted.acquire hi hlock
          follows := h.follows.set hi (fun _ => rfl) (fun _ => rfl) lock }⟩
      · cases hstep
    · cases hstep
  | enter i =>
    rw [step] at hstep
    split at hstep
    · rename_i request hi
      exact h.enter hi hstep
    · cases hstep
  | finish i outcome =>
    rw [step] at hstep
    split at hstep
    · rename_i callback hi
      obtain rfl := Option.some.inj hstep
      exact h.finish hi
    · cases hstep
  | setResource resource =>
    rw [step] at hstep
    split at hstep
    · obtain rfl := Option.some.inj hstep
      exact ⟨p, { h with follows := { h.follows with } }⟩
    · cases hstep
  | drop =>
    rw [step] at hstep
    split at hstep
    · rename_i hready
      obtain rfl := Option.some.inj hstep
      have hnil := List.isEmpty_iff.mp hready.2
      obtain ⟨hrunning, hshutdown, hflag, hdestroy, -⟩ := h.follows
      have hcounted := h.counted.concat (.shutdown dropTimeout)
      rw [hnil] at hrunning hshutdown hcounted
      rw [hready.1] at hdestroy
      refine ⟨p, { h with counted := hcounted, follows := ?_ }⟩
      refine ⟨hrunning, hshutdown, hflag, hdestroy, fun hleft => ?_⟩
      rcases hleft with heq | heq
      · cases heq
      · cases heq
    · cases hstep
  | destroy =>
    rw [step] at hstep
    split at hstep
    · rename_i hready
      have hnil := List.isEmpty_iff.mp hready.2
      obtain ⟨hrunning, hshutdown, hflag, hdestroy, -⟩ := h.follows
      rw [hready.1] at hdestroy
      have hstage : p.shutdown ≠ .running := by
        intro heq
        rw [hnil, heq] at hshutdown
        cases hshutdown
      split at hstep
      · rename_i pointer hpointer
        obtain rfl := Option.some.inj hstep
        have hhanded : Handed x callbacks .destroyBegan := by
          rw [Handed, hpointer]
          exact Option.some_ne_none pointer
        refine ⟨{ p with destroy := .running }, ?_, h.counted, ?_, h.handed_concat hhanded⟩
        · refine lifecycle_concat.mpr ⟨p, h.lifecycle, ?_⟩
          rw [hnil] at hrunning
          rw [Progress.next, if_pos ⟨hrunning, hstage, hdestroy⟩]
        · exact ⟨hrunning, hshutdown, hflag, rfl, fun _ => hnil⟩
      · rename_i hpointer
        obtain rfl := Option.some.inj hstep
        refine ⟨p, { h with follows := ⟨hrunning, hshutdown, hflag, ?_, fun _ => hnil⟩ }⟩
        rw [hdestroy, Stage.destroyOf, Stage.destroyOf, hpointer]
        rfl
    · cases hstep
  | destroyed =>
    rw [step] at hstep
    split at hstep
    · rename_i howner
      obtain rfl := Option.some.inj hstep
      have hnil := h.follows.left (.inl howner)
      obtain ⟨hrunning, hshutdown, hflag, hdestroy, -⟩ := h.follows
      rw [howner, Stage.destroyOf] at hdestroy
      refine ⟨{ p with destroy := .finished }, ?_, h.counted, ?_, h.handed_concat trivial⟩
      · refine lifecycle_concat.mpr ⟨p, h.lifecycle, ?_⟩
        rw [Progress.next, if_pos hdestroy]
      · have hsome : callbacks.stateDestroy.isSome = true := by
          have hbegan := h.lifecycle.counts.destroyBegan
          rw [hdestroy, if_neg (by decide)] at hbegan
          have hmem : .destroyBegan ∈ s.events := by
            obtain ⟨e, he, hkind⟩ := List.countP_pos_iff.mp (Nat.lt_of_lt_of_eq Nat.one_pos hbegan.symm)
            cases e with
            | destroyBegan => exact he
            | began callback => cases hkind
            | ended callback => cases hkind
            | destroyEnded => cases hkind
          exact Option.isSome_iff_ne_none.mpr (h.handed _ hmem)
        refine ⟨hrunning, hshutdown, hflag, ?_, fun _ => hnil⟩
        rw [Stage.destroyOf, if_pos hsome]
    · cases hstep

theorem run_simulates {resource : Resource} {actions : List (Action β)}
    (h : run x callbacks (State.initial resource) actions = some s) :
    ∃ p, Simulates x callbacks s p := by
  refine Run.tryRun_invariant (p := fun s => ∃ p, Simulates x callbacks s p) ?_
    ⟨_, simulates_initial resource⟩ h
  rintro s action s' ⟨p, hp⟩ hstep
  obtain ⟨⟨s₁, answer⟩, htaken, rfl⟩ := Option.map_eq_some_iff.mp hstep
  exact step_simulates hp htaken

/-! ### The callbacks of a call -/

/-- The member of the table that a callback comes from. -/
def Callback.member (callbacks : Callbacks) : Callback ν → Option UInt64
  | .exportBatch _ => callbacks.exportBatch
  | .forceFlush => callbacks.forceFlush
  | .shutdown _ _ => callbacks.shutdown

/-- A request asks for this callback: an export for that of the view of its own batch, under the
resource that the exporter has. -/
inductive AsksFor (x : Signal β ν) (resource : Resource) : Request β → Callback ν → Prop where
  | exportBatch {batch : β} {view : ν} (hview : x.convert resource batch = .ok view) :
    AsksFor x resource (.exportBatch batch) (.exportBatch view)
  | forceFlush : AsksFor x resource .forceFlush .forceFlush
  | shutdown (timeout : Nat) :
    AsksFor x resource (.shutdown timeout) (.shutdown timeout (timeoutMillis timeout))

/-- What becomes of a request under the lock: the callback that begins, and the result of a call that
returns without one. -/
inductive Entered (x : Signal β ν) (callbacks : Callbacks) (s : State β ν) :
    Request β → Option (Callback ν) → Option OTelSdkResult → Prop where
  | closed {request : Request β} (hflag : s.shutdown = true) :
    Entered x callbacks s request none (some (.error .alreadyShutdown))
  | unconverted {batch : β} {e : Fail} (hflag : s.shutdown = false)
      (he : x.convert s.resource batch = .error e) :
    Entered x callbacks s (.exportBatch batch) none (some (.error (.internalFailure e.message)))
  | absent {request : Request β} {callback : Callback ν} (hflag : s.shutdown = false)
      (hasks : AsksFor x s.resource request callback) (hmember : callback.member callbacks = none) :
    Entered x callbacks s request none (some (.ok ()))
  | begun {request : Request β} {callback : Callback ν} (hflag : s.shutdown = false)
      (hasks : AsksFor x s.resource request callback) (hmember : callback.member callbacks ≠ none) :
    Entered x callbacks s request (some callback) none

/-- **What a call does once it holds the lock.** -/
theorem step_enter (hexport : callbacks.exportBatch ≠ none) {request : Request β}
    (hi : s.calls[i]? = some (.locked request)) :
    ∃ s' callback answer, step x callbacks s (.enter i) = some (s', answer) ∧
      Entered x callbacks s request callback answer ∧
        s'.events = s.events ++ (callback.map Event.began).toList ∧
          s'.calls = callback.elim (s.calls.eraseIdx i) fun c => s.calls.set i (.running c) := by
  have hstep : step x callbacks s (.enter i) = enter x callbacks s i request := by
    rw [step, hi]
  rw [hstep]
  unfold enter
  by_cases hflag : s.shutdown = true
  · rw [if_pos hflag]
    exact ⟨_, none, _, rfl, .closed hflag, (List.append_nil _).symm, rfl⟩
  · have hopen : s.shutdown = false := Bool.eq_false_iff.mpr hflag
    rw [if_neg hflag]
    cases request with
    | exportBatch batch =>
      obtain ⟨pointer, hpointer⟩ := Option.ne_none_iff_exists'.mp hexport
      dsimp only
      rw [hpointer]
      dsimp only
      cases hview : x.convert s.resource batch with
      | error e => exact ⟨_, none, _, rfl, .unconverted hopen hview, (List.append_nil _).symm, rfl⟩
      | ok view => exact ⟨_, some _, _, rfl, .begun hopen (.exportBatch hview) hexport, rfl, rfl⟩
    | forceFlush =>
      dsimp only
      cases hflush : callbacks.forceFlush with
      | none =>
        have hentered : Entered x callbacks s .forceFlush none (some (.ok ())) :=
          .absent hopen .forceFlush hflush
        exact ⟨_, none, _, rfl, hentered, (List.append_nil _).symm, rfl⟩
      | some pointer =>
        have hmember : (Callback.forceFlush : Callback ν).member callbacks ≠ none := by
          rw [Callback.member, hflush]
          exact Option.some_ne_none pointer
        exact ⟨_, some _, _, rfl, .begun hopen .forceFlush hmember, rfl, rfl⟩
    | shutdown timeout =>
      dsimp only
      cases hshutdown : callbacks.shutdown with
      | none =>
        have hentered : Entered x callbacks s (.shutdown timeout) none (some (.ok ())) :=
          .absent hopen (.shutdown timeout) hshutdown
        exact ⟨_, none, _, rfl, hentered, (List.append_nil _).symm, rfl⟩
      | some pointer =>
        have hmember : (Callback.shutdown timeout (timeoutMillis timeout) : Callback ν).member
            callbacks ≠ none := by
          rw [Callback.member, hshutdown]
          exact Option.some_ne_none pointer
        exact ⟨_, some _, _, rfl, .begun hopen (.shutdown timeout) hmember, rfl, rfl⟩

/-- A call waits with its request. -/
theorem step_call {request : Request β} {s' : State β ν × Option OTelSdkResult}
    (h : step x callbacks s (.call request) = some s') :
    s'.1.calls = s.calls ++ [.waiting request] ∧ s'.1.events = s.events := by
  rw [step] at h
  split at h
  · obtain rfl := Option.some.inj h
    exact ⟨rfl, rfl⟩
  · cases h

/-- A call keeps its request when it gets the lock. -/
theorem step_acquire {s' : State β ν × Option OTelSdkResult}
    (h : step x callbacks s (.acquire i) = some s') :
    ∃ request, s.calls[i]? = some (.waiting request) ∧
      s'.1.calls = s.calls.set i (.locked request) ∧ s'.1.events = s.events := by
  rw [step] at h
  split at h
  · rename_i request hi
    split at h
    · obtain rfl := Option.some.inj h
      exact ⟨request, hi, rfl, rfl⟩
    · cases h
  · cases h

/-- A callback begins in no other step. -/
theorem step_began {action : Action β} {callback : Callback ν}
    {s' : State β ν × Option OTelSdkResult} (h : step x callbacks s action = some s')
    (hevents : s'.1.events = s.events ++ [.began callback]) :
    ∃ i request, action = .enter i ∧ s.calls[i]? = some (.locked request) := by
  have hquiet : s'.1.events ≠ s.events := by
    rw [hevents]
    exact fun heq => List.cons_ne_nil _ _ (List.append_right_eq_self.mp heq)
  have hlast {e : Event ν} (he : s'.1.events = s.events ++ [e]) : e = .began callback :=
    (List.cons.inj (List.append_cancel_left (he.symm.trans hevents))).1
  cases action with
  | enter i =>
    rw [step] at h
    split at h
    · rename_i request hi
      exact ⟨i, request, rfl, hi⟩
    · cases h
  | call request => exact absurd (step_call h).2 hquiet
  | acquire i =>
    obtain ⟨request, -, -, hsame⟩ := step_acquire h
    exact absurd hsame hquiet
  | finish i outcome =>
    rw [step] at h
    split at h
    · obtain rfl := Option.some.inj h
      cases hlast rfl
    · cases h
  | setResource resource =>
    rw [step] at h
    split at h
    · obtain rfl := Option.some.inj h
      exact absurd rfl hquiet
    · cases h
  | drop =>
    rw [step] at h
    split at h
    · obtain rfl := Option.some.inj h
      exact absurd rfl hquiet
    · cases h
  | destroy =>
    rw [step] at h
    split at h
    · split at h
      · obtain rfl := Option.some.inj h
        cases hlast rfl
      · obtain rfl := Option.some.inj h
        exact absurd rfl hquiet
    · cases h
  | destroyed =>
    rw [step] at h
    split at h
    · obtain rfl := Option.some.inj h
      cases hlast rfl
    · cases h

/-! ### Dropping comes to an end -/

/-- The owner can get rid of the exporter. -/
def Completes (x : Signal β ν) (callbacks : Callbacks) (s : State β ν) : Prop :=
  ∃ actions s', run x callbacks s actions = some s' ∧ s'.owner = .dropped

theorem Completes.step {action : Action β} {answer : Option OTelSdkResult}
    (hstep : Custom.step x callbacks s action = some (s', answer)) (h : Completes x callbacks s') :
    Completes x callbacks s := by
  obtain ⟨actions, s'', hrun, howner⟩ := h
  refine ⟨action :: actions, s'', ?_, howner⟩
  refine Run.tryRun_cons.mpr ⟨s', ?_, hrun⟩
  rw [hstep]
  rfl

theorem completes_of_idle (howner : s.owner = .dropping) (hcalls : s.calls = []) :
    Completes x callbacks s := by
  have hready : s.owner = .dropping ∧ s.calls.isEmpty = true := ⟨howner, by rw [hcalls]; rfl⟩
  cases hdestroy : callbacks.stateDestroy with
  | none =>
    have hstep : Custom.step x callbacks s .destroy = some ({ s with owner := .dropped }, none) := by
      rw [Custom.step, if_pos hready, hdestroy]
    exact .step hstep ⟨[], _, rfl, rfl⟩
  | some pointer =>
    have hstep : Custom.step x callbacks s .destroy =
        some ({ s with owner := .destroying, events := s.events ++ [.destroyBegan] }, none) := by
      rw [Custom.step, if_pos hready, hdestroy]
    exact .step hstep ⟨[.destroyed], _, rfl, rfl⟩

theorem completes_of_running {callback : Callback ν} (howner : s.owner = .dropping)
    (hcalls : s.calls = [.running callback]) : Completes x callbacks s := by
  have hstep : Custom.step x callbacks s (.finish 0 (.returned 0)) =
      ({ s with events := s.events ++ [.ended callback] } : State β ν).leave 0 callback.isShutdown
        (callbackResult x.signal x.strict callback.operation callback.timeout (.returned 0)) := by
    rw [Custom.step, hcalls]
    rfl
  refine .step hstep (completes_of_idle howner ?_)
  show s.calls.eraseIdx 0 = []
  rw [hcalls]
  rfl

theorem completes_of_locked {timeout : Nat} (howner : s.owner = .dropping)
    (hcalls : s.calls = [.locked (.shutdown timeout)]) : Completes x callbacks s := by
  have henter : Custom.step x callbacks s (.enter 0) =
      Custom.enter x callbacks s 0 (.shutdown timeout) := by
    rw [Custom.step, hcalls]
    rfl
  have herase : s.calls.eraseIdx 0 = [] := by
    rw [hcalls]
    rfl
  have hset (call : Call β ν) : s.calls.set 0 call = [call] := by
    rw [hcalls]
    rfl
  unfold Custom.enter at henter
  by_cases hflag : s.shutdown = true
  · rw [if_pos hflag] at henter
    exact .step henter (completes_of_idle howner herase)
  · rw [if_neg hflag] at henter
    cases hshutdown : callbacks.shutdown with
    | none =>
      rw [hshutdown] at henter
      exact .step henter (completes_of_idle howner herase)
    | some pointer =>
      rw [hshutdown] at henter
      exact .step henter (completes_of_running howner (hset _))

/-- **A drop runs to its end**: nothing stands in its way. -/
theorem Simulates.drop_completes (h : Simulates x callbacks s p) (howner : s.owner = .owned)
    (hcalls : s.calls = []) : ∃ actions s', run x callbacks s (.drop :: actions) = some s' ∧
      s'.owner = .dropped := by
  have hdrop : Custom.step x callbacks s .drop = some ({ s with
      owner := .dropping, calls := [.waiting (.shutdown dropTimeout)] }, none) := by
    rw [Custom.step, if_pos ⟨howner, by rw [hcalls]; rfl⟩]
  have hfree : s.lock.acquire true = some { s.lock with writer := true } := by
    have hreaders := h.counted.readers
    have hwriter := h.counted.writer
    rw [hcalls] at hreaders hwriter
    have hnone : s.lock.writer = false := by
      cases hw : s.lock.writer with
      | false => rfl
      | true =>
        rw [hw] at hwriter
        cases hwriter
    rw [RwLock.acquire, if_pos rfl, if_pos ⟨hreaders, hnone⟩]
  have hacquire : Custom.step x callbacks { s with
      owner := .dropping, calls := [.waiting (.shutdown dropTimeout)] } (.acquire 0) =
        some ({ s with
          owner := .dropping
          lock := { s.lock with writer := true }
          calls := [.locked (.shutdown dropTimeout)] }, none) := by
    rw [Custom.step]
    show (match s.lock.acquire true with | some lock => _ | none => none) = _
    rw [hfree]
    rfl
  obtain ⟨actions, s', hrun, hdropped⟩ := Completes.step hacquire (completes_of_locked rfl rfl)
  refine ⟨actions, s', Run.tryRun_cons.mpr ⟨_, ?_, hrun⟩, hdropped⟩
  rw [hdrop]
  rfl

/-! ### What an application may rely on -/

/-- The callbacks of an exporter up to some moment, and what its next step may do. -/
structure Life (x : Signal β ν) (callbacks : Callbacks) (s : State β ν) : Prop where
  shutdown_once : s.events.countP Event.isShutdownBegan ≤ 1
  /-- No export and no force flush runs beside the shutdown callback or begins after it. -/
  shutdown_alone : ∀ before after callback, s.events = before ++ .began callback :: after →
    callback.isShutdown = true → ReadsEnded before ∧ ∀ later, .began later ∉ after
  destroy_atMost_once : s.events.countP Event.isDestroyBegan ≤ 1
  destroy_once : s.owner = .dropped →
    s.events.countP Event.isDestroyBegan = if callbacks.stateDestroy.isSome then 1 else 0
  destroy_last : ∀ before after, s.events = before ++ .destroyBegan :: after →
    AllEnded before ∧ ∀ e ∈ after, e = .destroyEnded
  handed : ∀ e ∈ s.events, Handed x callbacks e
  /-- A call keeps its request until it holds the lock. -/
  asks : ∀ request s', step x callbacks s (.call request) = some s' →
    s'.1.calls = s.calls ++ [.waiting request] ∧ s'.1.events = s.events
  acquires : ∀ i s', step x callbacks s (.acquire i) = some s' →
    ∃ request, s.calls[i]? = some (.waiting request) ∧
      s'.1.calls = s.calls.set i (.locked request) ∧ s'.1.events = s.events
  /-- Then the callback that it asks for begins; there is none for a batch that cannot be converted,
  and none after a shutdown. -/
  enters : ∀ i request, s.calls[i]? = some (.locked request) →
    ∃ s' callback answer, step x callbacks s (.enter i) = some (s', answer) ∧
      Entered x callbacks s request callback answer ∧
        s'.events = s.events ++ (callback.map Event.began).toList ∧
          s'.calls = callback.elim (s.calls.eraseIdx i) fun c => s.calls.set i (.running c)
  /-- No other step begins a callback. -/
  begins : ∀ action s' callback, step x callbacks s action = some s' →
    s'.1.events = s.events ++ [.began callback] →
      ∃ i request, action = .enter i ∧ s.calls[i]? = some (.locked request)
  drop_completes : s.owner = .owned → s.calls = [] →
    ∃ actions s', run x callbacks s (.drop :: actions) = some s' ∧ s'.owner = .dropped

theorem Simulates.life (h : Simulates x callbacks s p) (hexport : callbacks.exportBatch ≠ none) :
    Life x callbacks s := {
  shutdown_once := h.lifecycle.shutdown_once
  shutdown_alone := by
    intro before after callback hevents hshutdown
    have hlife := h.lifecycle
    rw [hevents] at hlife
    exact hlife.shutdown_alone hshutdown
  destroy_atMost_once := by
    rw [h.lifecycle.counts.destroyBegan]
    split
    · exact Nat.zero_le 1
    · exact Nat.le_refl 1
  destroy_once := by
    intro howner
    have hdestroy := h.follows.destroy
    rw [howner, Stage.destroyOf] at hdestroy
    rw [h.lifecycle.counts.destroyBegan, hdestroy]
    cases callbacks.stateDestroy.isSome with
    | true => rfl
    | false => rfl
  destroy_last := by
    intro before after hevents
    have hlife := h.lifecycle
    rw [hevents] at hlife
    exact hlife.destroy_last
  handed := h.handed
  asks := fun _ _ hstep => step_call hstep
  acquires := fun _ _ hstep => step_acquire hstep
  enters := fun _ _ hi => step_enter hexport hi
  begins := fun _ _ _ hstep hevents => step_began hstep hevents
  drop_completes := h.drop_completes }

/-- What becomes of a table that an application hands over. -/
structure Honours (x : Signal β ν) (args : NewArgs) : Prop where
  reads : ∀ memory, args.callbacks = some memory → ∀ offset ∈ (x.new args).offsets,
    offset = 0 ∨ offset + wordSize ≤ (u64At memory 0).toNat
  /-- No callback is called by a construction, and where it fails there is no exporter to call one. -/
  silent : (x.new args).called = []
  made : ∀ callbacks, (x.new args).value = .ok callbacks →
    (∃ memory, args.callbacks = some memory ∧ Covered x.layout memory callbacks) ∧
      ∀ resource actions s, run x callbacks (State.initial resource) actions = some s →
        Life x callbacks s

theorem honours (x : Signal β ν) (args : NewArgs) : Honours x args := {
  reads := fun _ hmemory _ hoffset => new_offsets hmemory hoffset
  silent := new_called
  made := by
    intro callbacks hnew
    obtain ⟨memory, hmemory, hcovered, hexport⟩ := new_ok hnew
    refine ⟨⟨memory, hmemory, hcovered⟩, fun resource actions s hrun => ?_⟩
    obtain ⟨p, hp⟩ := run_simulates hrun
    exact hp.life hexport }

/-- **The callbacks of the custom exporters follow their lifecycle**, for every table and every
order of calls. -/
theorem custom_callbacks_lifecycle {TraceState : Type} (header : TraceState → Str)
    (ResourceMetrics : Type) (args : NewArgs) :
    Honours logs args ∧ Honours (traces header) args ∧ Honours (metrics ResourceMetrics) args := by
  refine ⟨?_, ?_, ?_⟩
  · exact honours logs args
  · exact honours (traces header) args
  · exact honours (metrics ResourceMetrics) args

/-- A table of 40 bytes with every callback. -/
def fullTable (offset : Nat) : UInt8 := if offset = 0 then 40 else if offset % 8 = 0 then 1 else 0

/-- A span that started when a timestamp can no longer say so. -/
def lateSpan : Trace.SpanData Unit where
  spanContext := ⟨Bytes.zero 16, Bytes.zero 8, 0, false, ()⟩
  parentSpanId := Bytes.zero 8
  spanKind := .internal
  name := []
  startTime := 2 ^ 64
  endTime := 0
  attributes := []
  droppedAttributesCount := 0
  events := ⟨[], 0⟩
  links := ⟨[], 0⟩
  status := .unset
  instrumentationScope := ⟨[], none, none, []⟩

/-- A batch cannot be converted, an empty one is exported beside a flush, and the exporter is shut
down and dropped. -/
def oneLife : List (Action (List (Trace.SpanData Unit))) :=
  [.call (.exportBatch [lateSpan]), .call (.exportBatch []), .call .forceFlush, .acquire 0,
    .acquire 1, .acquire 2, .enter 0, .enter 0, .enter 1, .finish 1 (.returned 0),
    .finish 0 (.returned 6), .call (.shutdown 0), .acquire 0, .enter 0, .finish 0 .panicked, .drop,
    .acquire 0, .enter 0, .destroy, .destroyed]

theorem custom_callbacks_lifecycle_oneLife : ∃ callbacks view s,
    ((traces fun _ : Unit => []).new ⟨some fullTable, 0, false⟩).value = .ok callbacks ∧
      (traces fun _ : Unit => []).convert ⟨none, []⟩ [] = .ok view ∧
      run (traces fun _ : Unit => []) callbacks (.initial ⟨none, []⟩) oneLife = some s ∧
      s.owner = .dropped ∧ s.events = [.began (.exportBatch view), .began .forceFlush,
        .ended .forceFlush, .ended (.exportBatch view), .began (.shutdown 0 0),
        .ended (.shutdown 0 0), .destroyBegan, .destroyEnded] ∧
      Life (traces fun _ : Unit => []) callbacks s :=
  ⟨_, _, _, rfl, rfl, rfl, rfl, rfl, ((custom_callbacks_lifecycle (fun _ : Unit => []) Unit
    ⟨some fullTable, 0, false⟩).2.1.made _ rfl).2 _ oneLife _ rfl⟩

end OtelC.Sdk.Custom
