import OtelC.Abi
import OtelC.Lib.Fields
import OtelC.Lib.Pool
import OtelC.Lib.Run

/-!
# The diagnostic sink

The process has a slot for one sink, which every report clones for the time of its callback; a sink
that was replaced is destroyed by the thread that drops its last clone.  A thread-local flag
suppresses the reports that a report gives rise to on its own thread.

* `step`: one step of one thread, at the granularity of the lock of the slot and of the counts.
-/

namespace OtelC.Diagnostic

open Fields (Memory u64At)

/-! ### The callback table -/

/-- `DiagnosticSink`. -/
structure Sink where
  emit : UInt64
  stateDestroy : Option UInt64
  userData : UInt64
  deriving DecidableEq

def emitOffset : Nat := 8

def stateDestroyOffset : Nat := 16

/-- `REQUIRED_SIZE`. -/
def requiredSize : Nat := emitOffset + 8

/-- `DESTROY_SIZE`. -/
def destroySize : Nat := stateDestroyOffset + 8

/-- The sink that `otel_set_diagnostic_callback` is given: none when the table is NULL. -/
def nextSink (callbacks : Option Memory) (userData : UInt64) : Except Fail (Option Sink) :=
  match callbacks with
  | none => .ok none
  | some memory =>
    if (u64At memory 0).toNat < requiredSize then
      fail .invalidArgument "diagnostic callback struct_size is smaller than the required prefix"
    else
      match fnPointer (u64At memory emitOffset) with
      | none => fail .invalidArgument "diagnostic emit callback must not be NULL"
      | some emit =>
        let stateDestroy :=
          if destroySize ≤ (u64At memory 0).toNat then fnPointer (u64At memory stateDestroyOffset)
          else none
        .ok (some ⟨emit, stateDestroy, userData⟩)

/-- `valid_severity`. -/
def validSeverity (severity : UInt32) : Bool := 1 ≤ severity && severity ≤ 3

/-- The checks of `otel_api_report_diagnostic` and of `report`. -/
def reportable (severity : UInt32) (message : CSlice UInt8) : Bool :=
  !(message.isNull || message.len == 0 || isizeMax < message.len) && validSeverity severity

/-! ### Threads -/

/-- Where a call on a thread is.  Sinks are named by the order in which they were made. -/
inductive Frame where
  /-- The table has been accepted, and the slot is to be written. -/
  | installing (next : Option Nat)
  /-- The slot has been written, and what was in it is to be dropped. -/
  | replaced (old : Option Nat)
  /-- `otel_set_diagnostic_callback` is about to return. -/
  | returning
  /-- The flag is set, and the slot is to be read. -/
  | reporting
  | holding (sink : Nat)
  /-- The `emit` callback of a sink runs. -/
  | emitting (sink : Nat)
  /-- The callback is over, and the clone is to be dropped. -/
  | emitted (sink : Nat)
  /-- The flag is to be cleared. -/
  | clearing
  /-- The `state_destroy` callback of a sink runs. -/
  | destroying (sink : Nat)
  deriving DecidableEq

/-- A thread: its `REPORTING_DIAGNOSTIC`, and the calls on it, the innermost first. -/
structure Thread where
  reporting : Bool
  frames : List Frame

/-- Calls are made by the application and by its callbacks. -/
def Thread.calls (thread : Thread) : Bool :=
  match thread.frames with
  | [] => true
  | .emitting _ :: _ => true
  | .destroying _ :: _ => true
  | _ => false

inductive Event where
  | installed (sink : Nat)
  | removed (sink : Nat)
  | emitBegan (sink : Nat)
  | emitEnded (sink : Nat)
  | destroyBegan (sink : Nat)
  | destroyEnded (sink : Nat)
  deriving DecidableEq

/-- The sinks made so far, the strong counts of their `Arc`s, `DIAGNOSTIC_SINK`, the threads, and
what has happened. -/
structure State where
  sinks : List Sink
  strong : Nat → Nat
  slot : Option Nat
  threads : List Thread
  events : List Event

def State.initial : State := ⟨[], fun _ => 0, none, [], []⟩

def State.setThread (s : State) (i : Nat) (thread : Thread) : State :=
  { s with threads := s.threads.set i thread }

def State.log (s : State) (events : List Event) : State := { s with events := s.events ++ events }

def State.setStrong (s : State) (sink count : Nat) : State :=
  { s with strong := Function.update s.strong sink count }

def hasDestroy (sinks : List Sink) (sink : Nat) : Bool :=
  (sinks[sink]?).any fun x => x.stateDestroy.isSome

/-- A clone is dropped, and with the last one the sink. -/
def State.dropArc (s : State) (i : Nat) (thread : Thread) (sink : Nat) (rest : List Frame) : State :=
  let s := s.setStrong sink (s.strong sink - 1)
  if s.strong sink = 0 ∧ hasDestroy s.sinks sink = true then
    (s.log [.destroyBegan sink]).setThread i { thread with frames := .destroying sink :: rest }
  else s.setThread i { thread with frames := rest }

inductive ThreadAction where
  | setCallback (callbacks : Option Memory) (userData : UInt64)
  | swap
  | drop
  | report (severity : UInt32) (message : CSlice UInt8)
  | read
  | emit
  /-- The `emit` callback returns or panics. -/
  | emitted (panicked : Bool)
  | destroyed (panicked : Bool)
  | clear
  | ret

inductive Action where
  | spawn
  | thread (i : Nat) (action : ThreadAction)

/-- What `otel_set_diagnostic_callback` returns. -/
abbrev Answer := Except Fail Unit

/-- One step of a thread; `none` while the thread is elsewhere. -/
def stepThread (s : State) (i : Nat) (thread : Thread) :
    ThreadAction → Option (State × Option Answer)
  | .setCallback callbacks userData =>
    if thread.calls then
      match nextSink callbacks userData with
      | .error e => some (s, some (.error e))
      | .ok none =>
        some (s.setThread i { thread with frames := .installing none :: thread.frames }, none)
      | .ok (some sink) =>
        let id := s.sinks.length
        some ((({ s with sinks := s.sinks ++ [sink] } : State).setStrong id 1).setThread i
          { thread with frames := .installing (some id) :: thread.frames }, none)
    else none
  | .swap =>
    match thread.frames with
    | .installing next :: rest =>
      let s' := s.log ((s.slot.map Event.removed).toList ++ (next.map Event.installed).toList)
      some (({ s' with slot := next } : State).setThread i
        { thread with frames := .replaced s.slot :: rest }, none)
    | _ => none
  | .drop =>
    match thread.frames with
    | .replaced none :: rest =>
      some (s.setThread i { thread with frames := .returning :: rest }, none)
    | .replaced (some sink) :: rest => some (s.dropArc i thread sink (.returning :: rest), none)
    | .emitted sink :: rest => some (s.dropArc i thread sink (.clearing :: rest), none)
    | _ => none
  | .report severity message =>
    if thread.calls then
      if reportable severity message = false ∨ thread.reporting = true then some (s, none)
      else some (s.setThread i ⟨true, .reporting :: thread.frames⟩, none)
    else none
  | .read =>
    match thread.frames with
    | .reporting :: rest =>
      match s.slot with
      | none => some (s.setThread i { thread with frames := .clearing :: rest }, none)
      | some sink => some ((s.setStrong sink (s.strong sink + 1)).setThread i
          { thread with frames := .holding sink :: rest }, none)
    | _ => none
  | .emit =>
    match thread.frames with
    | .holding sink :: rest =>
      some ((s.log [.emitBegan sink]).setThread i
        { thread with frames := .emitting sink :: rest }, none)
    | _ => none
  | .emitted _ =>
    match thread.frames with
    | .emitting sink :: rest =>
      some ((s.log [.emitEnded sink]).setThread i { thread with frames := .emitted sink :: rest }, none)
    | _ => none
  | .destroyed panicked =>
    match thread.frames with
    | .destroying sink :: rest =>
      if panicked = true ∧ rest.head? = some .returning then
        some ((s.log [.destroyEnded sink]).setThread i { thread with frames := rest.tail },
          some (.error OtelC.panicked))
      else
        some ((s.log [.destroyEnded sink]).setThread i { thread with frames := rest }, none)
    | _ => none
  | .clear =>
    match thread.frames with
    | .clearing :: rest => some (s.setThread i ⟨false, rest⟩, none)
    | _ => none
  | .ret =>
    match thread.frames with
    | .returning :: rest => some (s.setThread i { thread with frames := rest }, some (.ok ()))
    | _ => none

def step (s : State) : Action → Option (State × Option Answer)
  | .spawn => some ({ s with threads := s.threads ++ [⟨false, []⟩] }, none)
  | .thread i action => (s.threads[i]?).bind fun thread => stepThread s i thread action

def run (actions : List Action) : Option State :=
  Run.tryRun (fun s action => (step s action).map Prod.fst) State.initial actions

end OtelC.Diagnostic
