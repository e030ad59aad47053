import OtelC.Lib.Pool
import OtelC.Lib.Run
import OtelC.Metrics.InstrumentConfig

/-!
# The callback state of an observable instrument

Creating an observable instrument makes a `CallbackState`, which the handle of the instrument and the
closure that the SDK registers share by counted references.  The state owns the user data until the
handle is destroyed; a collection callback borrows it for the time of its run.

* `turn`: one step of a call that is under way, at the granularity of the flag, the mutex and the
  counts.
* `step`: one step of one thread.
-/

namespace OtelC.Observable

open OtelC.Instruments (OtelInstrumentOptions validateInstrumentConfig)

/-! ### Creation -/

/-- What `otel_meter_create_…` is called with; the meter has an SDK behind it or not. -/
structure CreateRequest where
  meter : HandleArg Bool
  name : OtelStringView
  options : Option OtelInstrumentOptions
  callback : Option UInt64
  userDataDestroy : Option UInt64
  outIsNull : Bool

/-- The checks of `otel_meter_create_…` before there is a state. -/
def checkCreate (request : CreateRequest) : Except Fail Bool :=
  if request.outIsNull then fail .invalidArgument "instrument out pointer is NULL"
  else match request.callback with
    | none => fail .invalidArgument "observable callback must not be NULL"
    | some _ => do
      let backed ← checkedRef request.meter
      let _ ← validateInstrumentConfig request.name request.options false
      pure backed

/-! ### One instrument -/

/-- `CallbackState` and its `UserData`, with the counts of the two `Arc`s, and with what owns a
reference without being a call: the handle and the closure. -/
structure CallbackState where
  /-- The vtable is not NULL. -/
  backed : Bool
  /-- The `user_data_destroy` that the creation was given. -/
  userDataDestroy : Option UInt64
  enabled : Bool
  /-- There is user data in the mutex. -/
  userData : Bool
  /-- The `destroy` in the mutex of the user data. -/
  destroy : Option UInt64
  stateCount : Nat
  dataCount : Nat
  handle : Bool
  closure : Bool

def CallbackState.new (backed : Bool) (userDataDestroy : Option UInt64) : CallbackState :=
  ⟨backed, userDataDestroy, true, true, userDataDestroy, 1, 1, false, false⟩

/-- Where a call is that has to do with the state.  A creation that `failed` and the destruction of a
handle disable the state in the same way. -/
inductive Place where
  /-- The state has been made. -/
  | creating
  /-- The SDK has been handed its reference, and checks the rest of what it was called with. -/
  | lent
  /-- The closure is with opentelemetry-rust. -/
  | building
  | disabling (failed : Bool)
  | taking (failed : Bool)
  /-- The user data was taken out, and its `destroy` is to be. -/
  | relinquishing
  /-- The user data that was taken out is to be dropped. -/
  | dropping (failed : Bool)
  /-- The call's own reference, or that of the handle, is to be dropped. -/
  | closing (failed : Bool)
  | returning (failed : Bool)
  /-- A trampoline has cloned the state. -/
  | cloned
  /-- It has seen the state enabled. -/
  | checked
  /-- It has cloned the user data. -/
  | acquired
  /-- The application's callback runs. -/
  | running
  | ran
  | leaving
  /-- The user data of a state that went away is to be dropped. -/
  | orphaned
  /-- `user_data_destroy` runs. -/
  | destroying
  deriving DecidableEq

/-- Control is with the application or with opentelemetry-rust. -/
def Place.outside : Place → Bool
  | .building => true
  | .running => true
  | .destroying => true
  | _ => false

inductive Happening where
  | withoutSdk
  /-- The SDK has been handed a reference to the state. -/
  | handed
  /-- `callback_state_free` has been called. -/
  | released
  /-- The creation has succeeded. -/
  | created
  | relinquished
  /-- The creation has returned its failure. -/
  | failed
  | destroyCalled
  | destroyReturned
  | acquired
  | callbackBegan
  | callbackEnded
  | destroyBegan
  | destroyEnded
  deriving DecidableEq

/-- A step of a call: the state after it, where the call and what it gave rise to are then, the
innermost first, and what has happened. -/
structure Turn where
  state : CallbackState
  places : List Place
  happenings : List Happening

/-- A reference to the state is dropped, and with the last one the state and what its mutex holds. -/
def CallbackState.dropState (o : CallbackState) (places : List Place) (happenings : List Happening) :
    Turn :=
  if o.stateCount = 1 ∧ o.userData = true then
    ⟨{ o with stateCount := 0, userData := false }, .orphaned :: places, happenings⟩
  else ⟨{ o with stateCount := o.stateCount - 1 }, places, happenings⟩

/-- A reference to the user data is dropped, and with the last one the user data. -/
def CallbackState.dropData (o : CallbackState) (places : List Place) : Turn :=
  if o.dataCount = 1 ∧ o.destroy.isSome = true then
    ⟨{ o with dataCount := 0, destroy := none }, .destroying :: places, [.destroyBegan]⟩
  else ⟨{ o with dataCount := o.dataCount - 1 }, places, []⟩

inductive Move where
  | handOver
  /-- The SDK fails or panics while it has the reference itself. -/
  | refuse
  | build
  /-- The SDK returns from the builder, or panics in it. -/
  | built (panicked : Bool)
  | disable
  | take
  | relinquish
  | drop
  | ret
  | check
  | acquire
  | begin
  /-- A callback of the application returns. -/
  | finish

/-- One step of a call; `none` while it is elsewhere. -/
def turn (o : CallbackState) : Place → Move → Option Turn
  | .creating, .handOver =>
    if o.backed then some ⟨{ o with stateCount := o.stateCount + 1 }, [.lent], [.handed]⟩
    else some ⟨{ o with handle := true }, [], [.withoutSdk, .created]⟩
  | .lent, .refuse => some (o.dropState [.disabling true] [.released])
  | .lent, .build => some ⟨{ o with closure := true }, [.building], []⟩
  | .building, .built false => some ⟨{ o with handle := true }, [], [.created]⟩
  | .building, .built true => some ⟨o, [.disabling true], []⟩
  | .disabling failed, .disable => some ⟨{ o with enabled := false }, [.taking failed], []⟩
  | .taking failed, .take =>
    if o.userData = false then some ⟨o, [.closing failed], []⟩
    else if failed then some ⟨{ o with userData := false }, [.relinquishing], []⟩
    else some ⟨{ o with userData := false }, [.dropping false], []⟩
  | .relinquishing, .relinquish =>
    some ⟨{ o with destroy := none }, [.dropping true], [.relinquished]⟩
  | .dropping failed, .drop => some (o.dropData [.closing failed])
  | .closing failed, .drop => some (o.dropState [.returning failed] [])
  | .returning true, .ret => some ⟨o, [], [.failed]⟩
  | .returning false, .ret => some ⟨o, [], [.destroyReturned]⟩
  | .cloned, .check => if o.enabled then some ⟨o, [.checked], []⟩ else some ⟨o, [.leaving], []⟩
  | .checked, .acquire =>
    if o.enabled = true ∧ o.userData = true then
      some ⟨{ o with dataCount := o.dataCount + 1 }, [.acquired], [.acquired]⟩
    else some ⟨o, [.leaving], []⟩
  | .acquired, .begin => some ⟨o, [.running], [.callbackBegan]⟩
  | .running, .finish => some ⟨o, [.ran], [.callbackEnded]⟩
  | .ran, .drop => some (o.dropData [.leaving])
  | .leaving, .drop => some (o.dropState [] [])
  | .orphaned, .drop => some (o.dropData [])
  | .destroying, .finish => some ⟨o, [], [.destroyEnded]⟩
  | _, _ => none

/-- What a thread that control is outside on may begin. -/
inductive Call where
  /-- `otel_observable_…_destroy` of a live handle, which has nothing to free at the SDK. -/
  | destroy
  /-- The closure calls its trampoline, which clones the state. -/
  | collect
  /-- The closure is dropped with its `CallbackLease`. -/
  | dropClosure

def enter (o : CallbackState) : Call → Option Turn
  | .destroy =>
    if o.handle then some ⟨{ o with handle := false }, [.disabling false], [.destroyCalled]⟩ else none
  | .collect =>
    if o.closure then some ⟨{ o with stateCount := o.stateCount + 1 }, [.cloned], []⟩ else none
  | .dropClosure =>
    if o.closure then some (({ o with closure := false } : CallbackState).dropState [] [.released])
    else none

/-! ### Threads -/

/-- A call on a thread, and the instrument it is about. -/
structure Frame where
  place : Place
  instrument : Nat
  deriving DecidableEq

/-- The instruments made so far, the calls on each thread, the innermost first, and what has happened
to which instrument. -/
structure State where
  instruments : List CallbackState
  threads : List (List Frame)
  events : List (Nat × Happening)

def State.initial : State := ⟨[], [], []⟩

def outside : List Frame → Bool
  | [] => true
  | frame :: _ => frame.place.outside

def State.apply (s : State) (i x : Nat) (rest : List Frame) (t : Turn) : State where
  instruments := s.instruments.set x t.state
  threads := s.threads.set i (t.places.map (⟨·, x⟩) ++ rest)
  events := s.events ++ t.happenings.map (x, ·)

inductive Action where
  | spawn
  | create (i : Nat) (request : CreateRequest)
  | call (i x : Nat) (call : Call)
  | turn (i : Nat) (move : Move)

/-- One step, with the failure of a creation that comes to nothing at once. -/
def step (s : State) : Action → Option (State × Option Fail)
  | .spawn => some ({ s with threads := s.threads ++ [[]] }, none)
  | .create i request => (s.threads[i]?).bind fun frames =>
    if outside frames then
      match checkCreate request with
      | .error e => some (s, some e)
      | .ok backed =>
        some ({ s with
          instruments := s.instruments ++ [.new backed request.userDataDestroy]
          threads := s.threads.set i (⟨.creating, s.instruments.length⟩ :: frames) }, none)
    else none
  | .call i x call => (s.threads[i]?).bind fun frames =>
    if outside frames then
      (s.instruments[x]?).bind fun o => (enter o call).map fun t => (s.apply i x frames t, none)
    else none
  | .turn i move => (s.threads[i]?).bind fun frames =>
    match frames with
    | [] => none
    | frame :: rest => (s.instruments[frame.instrument]?).bind fun o =>
      (turn o frame.place move).map fun t => (s.apply i frame.instrument rest t, none)

def run (actions : List Action) : Option State :=
  Run.tryRun (fun s action => (step s action).map Prod.fst) State.initial actions

end OtelC.Observable
