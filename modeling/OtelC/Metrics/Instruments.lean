import OtelC.Lib.Boxes
import OtelC.Lib.Simulation
import OtelC.Metrics.SdkInstruments
import OtelC.Sdk.Scopes

/-!
# Synchronous instruments

The entry points of the API for meters and for synchronous and bound instruments, with the SDK
behind them.  The macros of the API write nine kinds of instruments and four kinds of bound ones;
each handle of theirs keeps the context of a box that the SDK allocated, and nothing else.  The API
tells the handles apart by the constants in their headers, the SDK its boxes by what it made them.

A call is made on a thread of the application, for the SDK keeps a status for each thread.  The
contexts of the API are used as what the handle says they are: where such a box is missing the
behaviour is undefined.
-/

namespace OtelC.Instruments

open OtelC.Sdk (F64Bits KeyValue OtelKeyValue collectKeyValues)
open OtelC.View (OtelMetricInstrumentKind)
open OtelC.Metrics (NumberKind)
open OtelC.Scopes (Backing ScopeOptions getMeterWithOptions)
open Boxes

/-! ### The macros -/

/-- The handles that `define_sync_instrument!` declares. -/
inductive SyncInstrument where
  | otelCounterU64
  | otelCounterF64
  | otelUpDownCounterI64
  | otelUpDownCounterF64
  | otelGaugeU64
  | otelGaugeI64
  | otelGaugeF64
  | otelHistogramU64
  | otelHistogramF64
  deriving DecidableEq

/-- The arguments of `define_sync_instrument!`; the type of the values is that of the vtable entry
they are recorded through. -/
structure SyncDefinition where
  kind : OtelMetricInstrumentKind
  number : NumberKind
  vtableRecord : NumberKind
  histogram : Bool

def SyncInstrument.definition : SyncInstrument → SyncDefinition
  | .otelCounterU64 => ⟨.counter, .u64, .u64, false⟩
  | .otelCounterF64 => ⟨.counter, .f64, .f64, false⟩
  | .otelUpDownCounterI64 => ⟨.upDownCounter, .i64, .i64, false⟩
  | .otelUpDownCounterF64 => ⟨.upDownCounter, .f64, .f64, false⟩
  | .otelGaugeU64 => ⟨.gauge, .u64, .u64, false⟩
  | .otelGaugeI64 => ⟨.gauge, .i64, .i64, false⟩
  | .otelGaugeF64 => ⟨.gauge, .f64, .f64, false⟩
  | .otelHistogramU64 => ⟨.histogram, .u64, .u64, true⟩
  | .otelHistogramF64 => ⟨.histogram, .f64, .f64, true⟩

/-- The handles that `define_bound_instrument!` declares. -/
inductive BoundInstrument where
  | otelBoundCounterU64
  | otelBoundCounterF64
  | otelBoundHistogramU64
  | otelBoundHistogramF64
  deriving DecidableEq

/-- The arguments of `define_bound_instrument!`. -/
structure BoundDefinition where
  source : SyncInstrument
  vtableRecord : NumberKind

def BoundInstrument.definition : BoundInstrument → BoundDefinition
  | .otelBoundCounterU64 => ⟨.otelCounterU64, .u64⟩
  | .otelBoundCounterF64 => ⟨.otelCounterF64, .f64⟩
  | .otelBoundHistogramU64 => ⟨.otelHistogramU64, .u64⟩
  | .otelBoundHistogramF64 => ⟨.otelHistogramF64, .f64⟩

/-- The constants in the headers of the handles. -/
inductive HandleKind where
  | meter
  | sync (instrument : SyncInstrument)
  | bound (instrument : BoundInstrument)
  deriving DecidableEq

/-! ### The two sides -/

/-- The boxes behind the contexts. -/
inductive Box where
  | meter (meter : Meter)
  | instrument (instrument : SdkMetricInstrument)
  | bound (bound : SdkBoundMetricInstrument)

/-- The handles of the API with the boxes of the SDK, and `LAST_STATUS` of every thread.  A handle
without a context is one whose vtable is NULL. -/
structure State where
  store : Store HandleKind Box
  lastStatus : Nat → OtelStatus

def State.initial : State := ⟨.empty, fun _ => .ok⟩

/-- `checked_ref`, and the context behind the handle. -/
def State.arg (s : State) (kind : HandleKind) : Option Nat → HandleArg (Option Nat) :=
  HandleArg.lookup s.store.handles (Boxes.Store.contextOf kind)

/-- `into_raw` of a handle, with the box that the SDK has just allocated. -/
def State.intoRaw (s : State) (kind : HandleKind) (box : Option Box) : State :=
  { s with store := s.store.create kind box }

def State.setLastStatus (s : State) (thread : Nat) (status : OtelStatus) : State :=
  { s with lastStatus := Function.update s.lastStatus thread status }

/-! ### The entry points -/

/-- What a call answers: a handle or an error, or what a measurement came to. -/
inductive Reply where
  | meter (result : Except Fail Nat)
  | handle (call : OutCall Nat)
  | recorded (result : Except Fail (Option Measurement))
  | destroyed
  | undefined

/-- `out` is NULL. -/
def Reply.outNull (message : String) : Reply := .handle ⟨.invalidArgument, some message, none⟩

def Reply.refused (e : Fail) : Reply := .handle ⟨e.status, some e.message, some none⟩

def Reply.created (h : Nat) : Reply := .handle ⟨.ok, none, some (some h)⟩

/-- `otel_meter_provider_get_meter_with_options`; the SDK refuses no scope that the API lets
through. -/
def State.getMeter (s : State) (provider : HandleArg Backing) (options : Option ScopeOptions) :
    Reply × State :=
  match getMeterWithOptions provider options with
  | .error e => (.meter (.error e), s)
  | .ok backing =>
    (.meter (.ok s.store.nextHandle), s.intoRaw .meter (backing.map fun x => .meter ⟨x.1, x.2⟩))

/-- `create_instrument`, after the vtable has answered. -/
def createInstrument (answer : Answer Created) : Except Fail Created :=
  match answer.ctx with
  | some created => .ok created
  | none =>
    let message := answer.message.getD "backed metric instrument creation failed"
    if h : answer.status = .ok then fail .invalidConfig message
    else .error { status := answer.status, message := message, failed := ⟨h⟩ }

/-- The checks of `$create`, in their order: the context of the meter and the configuration. -/
def State.request (s : State) (instrument : SyncInstrument) (meter : Option Nat)
    (name : OtelStringView) (options : Option OtelInstrumentOptions) :
    Except Fail (Option Nat × OtelMetricInstrumentConfig) := do
  let ctx ← checkedRef (s.arg .meter meter)
  let config ← validateInstrumentConfig name options instrument.definition.histogram
  .ok (ctx, { config with
    kind := kindCode instrument.definition.kind
    number := numberCode instrument.definition.number })

/-- `$create` of `define_sync_instrument!`. -/
def State.create (s : State) (thread : Nat) (instrument : SyncInstrument) (meter : Option Nat)
    (name : OtelStringView) (options : Option OtelInstrumentOptions) (outIsNull panics : Bool) :
    Reply × State :=
  match outIsNull, s.request instrument meter name options with
  | true, _ => (.outNull "instrument out pointer is NULL", s)
  | false, .error e => (.refused e, s)
  | false, .ok (none, _) => (.created s.store.nextHandle, s.intoRaw (.sync instrument) none)
  | false, .ok (some c, config) =>
    match s.store.boxes c with
    | some (.meter meter) =>
      let (answer, status) :=
        meterCreateInstrumentWithStatus (s.lastStatus thread) panics (some meter) (some config)
      let s := s.setLastStatus thread status
      match createInstrument answer with
      | .error e => (.refused e, s)
      | .ok made =>
        (.created s.store.nextHandle,
          s.intoRaw (.sync instrument) (some (.instrument made.instrument)))
    | _ => (.undefined, s)

/-- `$record` of `define_sync_instrument!`. -/
def State.record (s : State) (thread : Nat) (instrument : SyncInstrument) (handle : Option Nat)
    (value : Carrier instrument.definition.vtableRecord) (attributes : CSlice OtelKeyValue) :
    Reply × State :=
  match checkedRef (s.arg (.sync instrument) handle) with
  | .error e => (.recorded (.error e), s)
  | .ok none => (.recorded (.ok none), s)
  | .ok (some c) =>
    match s.store.boxes c with
    | some (.instrument box) =>
      match instrumentRecord (some box) ⟨_, value⟩ attributes with
      | .error e => (.recorded (.error e), s.setLastStatus thread e.status)
      | .ok measurement => (.recorded (.ok (some measurement)), s)
    | _ => (.undefined, s)

/-- `$bind` of `define_bound_instrument!`, after the vtable has answered. -/
def takeBound (answer : Answer SdkBoundMetricInstrument) : Except Fail SdkBoundMetricInstrument :=
  if h : answer.status ≠ .ok then
    .error { status := answer.status, message := answer.message.getD "", failed := ⟨h⟩ }
  else match answer.ctx with
    | none => fail .internalError "Metrics SDK returned a NULL bound instrument"
    | some bound => .ok bound

/-- `$bind` of `define_bound_instrument!`. -/
def State.bind (s : State) (thread : Nat) (bound : BoundInstrument) (handle : Option Nat)
    (attributes : CSlice OtelKeyValue) (outIsNull panics : Bool) : Reply × State :=
  match outIsNull, checkedRef (s.arg (.sync bound.definition.source) handle) with
  | true, _ => (.outNull "bound instrument out pointer is NULL", s)
  | false, .error e => (.refused e, s)
  | false, .ok none => (.created s.store.nextHandle, s.intoRaw (.bound bound) none)
  | false, .ok (some c) =>
    match s.store.boxes c with
    | some (.instrument box) =>
      match takeBound (instrumentBind panics (some box) attributes) with
      | .error e => (.refused e, s.setLastStatus thread e.status)
      | .ok made => (.created s.store.nextHandle, s.intoRaw (.bound bound) (some (.bound made)))
    | _ => (.undefined, s)

/-- `$record` of `define_bound_instrument!`. -/
def State.recordBound (s : State) (thread : Nat) (bound : BoundInstrument) (handle : Option Nat)
    (value : Carrier bound.definition.vtableRecord) : Reply × State :=
  match checkedRef (s.arg (.bound bound) handle) with
  | .error e => (.recorded (.error e), s)
  | .ok none => (.recorded (.ok none), s)
  | .ok (some c) =>
    match s.store.boxes c with
    | some (.bound box) =>
      match boundInstrumentRecord (some box) ⟨_, value⟩ with
      | .error e => (.recorded (.error e), s.setLastStatus thread e.status)
      | .ok measurement => (.recorded (.ok (some measurement)), s)
    | _ => (.undefined, s)

/-- The free function of the vtable for a kind of handles, which takes the box as what it made. -/
def HandleKind.frees : HandleKind → Box → Bool
  | .meter, .meter _ => true
  | .sync _, .instrument _ => true
  | .bound _, .bound _ => true
  | _, _ => false

/-- `otel_meter_destroy`, `$destroy_fn` of `define_sync_instrument!` and of
`define_bound_instrument!`. -/
def State.destroy (s : State) (kind : HandleKind) (handle : Option Nat) : Reply × State :=
  match s.arg kind handle, handle with
  | .live none, some h => (.destroyed, { s with store := s.store.destroy h })
  | .live (some c), some h =>
    if (s.store.boxes c).any kind.frees then (.destroyed, { s with store := s.store.destroy h })
    else (.undefined, s)
  | _, _ => (.destroyed, s)

/-- A call on a thread; `elsewhere` is any other call of the SDK that leaves a status behind. -/
inductive Call where
  | getMeter (provider : HandleArg Backing) (options : Option ScopeOptions)
  | create (instrument : SyncInstrument) (meter : Option Nat) (name : OtelStringView)
      (options : Option OtelInstrumentOptions) (outIsNull panics : Bool)
  | record (instrument : SyncInstrument) (handle : Option Nat)
      (value : Carrier instrument.definition.vtableRecord) (attributes : CSlice OtelKeyValue)
  | bind (bound : BoundInstrument) (handle : Option Nat) (attributes : CSlice OtelKeyValue)
      (outIsNull panics : Bool)
  | recordBound (bound : BoundInstrument) (handle : Option Nat)
      (value : Carrier bound.definition.vtableRecord)
  | destroy (kind : HandleKind) (handle : Option Nat)
  | elsewhere (status : OtelStatus)

def State.step (s : State) : Nat × Call → Reply × State
  | (_, .getMeter provider options) => s.getMeter provider options
  | (thread, .create instrument meter name options outIsNull panics) =>
    s.create thread instrument meter name options outIsNull panics
  | (thread, .record instrument handle value attributes) =>
    s.record thread instrument handle value attributes
  | (thread, .bind bound handle attributes outIsNull panics) =>
    s.bind thread bound handle attributes outIsNull panics
  | (thread, .recordBound bound handle value) => s.recordBound thread bound handle value
  | (_, .destroy kind handle) => s.destroy kind handle
  | (thread, .elsewhere status) => (.destroyed, s.setLastStatus thread status)

end OtelC.Instruments
