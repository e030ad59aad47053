import OtelC.Metrics.InstrumentConfig
import OtelC.Metrics.Observers
import OtelC.Sdk.Resource

/-!
# The instruments of the SDK

What the SDK does behind the instrument entries of its vtable: it builds an instrument of
opentelemetry-rust by the kind and the number it is asked for, and later hands measurements over to
it.  An instrument stays what it was built as, so that a measurement of another number is refused.

* `createBody_of_codes`: a request that names a kind and a number reaches the builders.
-/

namespace OtelC.Instruments

open OtelC.Sdk (F64Bits KeyValue OtelKeyValue collectKeyValues InstrumentationScope)
open OtelC.View (OtelMetricInstrumentKind)
open OtelC.Metrics (NumberKind ObservableInstrument)

/-! ### Kinds and numbers as they cross -/

/-- `kind as u32`. -/
def kindCode : OtelMetricInstrumentKind → UInt32
  | .counter => 0
  | .upDownCounter => 1
  | .gauge => 2
  | .histogram => 3
  | .observableCounter => 4
  | .observableUpDownCounter => 5
  | .observableGauge => 6

/-- `number as u32`. -/
def numberCode : NumberKind → UInt32
  | .u64 => 0
  | .i64 => 1
  | .f64 => 2

/-- `OtelMetricNumberKind::from_u32`. -/
def numberFromU32 (value : UInt32) : Option NumberKind :=
  match value.toNat with
  | 0 => some .u64
  | 1 => some .i64
  | 2 => some .f64
  | _ => none

theorem fromU32_kindCode (kind : OtelMetricInstrumentKind) :
    OtelMetricInstrumentKind.fromU32 (kindCode kind) = some kind := by
  cases kind <;> rfl

theorem numberFromU32_numberCode (number : NumberKind) :
    numberFromU32 (numberCode number) = some number := by
  cases number <;> rfl

/-- The Rust type of a number. -/
abbrev Carrier : NumberKind → Type
  | .u64 => UInt64
  | .i64 => Int64
  | .f64 => F64Bits

/-- A number of one of the types. -/
abbrev Number := (number : NumberKind) × Carrier number

/-! ### opentelemetry-rust -/

/-- A meter of a provider. -/
structure Meter where
  provider : Nat
  scope : InstrumentationScope

/-- The methods of a meter that begin an instrument. -/
inductive Factory where
  | u64Counter
  | f64Counter
  | i64UpDownCounter
  | f64UpDownCounter
  | u64Gauge
  | i64Gauge
  | f64Gauge
  | u64Histogram
  | f64Histogram
  | u64ObservableCounter
  | f64ObservableCounter
  | i64ObservableUpDownCounter
  | f64ObservableUpDownCounter
  | u64ObservableGauge
  | i64ObservableGauge
  | f64ObservableGauge
  deriving DecidableEq

/-- An instrument, by the meter and by what its builder was told. -/
structure Built where
  meter : Meter
  factory : Factory
  name : Str
  description : Option Str
  unit : Option Str
  boundaries : Option (List F64Bits)

def Meter.builder (meter : Meter) (factory : Factory) (name : Str) : Built :=
  ⟨meter, factory, name, none, none, none⟩

def Built.withDescription (builder : Built) (description : Str) : Built :=
  { builder with description := some description }

def Built.withUnit (builder : Built) (unit : Str) : Built := { builder with unit := some unit }

def Built.withBoundaries (builder : Built) (boundaries : List F64Bits) : Built :=
  { builder with boundaries := some boundaries }

inductive Method where
  | add
  | record
  deriving DecidableEq

/-- What an instrument, or a bound one, is handed. -/
structure Measurement where
  instrument : Built
  bound : Bool
  method : Method
  value : Number
  attributes : List KeyValue

/-! ### Creation -/

/-- `configure_sync_builder`. -/
def configureSyncBuilder (builder : Built) (description unit : Str) : Built :=
  let builder := if description.isEmpty then builder else builder.withDescription description
  if unit.isEmpty then builder else builder.withUnit unit

/-- `configure_histogram_builder`. -/
def configureHistogramBuilder (builder : Built) (description unit : Str)
    (boundaries : Option (List F64Bits)) : Built :=
  let builder := if description.isEmpty then builder else builder.withDescription description
  let builder := if unit.isEmpty then builder else builder.withUnit unit
  match boundaries with
  | some boundaries => builder.withBoundaries boundaries
  | none => builder

/-- `configure_async_builder`. -/
def configureAsyncBuilder (builder : Built) (description unit : Str) : Built :=
  let builder := if description.isEmpty then builder else builder.withDescription description
  if unit.isEmpty then builder else builder.withUnit unit

/-- `SdkMetricInstrument`. -/
inductive SdkMetricInstrument where
  | counterU64 (instrument : Built)
  | counterF64 (instrument : Built)
  | upDownCounterI64 (instrument : Built)
  | upDownCounterF64 (instrument : Built)
  | gaugeU64 (instrument : Built)
  | gaugeI64 (instrument : Built)
  | gaugeF64 (instrument : Built)
  | histogramU64 (instrument : Built)
  | histogramF64 (instrument : Built)
  | observable

/-- `CallbackLease`. -/
structure CallbackLease where
  state : UInt64
  release : UInt64
  deriving DecidableEq

/-- The closure that opentelemetry-rust calls at a collection, and the observers it hands out. -/
structure Closure where
  instrument : Built
  observer : NumberKind
  callback : UInt64
  lease : CallbackLease

/-- What a creation made: the box of the SDK, and the closure that was registered. -/
structure Created where
  instrument : SdkMetricInstrument
  closure : Option Closure

/-- `callback_lease`. -/
def callbackLease (config : OtelMetricInstrumentConfig) : Except Fail (Option CallbackLease) :=
  match config.callbackState, config.callbackStateFree with
  | none, none => .ok none
  | some _, none =>
    fail .invalidArgument "observable callback state release function is NULL"
  | none, some _ => fail .invalidArgument "observable callback state is NULL"
  | some state, some release => .ok (some ⟨state, release⟩)

/-- `observable_parts`. -/
def observableParts (config : OtelMetricInstrumentConfig) (lease : Option CallbackLease) :
    Except Fail (UInt64 × CallbackLease) :=
  match config.callback, lease with
  | none, _ => fail .invalidArgument "observable callback is NULL"
  | some _, none => fail .invalidArgument "observable callback state is missing"
  | some callback, some lease => .ok (callback, lease)

/-- The copy of the boundaries in `meter_create_instrument_with_status`. -/
def takeBoundaries (boundaries : CSlice F64Bits) : Except Fail (Option (List F64Bits)) :=
  if boundaries.len = 0 then .ok none
  else if boundaries.isNull then
    fail .invalidArgument "histogram boundaries are NULL with non-zero count"
  else .ok (some boundaries.read)

/-- The observable branches of `meter_create_instrument_with_status`. -/
def createObservable (config : OtelMetricInstrumentConfig) (lease : Option CallbackLease)
    (builder : Built) (description unit : Str) (observer : NumberKind) : Except Fail Created := do
  let (callback, lease) ← observableParts config lease
  let instrument := configureAsyncBuilder builder description unit
  .ok ⟨.observable, some ⟨instrument, observer, callback, lease⟩⟩

/-- The match on the kind and the number in `meter_create_instrument_with_status`. -/
def buildInstrument (meter : Meter) (config : OtelMetricInstrumentConfig)
    (lease : Option CallbackLease) (name description unit : Str)
    (boundaries : Option (List F64Bits)) (kind : OtelMetricInstrumentKind) (number : NumberKind) :
    Except Fail Created :=
  let sync (factory : Factory) :=
    configureSyncBuilder (meter.builder factory name) description unit
  let histogram (factory : Factory) :=
    configureHistogramBuilder (meter.builder factory name) description unit boundaries
  let observable (factory : Factory) :=
    createObservable config lease (meter.builder factory name) description unit number
  match kind, number with
  | .counter, .u64 => .ok ⟨.counterU64 (sync .u64Counter), none⟩
  | .counter, .f64 => .ok ⟨.counterF64 (sync .f64Counter), none⟩
  | .upDownCounter, .i64 => .ok ⟨.upDownCounterI64 (sync .i64UpDownCounter), none⟩
  | .upDownCounter, .f64 => .ok ⟨.upDownCounterF64 (sync .f64UpDownCounter), none⟩
  | .gauge, .u64 => .ok ⟨.gaugeU64 (sync .u64Gauge), none⟩
  | .gauge, .i64 => .ok ⟨.gaugeI64 (sync .i64Gauge), none⟩
  | .gauge, .f64 => .ok ⟨.gaugeF64 (sync .f64Gauge), none⟩
  | .histogram, .u64 => .ok ⟨.histogramU64 (histogram .u64Histogram), none⟩
  | .histogram, .f64 => .ok ⟨.histogramF64 (histogram .f64Histogram), none⟩
  | .observableCounter, .u64 => observable .u64ObservableCounter
  | .observableCounter, .f64 => observable .f64ObservableCounter
  | .observableUpDownCounter, .i64 => observable .i64ObservableUpDownCounter
  | .observableUpDownCounter, .f64 => observable .f64ObservableUpDownCounter
  | .observableGauge, .u64 => observable .u64ObservableGauge
  | .observableGauge, .i64 => observable .i64ObservableGauge
  | .observableGauge, .f64 => observable .f64ObservableGauge
  | _, _ => fail .invalidConfig "unsupported metric instrument kind and number combination"

/-- The body of `meter_create_instrument_with_status`. -/
def createBody (meter : Option Meter) (config : Option OtelMetricInstrumentConfig) :
    Except Fail Created :=
  match config with
  | none => fail .invalidArgument "metric instrument creation received a NULL config"
  | some config => do
    let lease ← callbackLease config
    match meter, OtelMetricInstrumentKind.fromU32 config.kind, numberFromU32 config.number with
    | none, _, _ =>
      fail .invalidArgument "metric instrument creation received a NULL meter context"
    | some _, none, _ => fail .invalidArgument "unknown metric instrument kind"
    | some _, some _, none => fail .invalidArgument "unknown metric number kind"
    | some meter, some kind, some number => do
      let name ← asStr config.name
      let description ← asStr config.description
      let unit ← asStr config.unit
      let boundaries ← takeBoundaries config.boundaries
      buildInstrument meter config lease name description unit boundaries kind number

/-- A request that says what it wants reaches the builders. -/
theorem createBody_of_codes {meter : Meter} {config : OtelMetricInstrumentConfig}
    {lease : Option CallbackLease} {name description unit : Str}
    {boundaries : Option (List F64Bits)} {kind : OtelMetricInstrumentKind} {number : NumberKind}
    (hlease : callbackLease config = .ok lease) (hkind : config.kind = kindCode kind)
    (hnumber : config.number = numberCode number) (hname : asStr config.name = .ok name)
    (hdescription : asStr config.description = .ok description)
    (hunit : asStr config.unit = .ok unit)
    (hboundaries : takeBoundaries config.boundaries = .ok boundaries) :
    createBody (some meter) (some config) =
      buildInstrument meter config lease name description unit boundaries kind number := by
  rw [createBody, hlease, Checked.ok_bind, hkind, hnumber, fromU32_kindCode,
    numberFromU32_numberCode]
  simp only [hname, hdescription, hunit, hboundaries, Checked.ok_bind]

/-- What a vtable entry answers that hands out a context: the context or NULL, the status it wrote,
and the message it left in the last-error slot. -/
structure Answer (α : Type) where
  ctx : Option α
  status : OtelStatus
  message : Option String

/-- `last_status_or`, of the status that the thread recorded last. -/
def lastStatusOr (lastStatus fallback : OtelStatus) : OtelStatus :=
  if lastStatus = .ok then fallback else lastStatus

/-- `meter_create_instrument_with_status`, with the status that the thread recorded last before and
after it; opentelemetry-rust may panic. -/
def meterCreateInstrumentWithStatus (_lastStatus : OtelStatus) (panics : Bool)
    (meter : Option Meter) (config : Option OtelMetricInstrumentConfig) :
    Answer Created × OtelStatus :=
  let reset : OtelStatus := .ok
  let result : Except Fail Created :=
    if panics then fail .internalError "metric instrument creation panicked"
    else createBody meter config
  match result with
  | .ok created => (⟨some created, .ok, none⟩, reset)
  | .error e => (⟨none, lastStatusOr e.status .invalidConfig, some e.message⟩, e.status)

/-! ### Measurements -/

/-- The matches of `record!`: `instrument_record_u64`, `instrument_record_i64` and
`instrument_record_f64`. -/
def recordMethod : NumberKind → SdkMetricInstrument → Option (Built × Method)
  | .u64, .counterU64 instrument => some (instrument, .add)
  | .u64, .gaugeU64 instrument => some (instrument, .record)
  | .u64, .histogramU64 instrument => some (instrument, .record)
  | .i64, .upDownCounterI64 instrument => some (instrument, .add)
  | .i64, .gaugeI64 instrument => some (instrument, .record)
  | .f64, .counterF64 instrument => some (instrument, .add)
  | .f64, .upDownCounterF64 instrument => some (instrument, .add)
  | .f64, .gaugeF64 instrument => some (instrument, .record)
  | .f64, .histogramF64 instrument => some (instrument, .record)
  | _, _ => none

def numberMismatch : String := "metric operation does not match the instrument numeric type"

/-- `record!`. -/
def instrumentRecord (ctx : Option SdkMetricInstrument) (value : Number)
    (attributes : CSlice OtelKeyValue) : Except Fail Measurement :=
  match ctx with
  | none => fail .invalidArgument "metric instrument context is NULL"
  | some instrument => do
    let attributes ← collectKeyValues attributes
    match recordMethod value.1 instrument with
    | some (instrument, method) => .ok ⟨instrument, false, method, value, attributes⟩
    | none => fail .invalidArgument numberMismatch

/-- An instrument with the attributes it was bound to. -/
structure BoundTo where
  instrument : Built
  attributes : List KeyValue

/-- `SdkBoundMetricInstrument`. -/
inductive SdkBoundMetricInstrument where
  | counterU64 (bound : BoundTo)
  | counterF64 (bound : BoundTo)
  | histogramU64 (bound : BoundTo)
  | histogramF64 (bound : BoundTo)

/-- The body of `instrument_bind`. -/
def bindBody (ctx : Option SdkMetricInstrument) (attributes : CSlice OtelKeyValue) :
    Except Fail SdkBoundMetricInstrument :=
  match ctx with
  | none => fail .invalidArgument "metric instrument context is NULL"
  | some instrument => do
    let attributes ← collectKeyValues attributes
    match instrument with
    | .counterU64 instrument => .ok (.counterU64 ⟨instrument, attributes⟩)
    | .counterF64 instrument => .ok (.counterF64 ⟨instrument, attributes⟩)
    | .histogramU64 instrument => .ok (.histogramU64 ⟨instrument, attributes⟩)
    | .histogramF64 instrument => .ok (.histogramF64 ⟨instrument, attributes⟩)
    | _ => fail .invalidArgument "instrument kind does not support bound instruments"

/-- `instrument_bind`; opentelemetry-rust may panic. -/
def instrumentBind (panics : Bool) (ctx : Option SdkMetricInstrument)
    (attributes : CSlice OtelKeyValue) : Answer SdkBoundMetricInstrument :=
  let result : Except Fail SdkBoundMetricInstrument :=
    if panics then fail .internalError "panic while binding metric instrument"
    else bindBody ctx attributes
  match result with
  | .ok bound => ⟨some bound, .ok, none⟩
  | .error e => ⟨none, e.status, some e.message⟩

/-- The matches of `bound_instrument_record_u64` and `bound_instrument_record_f64`. -/
def boundMethod : NumberKind → SdkBoundMetricInstrument → Option (BoundTo × Method)
  | .u64, .counterU64 bound => some (bound, .add)
  | .u64, .histogramU64 bound => some (bound, .record)
  | .f64, .counterF64 bound => some (bound, .add)
  | .f64, .histogramF64 bound => some (bound, .record)
  | _, _ => none

/-- `bound_instrument_record_u64` and `bound_instrument_record_f64`. -/
def boundInstrumentRecord (ctx : Option SdkBoundMetricInstrument) (value : Number) :
    Except Fail Measurement :=
  match ctx with
  | none => fail .invalidArgument "bound metric instrument context is NULL"
  | some instrument =>
    match boundMethod value.1 instrument with
    | some (bound, method) => .ok ⟨bound.instrument, true, method, value, bound.attributes⟩
    | none =>
      fail .invalidArgument "bound metric operation does not match the instrument numeric type"

end OtelC.Instruments
