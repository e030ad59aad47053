import OtelC.Metrics.Instruments

/-!
# What measurements come to

To an application there are meters, instruments and bound instruments, each under its handle, and
every one of them knows what it was asked to be.  `Table` is that view: nothing in it is an address
of the SDK, a constant in a header or a status of a thread.

* `instruments_are_a_table`: no calls on any threads tell the machine of the two libraries from the table.
* `boxes_owned`: the boxes of the SDK are those of the live handles.
* `measured_as_requested`: a measurement carries what its instrument was created from, whatever
  happened in between.
* `bound_as_unbound`: a bound instrument differs in when its attributes are read, and in nothing else.
-/

namespace OtelC.Instruments

open OtelC.Sdk (F64Bits KeyValue OtelKeyValue collectKeyValues nonEmpty)
open OtelC.Metrics (NumberKind)
open OtelC.Scopes (Backing ScopeOptions getMeterWithOptions)
open Simulation Boxes

/-! ### The table -/

/-- The builder for an instrument. -/
def SyncInstrument.factory : SyncInstrument → Factory
  | .otelCounterU64 => .u64Counter
  | .otelCounterF64 => .f64Counter
  | .otelUpDownCounterI64 => .i64UpDownCounter
  | .otelUpDownCounterF64 => .f64UpDownCounter
  | .otelGaugeU64 => .u64Gauge
  | .otelGaugeI64 => .i64Gauge
  | .otelGaugeF64 => .f64Gauge
  | .otelHistogramU64 => .u64Histogram
  | .otelHistogramF64 => .f64Histogram

/-- Counters add, gauges and histograms record. -/
def SyncInstrument.method (instrument : SyncInstrument) : Method :=
  match instrument.definition.kind with
  | .gauge => .record
  | .histogram => .record
  | _ => .add

/-- The text behind a view that was checked. -/
def text (view : OtelStringView) : Str := (asStr view).toOption.getD []

/-- The instrument that was asked for. -/
def requested (meter : Meter) (instrument : SyncInstrument) (name : OtelStringView)
    (options : Option OtelInstrumentOptions) : Built :=
  let given := givenBy options
  { meter := meter
    factory := instrument.factory
    name := text name
    description := nonEmpty (text given.description)
    unit := nonEmpty (text given.unit)
    boundaries := if given.boundaries.len = 0 then none else some given.boundaries.read }

/-- What an application has under a handle; without an SDK it is nothing. -/
inductive Object where
  | meter (meter : Option Meter)
  | instrument (instrument : SyncInstrument) (built : Option Built)
  | bound (bound : BoundInstrument) (attributes : Option BoundTo)

structure Table where
  objects : Nat → Option Object
  next : Nat

namespace Table

def initial : Table := ⟨fun _ => none, 0⟩

/-- The object under a handle, if it is one that `select` takes. -/
def arg {α : Type} (t : Table) (select : Object → Option α) : Option Nat → HandleArg α :=
  HandleArg.lookup t.objects select

def add (t : Table) (object : Object) : Table :=
  ⟨Function.update t.objects t.next (some object), t.next + 1⟩

def remove (t : Table) (h : Nat) : Table := { t with objects := Function.update t.objects h none }

@[simp] theorem objects_add (t : Table) (object : Object) :
    (t.add object).objects = Function.update t.objects t.next (some object) := rfl

@[simp] theorem objects_remove (t : Table) (h : Nat) :
    (t.remove h).objects = Function.update t.objects h none := rfl

end Table

def Object.asMeter : Object → Option (Option Meter)
  | .meter m => some m
  | _ => none

def Object.asInstrument (instrument : SyncInstrument) : Object → Option (Option Built)
  | .instrument i built => if i = instrument then some built else none
  | _ => none

def Object.asBound (bound : BoundInstrument) : Object → Option (Option BoundTo)
  | .bound b attributes => if b = bound then some attributes else none
  | _ => none

def Object.kind : Object → HandleKind
  | .meter _ => .meter
  | .instrument i _ => .sync i
  | .bound b _ => .bound b

namespace Table

/-- A meter is what the provider was asked for. -/
def getMeter (t : Table) (provider : HandleArg Backing) (options : Option ScopeOptions) :
    Reply × Table :=
  match getMeterWithOptions provider options with
  | .error e => (.meter (.error e), t)
  | .ok backing => (.meter (.ok t.next), t.add (.meter (backing.map fun x => ⟨x.1, x.2⟩)))

/-- The checks of a creation, and the meter. -/
def request (t : Table) (instrument : SyncInstrument) (meter : Option Nat) (name : OtelStringView)
    (options : Option OtelInstrumentOptions) : Except Fail (Option Meter) := do
  let meter ← checkedRef (t.arg Object.asMeter meter)
  let _ ← validateInstrumentConfig name options instrument.definition.histogram
  .ok meter

/-- Only a panic keeps a checked request from its instrument. -/
def create (t : Table) (instrument : SyncInstrument) (meter : Option Nat) (name : OtelStringView)
    (options : Option OtelInstrumentOptions) (outIsNull panics : Bool) : Reply × Table :=
  match outIsNull, t.request instrument meter name options with
  | true, _ => (.outNull "instrument out pointer is NULL", t)
  | false, .error e => (.refused e, t)
  | false, .ok none => (.created t.next, t.add (.instrument instrument none))
  | false, .ok (some meter) =>
    if panics then (.refused ⟨.internalError, "metric instrument creation panicked"⟩, t)
    else
      (.created t.next, t.add (.instrument instrument (some (requested meter instrument name options))))

/-- Only its attributes keep a measurement from an instrument. -/
def record (t : Table) (instrument : SyncInstrument) (handle : Option Nat)
    (value : Carrier instrument.definition.vtableRecord) (attributes : CSlice OtelKeyValue) :
    Reply × Table :=
  match checkedRef (t.arg (Object.asInstrument instrument) handle) with
  | .error e => (.recorded (.error e), t)
  | .ok none => (.recorded (.ok none), t)
  | .ok (some built) =>
    match collectKeyValues attributes with
    | .error e => (.recorded (.error e), t)
    | .ok attributes =>
      (.recorded (.ok (some ⟨built, false, instrument.method, ⟨_, value⟩, attributes⟩)), t)

/-- Binding keeps the instrument with its attributes. -/
def bind (t : Table) (bound : BoundInstrument) (handle : Option Nat)
    (attributes : CSlice OtelKeyValue) (outIsNull panics : Bool) : Reply × Table :=
  match outIsNull, checkedRef (t.arg (Object.asInstrument bound.definition.source) handle) with
  | true, _ => (.outNull "bound instrument out pointer is NULL", t)
  | false, .error e => (.refused e, t)
  | false, .ok none => (.created t.next, t.add (.bound bound none))
  | false, .ok (some built) =>
    if panics then (.refused ⟨.internalError, "panic while binding metric instrument"⟩, t)
    else match collectKeyValues attributes with
      | .error e => (.refused e, t)
      | .ok attributes => (.created t.next, t.add (.bound bound (some ⟨built, attributes⟩)))

/-- A bound instrument never refuses a measurement. -/
def recordBound (t : Table) (bound : BoundInstrument) (handle : Option Nat)
    (value : Carrier bound.definition.vtableRecord) : Reply × Table :=
  match checkedRef (t.arg (Object.asBound bound) handle) with
  | .error e => (.recorded (.error e), t)
  | .ok none => (.recorded (.ok none), t)
  | .ok (some b) =>
    (.recorded (.ok (some
      ⟨b.instrument, true, bound.definition.source.method, ⟨_, value⟩, b.attributes⟩)), t)

def destroy (t : Table) (kind : HandleKind) : Option Nat → Reply × Table
  | none => (.destroyed, t)
  | some h =>
    if (t.objects h).map Object.kind = some kind then (.destroyed, t.remove h) else (.destroyed, t)

/-- The calls, as an application sees them; the threads do not matter. -/
def step (t : Table) : Nat × Call → Reply × Table
  | (_, .getMeter provider options) => t.getMeter provider options
  | (_, .create instrument meter name options outIsNull panics) =>
    t.create instrument meter name options outIsNull panics
  | (_, .record instrument handle value attributes) => t.record instrument handle value attributes
  | (_, .bind bound handle attributes outIsNull panics) =>
    t.bind bound handle attributes outIsNull panics
  | (_, .recordBound bound handle value) => t.recordBound bound handle value
  | (_, .destroy kind handle) => t.destroy kind handle
  | (_, .elsewhere _) => (.destroyed, t)

end Table

/-! ### The boxes of the SDK -/

/-- The box of an instrument. -/
def SyncInstrument.toSdk : SyncInstrument → Built → SdkMetricInstrument
  | .otelCounterU64 => .counterU64
  | .otelCounterF64 => .counterF64
  | .otelUpDownCounterI64 => .upDownCounterI64
  | .otelUpDownCounterF64 => .upDownCounterF64
  | .otelGaugeU64 => .gaugeU64
  | .otelGaugeI64 => .gaugeI64
  | .otelGaugeF64 => .gaugeF64
  | .otelHistogramU64 => .histogramU64
  | .otelHistogramF64 => .histogramF64

/-- The box of a bound instrument. -/
def BoundInstrument.toSdk : BoundInstrument → BoundTo → SdkBoundMetricInstrument
  | .otelBoundCounterU64 => .counterU64
  | .otelBoundCounterF64 => .counterF64
  | .otelBoundHistogramU64 => .histogramU64
  | .otelBoundHistogramF64 => .histogramF64

/-- The box behind an object. -/
def Object.box : Object → Option Box
  | .meter m => m.map .meter
  | .instrument i built => built.map fun built => .instrument (i.toSdk built)
  | .bound b attributes => attributes.map fun bound => .bound (b.toSdk bound)

theorem configureSyncBuilder_eq (meter : Meter) (factory : Factory) (name description unit : Str) :
    configureSyncBuilder (meter.builder factory name) description unit =
      ⟨meter, factory, name, nonEmpty description, nonEmpty unit, none⟩ := by
  rw [configureSyncBuilder, nonEmpty, nonEmpty]
  cases description.isEmpty <;> cases unit.isEmpty <;> rfl

theorem configureHistogramBuilder_eq (meter : Meter) (factory : Factory)
    (name description unit : Str) (boundaries : Option (List F64Bits)) :
    configureHistogramBuilder (meter.builder factory name) description unit boundaries =
      ⟨meter, factory, name, nonEmpty description, nonEmpty unit, boundaries⟩ := by
  rw [configureHistogramBuilder.eq_def, nonEmpty, nonEmpty]
  cases description.isEmpty <;> cases unit.isEmpty <;> cases boundaries <;> rfl

/-- What is behind the boundaries that the API accepts. -/
theorem takeBoundaries_accepted {histogram : Bool} {boundaries accepted : CSlice F64Bits}
    (h : BoundariesAccepted histogram boundaries accepted) :
    takeBoundaries accepted =
      .ok (if boundaries.len = 0 then none else some boundaries.read) ∧
        (histogram = false → boundaries.len = 0) := by
  cases histogram with
  | false =>
    obtain ⟨rfl, rfl⟩ := h
    exact ⟨rfl, fun _ => rfl⟩
  | true =>
    rcases h with ⟨hlen, rfl⟩ | ⟨values, rfl, hne, -, rfl⟩
    · rw [if_pos hlen]
      exact ⟨rfl, fun hfalse => (by cases hfalse)⟩
    · have hlen : ¬(CSlice.elems values).len = 0 := fun h => hne (List.length_eq_zero_iff.mp h)
      rw [takeBoundaries, if_neg hlen, if_neg hlen]
      exact ⟨rfl, fun hfalse => (by cases hfalse)⟩

theorem asStr_text {view : OtelStringView} (h : ∃ s, asStr view = .ok s) :
    asStr view = .ok (text view) := by
  obtain ⟨s, hs⟩ := h
  rw [text, hs]
  rfl

/-- The texts of accepted options are well formed. -/
theorem given_texts {options : Option OtelInstrumentOptions}
    (h : ∀ o ∈ options, OptionsAccepted o) :
    (∃ s, asStr (givenBy options).description = .ok s) ∧
      ∃ s, asStr (givenBy options).unit = .ok s := by
  cases options with
  | none => exact ⟨⟨[], rfl⟩, ⟨[], rfl⟩⟩
  | some o =>
    obtain ⟨-, hdescription, s, hs, -⟩ := h o rfl
    exact ⟨hdescription, s, hs⟩

/-- **The SDK builds what the API was asked for.** -/
theorem createBody_requested {instrument : SyncInstrument} {name : OtelStringView}
    {options : Option OtelInstrumentOptions} {config : OtelMetricInstrumentConfig} (meter : Meter)
    (h : validateInstrumentConfig name options instrument.definition.histogram = .ok config) :
    createBody (some meter) (some { config with
      kind := kindCode instrument.definition.kind
      number := numberCode instrument.definition.number }) =
      .ok ⟨instrument.toSdk (requested meter instrument name options), none⟩ := by
  obtain ⟨⟨s, hname, -⟩, hoptions, boundaries, hboundaries, rfl⟩ :=
    accepted_of_validateInstrumentConfig h
  obtain ⟨hdescription, hunit⟩ := given_texts hoptions
  obtain ⟨htake, hplain⟩ := takeBoundaries_accepted hboundaries
  refine (createBody_of_codes rfl rfl rfl (asStr_text ⟨s, hname⟩) (asStr_text hdescription)
    (asStr_text hunit) htake).trans ?_
  cases instrument with
  | otelHistogramU64 =>
    simp only [buildInstrument, SyncInstrument.definition, configureHistogramBuilder_eq, requested,
      checkedConfig, SyncInstrument.factory, SyncInstrument.toSdk]
  | otelHistogramF64 =>
    simp only [buildInstrument, SyncInstrument.definition, configureHistogramBuilder_eq, requested,
      checkedConfig, SyncInstrument.factory, SyncInstrument.toSdk]
  | _ =>
    simp only [buildInstrument, SyncInstrument.definition, configureSyncBuilder_eq, requested,
      checkedConfig, if_pos (hplain rfl), SyncInstrument.factory, SyncInstrument.toSdk]

theorem instrumentRecord_toSdk (instrument : SyncInstrument) (built : Built)
    (value : Carrier instrument.definition.vtableRecord) (attributes : CSlice OtelKeyValue) :
    instrumentRecord (some (instrument.toSdk built)) ⟨_, value⟩ attributes =
      (collectKeyValues attributes).map fun attributes =>
        ⟨built, false, instrument.method, ⟨_, value⟩, attributes⟩ := by
  rw [instrumentRecord]
  cases collectKeyValues attributes with
  | error e => rfl
  | ok attributes => cases instrument <;> rfl

theorem bindBody_toSdk (bound : BoundInstrument) (built : Built)
    (attributes : CSlice OtelKeyValue) :
    bindBody (some (bound.definition.source.toSdk built)) attributes =
      (collectKeyValues attributes).map fun attributes => bound.toSdk ⟨built, attributes⟩ := by
  rw [bindBody]
  cases collectKeyValues attributes with
  | error e => rfl
  | ok attributes => cases bound <;> rfl

theorem boundInstrumentRecord_toSdk (bound : BoundInstrument) (b : BoundTo)
    (value : Carrier bound.definition.vtableRecord) :
    boundInstrumentRecord (some (bound.toSdk b)) ⟨_, value⟩ =
      .ok ⟨b.instrument, true, bound.definition.source.method, ⟨_, value⟩, b.attributes⟩ := by
  cases bound <;> rfl

/-! ### The two machines -/

/-- The handles and the boxes come to the objects of a table. -/
structure Represents (s : State) (t : Table) : Prop where
  owned : s.store.Owned
  next : s.store.nextHandle = t.next
  objects : ∀ h, s.store.view h = (t.objects h).map fun object => (object.kind, object.box)

variable {s : State} {t : Table}

/-- A store and a table of objects, and the handles count on alike. -/
theorem represents_iff : Represents s t ↔
    Tabulates Object.kind Object.box s.store t.objects ∧ s.store.nextHandle = t.next :=
  ⟨fun h => ⟨⟨h.owned, h.objects⟩, h.next⟩, fun h => ⟨h.1.owned, h.2, h.1.view⟩⟩

theorem Represents.tabulates (h : Represents s t) :
    Tabulates Object.kind Object.box s.store t.objects := (represents_iff.mp h).1

theorem represents_initial : Represents .initial .initial :=
  represents_iff.mpr ⟨tabulates_empty, rfl⟩

theorem Represents.add (h : Represents s t) (object : Object) :
    Represents (s.intoRaw object.kind object.box) (t.add object) := by
  refine represents_iff.mpr ⟨?_, congrArg (· + 1) h.next⟩
  rw [Table.objects_add, ← h.next]
  exact h.tabulates.create object

theorem Represents.remove (h : Represents s t) (x : Nat) :
    Represents { s with store := s.store.destroy x } (t.remove x) := by
  refine represents_iff.mpr ⟨?_, h.next⟩
  rw [Table.objects_remove]
  exact h.tabulates.destroy x

theorem Represents.setLastStatus (h : Represents s t) (thread : Nat) (status : OtelStatus) :
    Represents (s.setLastStatus thread status) t := ⟨h.owned, h.next, h.objects⟩

/-- A handle that stands for an object has its kind, and a context that leads to its box. -/
theorem Represents.handle (h : Represents s t) {x : Nat} {object : Object}
    (hx : t.objects x = some object) :
    ∃ ctx, s.store.handles x = some (object.kind, ctx) ∧ s.store.Backs ctx object.box :=
  h.tabulates.handle hx

/-- `select` takes the objects of one kind, with what stands behind them. -/
def Selects {α : Type} (select : Object → Option α) (kind : HandleKind)
    (toBox : α → Option Box) : Prop :=
  ∀ object, (object.kind ≠ kind ∧ select object = none) ∨
    ∃ x, object.kind = kind ∧ select object = some x ∧ object.box = toBox x

theorem selects_meter : Selects Object.asMeter .meter (Option.map Box.meter) := by
  intro object
  cases object with
  | meter m => exact .inr ⟨m, rfl, rfl, rfl⟩
  | instrument i built => exact .inl ⟨by simp [Object.kind], rfl⟩
  | bound b attributes => exact .inl ⟨by simp [Object.kind], rfl⟩

theorem selects_instrument (instrument : SyncInstrument) :
    Selects (Object.asInstrument instrument) (.sync instrument)
      (Option.map fun built => .instrument (instrument.toSdk built)) := by
  intro object
  cases object with
  | meter m => exact .inl ⟨by simp [Object.kind], rfl⟩
  | instrument i built =>
    by_cases hi : i = instrument
    · subst hi
      exact .inr ⟨built, rfl, if_pos rfl, rfl⟩
    · exact .inl ⟨by simp [Object.kind, hi], if_neg hi⟩
  | bound b attributes => exact .inl ⟨by simp [Object.kind], rfl⟩

theorem selects_bound (bound : BoundInstrument) :
    Selects (Object.asBound bound) (.bound bound)
      (Option.map fun attributes => .bound (bound.toSdk attributes)) := by
  intro object
  cases object with
  | meter m => exact .inl ⟨by simp [Object.kind], rfl⟩
  | instrument i built => exact .inl ⟨by simp [Object.kind], rfl⟩
  | bound b attributes =>
    by_cases hb : b = bound
    · subst hb
      exact .inr ⟨attributes, rfl, if_pos rfl, rfl⟩
    · exact .inl ⟨by simp [Object.kind, hb], if_neg hb⟩

/-- A handle is refused for one reason on both sides, or stands for the same thing. -/
theorem Represents.arg (h : Represents s t) {α : Type} {select : Object → Option α}
    {kind : HandleKind} {toBox : α → Option Box} (hselect : Selects select kind toBox)
    (handle : Option Nat) :
    (∃ e, checkedRef (s.arg kind handle) = .error e ∧ checkedRef (t.arg select handle) = .error e) ∨
      ∃ ctx x, checkedRef (s.arg kind handle) = .ok ctx ∧ checkedRef (t.arg select handle) = .ok x ∧
        s.store.Backs ctx (toBox x) := by
  cases handle with
  | none => exact .inl ⟨_, rfl, rfl⟩
  | some x =>
    cases hx : t.objects x with
    | none =>
      have hdead := h.tabulates.no_handle hx
      simp only [State.arg, Table.arg, HandleArg.lookup, hx, hdead]
      exact .inl ⟨_, rfl, rfl⟩
    | some object =>
      obtain ⟨ctx, hh, hbacks⟩ := h.handle hx
      rcases hselect object with ⟨hkind, hnone⟩ | ⟨y, hkind, hsome, hbox⟩
      · simp only [State.arg, Table.arg, HandleArg.lookup, Store.contextOf, hx, hh, hnone, if_neg hkind]
        exact .inl ⟨_, rfl, rfl⟩
      · simp only [State.arg, Table.arg, HandleArg.lookup, Store.contextOf, hx, hh, hsome, if_pos hkind]
        rw [hbox] at hbacks
        exact .inr ⟨ctx, y, rfl, rfl, hbacks⟩

theorem Represents.getMeter (h : Represents s t) (provider : HandleArg Backing)
    (options : Option ScopeOptions) :
    Alike Represents (s.getMeter provider options) (t.getMeter provider options) := by
  rw [State.getMeter, Table.getMeter]
  cases getMeterWithOptions provider options with
  | error e => exact .same h _
  | ok backing =>
    refine ⟨by rw [h.next], ?_⟩
    have hadd := h.add (.meter (backing.map fun x => ⟨x.1, x.2⟩))
    rw [Object.kind, Object.box, Option.map_map] at hadd
    exact hadd

/-- What the vtable and the API make of a checked request, whatever the thread had recorded. -/
theorem createInstrument_requested {instrument : SyncInstrument} {name : OtelStringView}
    {options : Option OtelInstrumentOptions} {config : OtelMetricInstrumentConfig}
    (lastStatus : OtelStatus) (panics : Bool) (meter : Meter)
    (h : validateInstrumentConfig name options instrument.definition.histogram = .ok config) :
    createInstrument (meterCreateInstrumentWithStatus lastStatus panics (some meter)
      (some { config with
        kind := kindCode instrument.definition.kind
        number := numberCode instrument.definition.number })).1 =
      if panics then fail .internalError "metric instrument creation panicked"
      else .ok ⟨instrument.toSdk (requested meter instrument name options), none⟩ := by
  rw [meterCreateInstrumentWithStatus, createBody_requested meter h]
  cases panics <;> rfl

theorem Represents.create (h : Represents s t) (thread : Nat) (instrument : SyncInstrument)
    (meter : Option Nat) (name : OtelStringView) (options : Option OtelInstrumentOptions)
    (outIsNull panics : Bool) :
    Alike Represents (s.create thread instrument meter name options outIsNull panics)
      (t.create instrument meter name options outIsNull panics) := by
  cases outIsNull with
  | true => exact .same h _
  | false =>
    unfold State.create Table.create
    rw [State.request, Table.request]
    rcases h.arg selects_meter meter with ⟨e, hs, ht⟩ | ⟨ctx, m, hs, ht, hbacks⟩
    · simp only [hs, ht, Checked.error_bind]
      exact .same h _
    · simp only [hs, ht, Checked.ok_bind]
      cases hconfig : validateInstrumentConfig name options instrument.definition.histogram with
      | error e =>
        simp only [Checked.error_bind]
        exact .same h _
      | ok config =>
        simp only [Checked.ok_bind]
        cases m with
        | none =>
          cases ctx with
          | none => exact ⟨by rw [h.next], h.add (.instrument instrument none)⟩
          | some c =>
            obtain ⟨b, -, hnone⟩ := hbacks
            cases hnone
        | some m =>
          cases ctx with
          | none => cases hbacks
          | some c =>
            obtain ⟨b, hb, hsome⟩ := hbacks
            obtain rfl := Option.some.inj hsome
            have hmade := createInstrument_requested (s.lastStatus thread) panics m hconfig
            simp only [hb, hmade]
            have h' := h.setLastStatus thread
              (meterCreateInstrumentWithStatus (s.lastStatus thread) panics (some m)
                (some { config with
                  kind := kindCode instrument.definition.kind
                  number := numberCode instrument.definition.number })).2
            cases panics with
            | true => exact .same h' _
            | false =>
              refine ⟨congrArg Reply.created h.next, ?_⟩
              exact h'.add (.instrument instrument (some (requested m instrument name options)))

theorem Represents.record (h : Represents s t) (thread : Nat) (instrument : SyncInstrument)
    (handle : Option Nat) (value : Carrier instrument.definition.vtableRecord)
    (attributes : CSlice OtelKeyValue) :
    Alike Represents (s.record thread instrument handle value attributes)
      (t.record instrument handle value attributes) := by
  rw [State.record, Table.record]
  rcases h.arg (selects_instrument instrument) handle with ⟨e, hs, ht⟩ | ⟨ctx, built, hs, ht, hbacks⟩
  · simp only [hs, ht]
    exact .same h _
  · simp only [hs, ht]
    cases ctx with
    | none =>
      cases built with
      | none => exact .same h _
      | some built => cases hbacks
    | some c =>
      obtain ⟨b, hb, hsome⟩ := hbacks
      cases built with
      | none => cases hsome
      | some built =>
        obtain rfl := Option.some.inj hsome
        simp only [hb, instrumentRecord_toSdk]
        cases collectKeyValues attributes with
        | error e => exact ⟨rfl, h.setLastStatus thread e.status⟩
        | ok attributes => exact .same h _

/-- What the vtable and the API make of a binding. -/
theorem takeBound_bind (bound : BoundInstrument) (built : Built)
    (attributes : CSlice OtelKeyValue) (panics : Bool) :
    takeBound (instrumentBind panics (some (bound.definition.source.toSdk built)) attributes) =
      if panics then fail .internalError "panic while binding metric instrument"
      else (collectKeyValues attributes).map fun attributes => bound.toSdk ⟨built, attributes⟩ := by
  cases panics with
  | true => rfl
  | false =>
    rw [instrumentBind, bindBody_toSdk]
    cases collectKeyValues attributes with
    | error e => exact dif_pos e.failed.ne_ok
    | ok attributes => rfl

theorem Represents.bind (h : Represents s t) (thread : Nat) (bound : BoundInstrument)
    (handle : Option Nat) (attributes : CSlice OtelKeyValue) (outIsNull panics : Bool) :
    Alike Represents (s.bind thread bound handle attributes outIsNull panics)
      (t.bind bound handle attributes outIsNull panics) := by
  cases outIsNull with
  | true => exact .same h _
  | false =>
    unfold State.bind Table.bind
    rcases h.arg (selects_instrument bound.definition.source) handle with
      ⟨e, hs, ht⟩ | ⟨ctx, built, hs, ht, hbacks⟩
    · simp only [hs, ht]
      exact .same h _
    · simp only [hs, ht]
      cases ctx with
      | none =>
        cases built with
        | none => exact ⟨by rw [h.next], h.add (.bound bound none)⟩
        | some built => cases hbacks
      | some c =>
        obtain ⟨b, hb, hsome⟩ := hbacks
        cases built with
        | none => cases hsome
        | some built =>
          obtain rfl := Option.some.inj hsome
          simp only [hb, takeBound_bind]
          cases panics with
          | true => exact ⟨rfl, h.setLastStatus thread .internalError⟩
          | false =>
            cases collectKeyValues attributes with
            | error e => exact ⟨rfl, h.setLastStatus thread e.status⟩
            | ok attributes =>
              exact ⟨congrArg Reply.created h.next, h.add (.bound bound (some ⟨built, attributes⟩))⟩

theorem Represents.recordBound (h : Represents s t) (thread : Nat) (bound : BoundInstrument)
    (handle : Option Nat) (value : Carrier bound.definition.vtableRecord) :
    Alike Represents (s.recordBound thread bound handle value) (t.recordBound bound handle value) := by
  rw [State.recordBound, Table.recordBound]
  rcases h.arg (selects_bound bound) handle with ⟨e, hs, ht⟩ | ⟨ctx, attributes, hs, ht, hbacks⟩
  · simp only [hs, ht]
    exact .same h _
  · simp only [hs, ht]
    cases ctx with
    | none =>
      cases attributes with
      | none => exact .same h _
      | some attributes => cases hbacks
    | some c =>
      obtain ⟨b, hb, hsome⟩ := hbacks
      cases attributes with
      | none => cases hsome
      | some attributes =>
        obtain rfl := Option.some.inj hsome
        simp only [hb, boundInstrumentRecord_toSdk]
        exact .same h _

theorem Object.frees_box (object : Object) : ∀ b ∈ object.box, object.kind.frees b = true := by
  intro b hb
  cases object with
  | meter m =>
    obtain ⟨m, rfl, rfl⟩ := Option.map_eq_some_iff.mp hb
    rfl
  | instrument i built =>
    obtain ⟨built, rfl, rfl⟩ := Option.map_eq_some_iff.mp hb
    rfl
  | bound b attributes =>
    obtain ⟨attributes, rfl, rfl⟩ := Option.map_eq_some_iff.mp hb
    rfl

theorem Represents.destroy (h : Represents s t) (kind : HandleKind) (handle : Option Nat) :
    Alike Represents (s.destroy kind handle) (t.destroy kind handle) := by
  cases handle with
  | none => exact .same h _
  | some x =>
    unfold State.destroy Table.destroy
    cases hx : t.objects x with
    | none =>
      simp only [State.arg, HandleArg.lookup, h.tabulates.no_handle hx, hx, Option.map_none,
        reduceCtorEq, if_false]
      exact .same h _
    | some object =>
      obtain ⟨ctx, hh, hbacks⟩ := h.handle hx
      by_cases hkind : object.kind = kind
      · simp only [State.arg, HandleArg.lookup, Store.contextOf, hh, hx, Option.map_some, hkind, if_true]
        cases ctx with
        | none => exact ⟨rfl, h.remove x⟩
        | some c =>
          obtain ⟨b, hb, hbox⟩ := hbacks
          have hfrees := object.frees_box b hbox
          rw [hkind] at hfrees
          simp only [hb, Option.any_some, hfrees, if_true]
          exact ⟨rfl, h.remove x⟩
      · have hne : ¬some object.kind = some kind := fun heq => hkind (Option.some.inj heq)
        simp only [State.arg, HandleArg.lookup, Store.contextOf, hh, hx, if_neg hkind, Option.map_some,
          if_neg hne]
        exact .same h _

/-- What a call may do to a table: nothing, one object more, or one less.  It is never undefined. -/
inductive Table.Moves (t : Table) (call : Call) : Reply × Table → Prop where
  | stay {reply : Reply} (h : reply ≠ .undefined) : Moves t call (reply, t)
  | add {reply : Reply} (object : Object) (h : reply ≠ .undefined) :
      Moves t call (reply, t.add object)
  | remove {kind : HandleKind} {x : Nat} (hcall : call = .destroy kind (some x))
      (hkind : (t.objects x).map Object.kind = some kind) : Moves t call (.destroyed, t.remove x)

theorem Table.moves (t : Table) (thread : Nat) (call : Call) :
    t.Moves call (t.step (thread, call)) := by
  cases call with
  | getMeter provider options =>
    rw [Table.step, Table.getMeter]
    split
    · exact .stay (fun h => by cases h)
    · exact .add _ (fun h => by cases h)
  | create instrument meter name options outIsNull panics =>
    rw [Table.step]
    unfold Table.create
    split
    · exact .stay (fun h => by cases h)
    · exact .stay (fun h => by cases h)
    · exact .add _ (fun h => by cases h)
    · split
      · exact .stay (fun h => by cases h)
      · exact .add _ (fun h => by cases h)
  | record instrument handle value attributes =>
    rw [Table.step, Table.record]
    split
    · exact .stay (fun h => by cases h)
    · exact .stay (fun h => by cases h)
    · split <;> exact .stay (fun h => by cases h)
  | bind bound handle attributes outIsNull panics =>
    rw [Table.step]
    unfold Table.bind
    split
    · exact .stay (fun h => by cases h)
    · exact .stay (fun h => by cases h)
    · exact .add _ (fun h => by cases h)
    · split
      · exact .stay (fun h => by cases h)
      · split
        · exact .stay (fun h => by cases h)
        · exact .add _ (fun h => by cases h)
  | recordBound bound handle value =>
    rw [Table.step, Table.recordBound]
    split <;> exact .stay (fun h => by cases h)
  | destroy kind handle =>
    cases handle with
    | none => exact .stay (fun h => by cases h)
    | some x =>
      rw [Table.step, Table.destroy]
      split
      · rename_i hkind
        exact .remove rfl hkind
      · exact .stay (fun h => by cases h)
  | elsewhere status => exact .stay (fun h => by cases h)

theorem Table.Moves.ne_undefined {call : Call} {result : Reply × Table}
    (h : t.Moves call result) : result.1 ≠ .undefined := by
  cases h with
  | stay h => exact h
  | add object h => exact h
  | remove _ _ => exact fun h => by cases h

/-- One call. -/
theorem Represents.step (h : Represents s t) (call : Nat × Call) :
    Alike Represents (s.step call) (t.step call) := by
  obtain ⟨thread, call⟩ := call
  cases call with
  | getMeter provider options => exact h.getMeter provider options
  | create instrument meter name options outIsNull panics =>
    exact h.create thread instrument meter name options outIsNull panics
  | record instrument handle value attributes => exact h.record thread instrument handle value attributes
  | bind bound handle attributes outIsNull panics =>
    exact h.bind thread bound handle attributes outIsNull panics
  | recordBound bound handle value => exact h.recordBound thread bound handle value
  | destroy kind handle => exact h.destroy kind handle
  | elsewhere status => exact ⟨rfl, h.setLastStatus thread status⟩

theorem simulates : Simulates State.step Table.step Represents :=
  simulates_of_alike fun _ _ call h => h.step call

/-- **The two libraries are one table of instruments**: whatever is called on whatever threads, the
replies are those of the table. -/
theorem instruments_are_a_table (calls : List (Nat × Call)) :
    replies State.step .initial calls = replies Table.step .initial calls :=
  simulates.replies_eq represents_initial calls

/-- **Every box of the SDK has one live handle**, after any calls on any threads: none is leaked,
none is shared, and none is used after it was freed. -/
theorem boxes_owned (calls : List (Nat × Call)) :
    (after State.step .initial calls).store.Owned ∧
      .undefined ∉ replies State.step .initial calls := by
  refine ⟨(simulates.related represents_initial calls).owned, fun hmem => ?_⟩
  rw [simulates.replies_eq represents_initial] at hmem
  obtain ⟨t, call, hreply⟩ := exists_of_mem_replies hmem
  exact (t.moves call.1 call.2).ne_undefined hreply

/-! ### What a measurement carries -/

/-- A call that does not destroy it leaves an object where it is. -/
theorem Table.Moves.kept {x : Nat} {object : Object} (hx : t.objects x = some object)
    (hlt : x < t.next) {call : Call} {result : Reply × Table} (h : t.Moves call result)
    (hcall : call ≠ .destroy object.kind (some x)) : result.2.objects x = some object := by
  cases h with
  | stay _ => exact hx
  | add added _ => exact (added_of_lt hlt (some added)).trans hx
  | @remove kind y hdestroy hkind =>
    have hne : x ≠ y := by
      rintro rfl
      rw [hx, Option.map_some, Option.some.injEq] at hkind
      rw [← hkind] at hdestroy
      exact hcall hdestroy
    rw [Table.objects_remove, Function.update_of_ne hne]
    exact hx

/-- A call changes the object under an old handle only by removing it. -/
theorem Table.Moves.old {x : Nat} (hlt : x < t.next) {call : Call} {result : Reply × Table}
    (h : t.Moves call result) :
    x < result.2.next ∧ ∀ object ∈ result.2.objects x, t.objects x = some object := by
  cases h with
  | stay _ => exact ⟨hlt, fun _ h => h⟩
  | add added _ =>
    refine ⟨Nat.lt_succ_of_lt hlt, fun object hobject => ?_⟩
    exact (added_of_lt hlt (some added)).symm.trans hobject
  | @remove kind y _ _ =>
    refine ⟨hlt, fun object hobject => ?_⟩
    have hobject : Function.update t.objects y none x = some object := hobject
    by_cases hxy : x = y
    · subst hxy
      rw [Function.update_self] at hobject
      cases hobject
    · rwa [Function.update_of_ne hxy] at hobject

/-- A handle never comes to stand for something else. -/
theorem Table.old_of_after {x : Nat} (hlt : x < t.next) {calls : List (Nat × Call)}
    {object : Object} (hobject : (after Table.step t calls).objects x = some object) :
    t.objects x = some object := by
  induction calls generalizing t with
  | nil => exact hobject
  | cons call calls ih =>
    have hold := (t.moves call.1 call.2).old hlt
    exact hold.2 object (ih hold.1 hobject)

/-- An object stays where it is until a call destroys it. -/
theorem Represents.kept (h : Represents s t) {x : Nat} {object : Object}
    (hx : t.objects x = some object) {calls : List (Nat × Call)}
    (hcalls : ∀ thread, (thread, Call.destroy object.kind (some x)) ∉ calls) :
    (after Table.step t calls).objects x = some object := by
  induction calls generalizing s t with
  | nil => exact hx
  | cons call calls ih =>
    obtain ⟨thread, call⟩ := call
    have hcall : call ≠ .destroy object.kind (some x) := by
      rintro rfl
      exact hcalls thread List.mem_cons_self
    have hlt := h.tabulates.lt_next h.next hx
    exact ih (h.step (thread, call)).2 ((t.moves thread call).kept hx hlt hcall)
      fun thread hmem => hcalls thread (List.mem_cons_of_mem _ hmem)

theorem Reply.refused_ne_created (e : Fail) (x : Nat) : Reply.refused e ≠ .created x := by
  intro h
  rw [Reply.refused, Reply.created, Reply.handle.injEq] at h
  exact e.failed.ne_ok (congrArg OutCall.status h)

/-- A creation that answered with a handle left the instrument there. -/
theorem Table.created_create {instrument : SyncInstrument} {meter : Option Nat}
    {name : OtelStringView} {options : Option OtelInstrumentOptions} {outIsNull panics : Bool}
    {x : Nat} (h : (t.create instrument meter name options outIsNull panics).1 = .created x) :
    ∃ m, checkedRef (t.arg Object.asMeter meter) = .ok m ∧
      (t.create instrument meter name options outIsNull panics).2.objects x =
        some (.instrument instrument (m.map (requested · instrument name options))) := by
  have hmeter {m : Option Meter} (hm : t.request instrument meter name options = .ok m) :
      checkedRef (t.arg Object.asMeter meter) = .ok m := by
    obtain ⟨m', hm', hm⟩ := Checked.bind_eq_ok.mp hm
    obtain ⟨config, -, hm⟩ := Checked.bind_eq_ok.mp hm
    obtain rfl := Except.ok.inj hm
    exact hm'
  unfold Table.create at h ⊢
  split at h
  · cases h
  · exact absurd h (Reply.refused_ne_created _ _)
  · rename_i hm
    cases h
    exact ⟨none, hmeter hm, Function.update_self _ _ _⟩
  · rename_i m hm
    cases panics with
    | true => cases h
    | false =>
      cases h
      exact ⟨some m, hmeter hm, Function.update_self _ _ _⟩

/-- A binding that answered with a handle left the instrument and the attributes there. -/
theorem Table.created_bind {bound : BoundInstrument} {handle : Option Nat}
    {attributes : CSlice OtelKeyValue} {outIsNull panics : Bool} {x : Nat}
    (h : (t.bind bound handle attributes outIsNull panics).1 = .created x) :
    ∃ built, checkedRef (t.arg (Object.asInstrument bound.definition.source) handle) = .ok built ∧
      ((built = none ∧ (t.bind bound handle attributes outIsNull panics).2.objects x =
        some (.bound bound none)) ∨
      ∃ b kvs, built = some b ∧ collectKeyValues attributes = .ok kvs ∧
        (t.bind bound handle attributes outIsNull panics).2.objects x =
          some (.bound bound (some ⟨b, kvs⟩))) := by
  unfold Table.bind at h ⊢
  split at h
  · cases h
  · exact absurd h (Reply.refused_ne_created _ _)
  · rename_i hbuilt
    cases h
    exact ⟨none, hbuilt, .inl ⟨rfl, Function.update_self _ _ _⟩⟩
  · rename_i b hbuilt
    cases panics with
    | true => cases h
    | false =>
      cases hkvs : collectKeyValues attributes with
      | error e =>
        rw [hkvs] at h
        exact absurd h (Reply.refused_ne_created _ _)
      | ok kvs =>
        rw [hkvs] at h
        cases h
        exact ⟨some b, hbuilt, .inr ⟨b, kvs, rfl, rfl, Function.update_self _ _ _⟩⟩

/-- The object that a handle with this content selects. -/
theorem Table.arg_of_objects {α : Type} {select : Object → Option α} {x : Nat} {object : Object}
    {y : α} (hx : t.objects x = some object) (hy : select object = some y) :
    checkedRef (t.arg select (some x)) = .ok y := by
  simp only [Table.arg, HandleArg.lookup, hx, hy, checkedRef_live]

/-- What a measurement through an instrument comes to; without an SDK it comes to nothing. -/
def measured (built : Option Built) (bound : Bool) (method : Method) (value : Number)
    (attributes : Except Fail (List KeyValue)) : Except Fail (Option Measurement) :=
  match built with
  | none => .ok none
  | some built => attributes.map fun attributes => some ⟨built, bound, method, value, attributes⟩

theorem Table.record_of_objects {instrument : SyncInstrument} {x : Nat} {built : Option Built}
    (hx : t.objects x = some (.instrument instrument built))
    (value : Carrier instrument.definition.vtableRecord) (attributes : CSlice OtelKeyValue) :
    (t.record instrument (some x) value attributes).1 =
      .recorded (measured built false instrument.method ⟨_, value⟩ (collectKeyValues attributes)) := by
  have hselect : Object.asInstrument instrument (.instrument instrument built) = some built :=
    if_pos rfl
  have harg := Table.arg_of_objects hx hselect
  rw [Table.record, harg]
  cases built with
  | none => rfl
  | some built => cases collectKeyValues attributes <;> rfl

theorem Table.recordBound_of_objects {bound : BoundInstrument} {x : Nat} {b : Option BoundTo}
    (hx : t.objects x = some (.bound bound b)) (value : Carrier bound.definition.vtableRecord) :
    (t.recordBound bound (some x) value).1 =
      .recorded (.ok (b.map fun b =>
        ⟨b.instrument, true, bound.definition.source.method, ⟨_, value⟩, b.attributes⟩)) := by
  have hselect : Object.asBound bound (.bound bound b) = some b := if_pos rfl
  have harg := Table.arg_of_objects hx hselect
  rw [Table.recordBound, harg]
  cases b <;> rfl

/-- The meter that a handle stands for. -/
theorem Table.objects_of_meter {x : Nat} {m : Option Meter}
    (h : checkedRef (t.arg Object.asMeter (some x)) = .ok m) : t.objects x = some (.meter m) := by
  have hlive := live_of_checkedRef h
  cases hx : t.objects x with
  | none => simp [Table.arg, HandleArg.lookup, hx] at hlive
  | some object =>
    rcases selects_meter object with ⟨-, hnone⟩ | ⟨m', hkind, hsome, -⟩
    · simp [Table.arg, HandleArg.lookup, hx, hnone] at hlive
    · simp only [Table.arg, HandleArg.lookup, hx, hsome, HandleArg.live.injEq] at hlive
      subst hlive
      cases object with
      | meter m => rw [Option.some.inj hsome]
      | instrument i built => cases hkind
      | bound b attributes => cases hkind

theorem Table.got_meter {provider : HandleArg Backing} {options : Option ScopeOptions} {x : Nat}
    (h : (t.getMeter provider options).1 = .meter (.ok x)) :
    ∃ backing, getMeterWithOptions provider options = .ok backing ∧
      (t.getMeter provider options).2.objects x =
        some (.meter (backing.map fun b => ⟨b.1, b.2⟩)) := by
  rw [Table.getMeter] at h ⊢
  cases hbacking : getMeterWithOptions provider options with
  | error e =>
    rw [hbacking] at h
    cases h
  | ok backing =>
    rw [hbacking] at h
    cases h
    exact ⟨backing, rfl, Function.update_self _ _ _⟩

/-- **A measurement carries what was asked for**: the scope of its meter, the name, description,
unit and boundaries of its instrument, its own value and its own attributes, whatever was called in
between. -/
theorem measured_as_requested {before between later : List (Nat × Call)}
    {provider : HandleArg Backing} {options : Option ScopeOptions} {instrument : SyncInstrument}
    {name : OtelStringView} {instrumentOptions : Option OtelInstrumentOptions} {panics : Bool}
    {x y : Nat} {getMeter create : Nat × Call}
    (hgetMeter : getMeter.2 = .getMeter provider options)
    (hcreate : create.2 = .create instrument (some x) name instrumentOptions false panics)
    (hx : ((after State.step .initial before).step getMeter).1 = .meter (.ok x))
    (hy : ((after State.step .initial (before ++ getMeter :: between)).step create).1 = .created y)
    (hlater : ∀ thread, (thread, Call.destroy (.sync instrument) (some y)) ∉ later) :
    ∃ backing, getMeterWithOptions provider options = .ok backing ∧
      ∀ thread value attributes,
        ((after State.step .initial (before ++ getMeter :: between ++ create :: later)).step
          (thread, .record instrument (some y) value attributes)).1 =
        .recorded (measured
          (backing.map fun b => requested ⟨b.1, b.2⟩ instrument name instrumentOptions)
          false instrument.method ⟨_, value⟩ (collectKeyValues attributes)) := by
  obtain ⟨meterThread, _⟩ := getMeter
  obtain rfl := hgetMeter
  obtain ⟨createThread, _⟩ := create
  obtain rfl := hcreate
  simp only [after_append, after_cons] at hy ⊢
  -- the meter is there after its call,
  have h₀ := simulates.related represents_initial before
  have h₁ := h₀.step (meterThread, .getMeter provider options)
  rw [h₁.1] at hx
  obtain ⟨backing, hbacking, hmeter⟩ := Table.got_meter hx
  -- a live handle stands for it when the instrument is created,
  have h₂ := simulates.related h₁.2 between
  have h₃ := h₂.step (createThread, .create instrument (some x) name instrumentOptions false panics)
  rw [h₃.1] at hy
  obtain ⟨m, hm, hcreated⟩ := Table.created_create hy
  have hlt := h₁.2.tabulates.lt_next h₁.2.next hmeter
  have hold := Table.old_of_after hlt (Table.objects_of_meter hm)
  obtain rfl := Object.meter.inj (Option.some.inj (hmeter.symm.trans hold))
  -- and the instrument is there when the measurement is made
  have hkept := h₃.2.kept hcreated hlater
  have h₄ := simulates.related h₃.2 later
  refine ⟨backing, hbacking, fun thread value attributes => ?_⟩
  rw [(h₄.step (thread, .record instrument (some y) value attributes)).1]
  refine (Table.record_of_objects hkept value attributes).trans ?_
  rw [Option.map_map]
  rfl

/-- The options of a scope without a version, a schema or attributes. -/
def plainScope (name : List UInt8) : ScopeOptions :=
  ⟨72, .elems name, .null 0, .null 0, .null 0⟩

/-- A counter whose meter is destroyed before it is used. -/
theorem measured_as_requested_counter :
    ∃ backing, getMeterWithOptions (.live (some 7)) (some (plainScope [0x6D])) = .ok backing ∧
      ∀ thread value attributes,
        ((after State.step .initial ([] ++ (0, .getMeter (.live (some 7)) (some (plainScope [0x6D]))) ::
          [(1, .elsewhere .timeout)] ++
          (1, .create .otelCounterU64 (some 0) (.elems [0x72]) none false false) ::
          [(0, .destroy .meter (some 0))])).step
          (thread, .record .otelCounterU64 (some 1) value attributes)).1 =
        .recorded (measured
          (backing.map fun b => requested ⟨b.1, b.2⟩ .otelCounterU64 (.elems [0x72]) none)
          false .add ⟨_, value⟩ (collectKeyValues attributes)) :=
  measured_as_requested rfl rfl rfl rfl (by intro thread h; simp at h)

/-- The instrument that a handle stands for. -/
theorem Table.objects_of_instrument {instrument : SyncInstrument} {x : Nat} {built : Option Built}
    (h : checkedRef (t.arg (Object.asInstrument instrument) (some x)) = .ok built) :
    t.objects x = some (.instrument instrument built) := by
  have hlive := live_of_checkedRef h
  cases hx : t.objects x with
  | none => simp [Table.arg, HandleArg.lookup, hx] at hlive
  | some object =>
    rcases selects_instrument instrument object with ⟨-, hnone⟩ | ⟨built', hkind, hsome, -⟩
    · simp [Table.arg, HandleArg.lookup, hx, hnone] at hlive
    · simp only [Table.arg, HandleArg.lookup, hx, hsome, HandleArg.live.injEq] at hlive
      subst hlive
      cases object with
      | meter m => cases hkind
      | instrument i built =>
        obtain rfl := HandleKind.sync.inj hkind
        rw [Object.asInstrument, if_pos rfl] at hsome
        rw [Option.some.inj hsome]
      | bound b attributes => cases hkind

/-- **Binding changes nothing but when the attributes are read**: a bound instrument hands over what
its instrument would have handed over, had it been given the attributes when it was bound. -/
theorem bound_as_unbound {before later : List (Nat × Call)} {bound : BoundInstrument}
    {attributes : CSlice OtelKeyValue} {panics : Bool} {x y : Nat} {bind : Nat × Call}
    (hbind : bind.2 = .bind bound (some x) attributes false panics)
    (hy : ((after State.step .initial before).step bind).1 = .created y)
    (hlater : ∀ thread, (thread, Call.destroy (.bound bound) (some y)) ∉ later) :
    ∃ built,
      (∀ thread value,
        ((after State.step .initial before).step
          (thread, .record bound.definition.source (some x) value attributes)).1 =
        .recorded (measured built false bound.definition.source.method ⟨_, value⟩
          (collectKeyValues attributes))) ∧
      ∀ thread value,
        ((after State.step .initial (before ++ bind :: later)).step
          (thread, .recordBound bound (some y) value)).1 =
        .recorded (measured built true bound.definition.source.method ⟨_, value⟩
          (collectKeyValues attributes)) := by
  obtain ⟨bindThread, _⟩ := bind
  obtain rfl := hbind
  simp only [after_append, after_cons] at hy ⊢
  have h₀ := simulates.related represents_initial before
  have h₁ := h₀.step (bindThread, .bind bound (some x) attributes false panics)
  rw [h₁.1] at hy
  obtain ⟨built, hbuilt, hcreated⟩ := Table.created_bind hy
  refine ⟨built, fun thread value => ?_, fun thread value => ?_⟩
  · rw [(h₀.step (thread, .record bound.definition.source (some x) value attributes)).1]
    exact Table.record_of_objects (Table.objects_of_instrument hbuilt) value attributes
  · rcases hcreated with ⟨rfl, hcreated⟩ | ⟨b, kvs, rfl, hkvs, hcreated⟩
    · have h₂ := simulates.related h₁.2 later
      rw [(h₂.step (thread, .recordBound bound (some y) value)).1]
      exact Table.recordBound_of_objects (h₁.2.kept hcreated hlater) value
    · have h₂ := simulates.related h₁.2 later
      rw [(h₂.step (thread, .recordBound bound (some y) value)).1, hkvs]
      exact Table.recordBound_of_objects (h₁.2.kept hcreated hlater) value

/-- A bound counter that outlives its instrument. -/
theorem bound_as_unbound_counter : ∃ built,
    (∀ thread value,
      ((after State.step .initial [(0, .getMeter (.live (some 7)) (some (plainScope [0x6D]))),
          (0, .create .otelCounterU64 (some 0) (.elems [0x72]) none false false)]).step
        (thread, .record .otelCounterU64 (some 1) value (.null 0))).1 =
      .recorded (measured built false .add ⟨_, value⟩ (collectKeyValues (.null 0)))) ∧
    ∀ thread value,
      ((after State.step .initial ([(0, .getMeter (.live (some 7)) (some (plainScope [0x6D]))),
          (0, .create .otelCounterU64 (some 0) (.elems [0x72]) none false false)] ++
          (1, .bind .otelBoundCounterU64 (some 1) (.null 0) false false) ::
          [(0, .destroy (.sync .otelCounterU64) (some 1))])).step
        (thread, .recordBound .otelBoundCounterU64 (some 2) value)).1 =
      .recorded (measured built true .add ⟨_, value⟩ (collectKeyValues (.null 0))) :=
  @bound_as_unbound _ _ .otelBoundCounterU64 _ _ _ _ _ rfl rfl (by intro thread h; simp at h)

end OtelC.Instruments
