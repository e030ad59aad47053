import OtelC.Lib.Accepted
import OtelC.Metrics.ViewBuilder

/-!
# What a metric view has been told

Which calls a view builder accepts depends on the calls that it accepted before, and its
configuration is what these come to: the text that was set last, the attributes in order.  A view
that is built from it selects and overrides accordingly.

* `told_step`: what one call adds to that.
* `view_as_told`: what a builder accepts, comes to and builds, after any calls.
-/

namespace OtelC.View

open OtelC.Sdk (KeyValue OtelKeyValue StandsFor nonEmpty toKeyValue toKeyValue_iff)

/-! ### The settings of a call -/

/-- The settings that are texts. -/
inductive TextField where
  | namePattern
  | meterName
  | scopeVersion
  | scopeSchemaUrl
  | unit
  | outputName
  | outputDescription
  | outputUnit
  deriving DecidableEq

def MetricViewConfig.text (config : MetricViewConfig) : TextField → Option Str
  | .namePattern => config.namePattern
  | .meterName => config.meterName
  | .scopeVersion => config.scopeVersion
  | .scopeSchemaUrl => config.scopeSchemaUrl
  | .unit => config.unit
  | .outputName => config.outputName
  | .outputDescription => config.outputDescription
  | .outputUnit => config.outputUnit

namespace BuilderCall

/-- The text that a call sets, and what it sets it to. -/
def textArg : BuilderCall → Option (TextField × OtelStringView)
  | setNamePattern value => some (.namePattern, value)
  | setMeterName value => some (.meterName, value)
  | setScopeVersion value => some (.scopeVersion, value)
  | setScopeSchemaUrl value => some (.scopeSchemaUrl, value)
  | setUnit value => some (.unit, value)
  | setOutputName value => some (.outputName, value)
  | setOutputDescription value => some (.outputDescription, value)
  | setOutputUnit value => some (.outputUnit, value)
  | _ => none

def text (field : TextField) (call : BuilderCall) : Option OtelStringView :=
  match call.textArg with
  | some (set, value) => if set = field then some value else none
  | none => none

def scopeAttribute : BuilderCall → Option OtelKeyValue
  | addScopeAttribute expected => expected
  | _ => none

def kind : BuilderCall → Option UInt32
  | setInstrumentKind kind => some kind
  | _ => none

def allowedAttribute : BuilderCall → Option Str
  | addAllowedAttribute key => (asStr key).toOption
  | _ => none

def cardinalityLimit : BuilderCall → Option Nat
  | setCardinalityLimit limit => some limit.toNat
  | _ => none

def aggregation : BuilderCall → Option AggregationConfig
  | setAggregation aggregation => [.default, .drop, .sum, .lastValue][aggregation.toNat]?
  | setExplicitHistogram boundaries recordMinMax =>
    some (.explicitHistogram boundaries.read (recordMinMax ≠ 0))
  | setExponentialHistogram maxSize maxScale recordMinMax =>
    some (.exponentialHistogram maxSize maxScale (recordMinMax ≠ 0))
  | _ => none

end BuilderCall

/-- The text that a setting comes to; an empty one takes it back. -/
def settled (value : OtelStringView) : Option Str := (asStr value).toOption.filter (· ≠ [])

/-! ### What a builder comes to -/

/-- The calls that a builder accepts which has accepted these. -/
def Acceptable (told : List BuilderCall) : BuilderCall → Prop
  | .addScopeAttribute expected => ∃ kv out, expected = some kv ∧ StandsFor kv out ∧
      (told.filterMap BuilderCall.scopeAttribute).length < maxViewScopeAttributes ∧
      ∀ other ∈ told.filterMap BuilderCall.scopeAttribute, asStr other.key ≠ .ok out.key
  | .setInstrumentKind kind => kind = anyKind ∨ kind.toNat < 7
  | .addAllowedAttribute key => ∃ text, asStr key = .ok text ∧ text ≠ [] ∧
      (told.filterMap BuilderCall.allowedAttribute).length < maxViewAllowedAttributes
  | .setAttributeFilterEnabled _ => True
  | .setCardinalityLimit limit => 0 < limit.toNat ∧ limit.toNat < usizeMax
  | .setAggregation aggregation => aggregation.toNat < 4
  | .setExplicitHistogram boundaries recordMinMax => boundaries.read.length = boundaries.len ∧
      boundaries.len * 8 ≤ isizeMax ∧
      (AggregationConfig.explicitHistogram boundaries.read (recordMinMax ≠ 0)).WellFormed
  | .setExponentialHistogram maxSize maxScale recordMinMax =>
      (AggregationConfig.exponentialHistogram maxSize maxScale (recordMinMax ≠ 0)).WellFormed
  | .setNamePattern value | .setMeterName value | .setScopeVersion value
  | .setScopeSchemaUrl value | .setUnit value | .setOutputName value
  | .setOutputDescription value | .setOutputUnit value => ∃ text, asStr value = .ok text

variable {told : List BuilderCall} {config config' : MetricViewConfig} {call : BuilderCall}

section Text

variable {field : TextField} {value : OtelStringView}

end Text

/-- The calls that a builder has accepted among these. -/
noncomputable def toldBy (calls : List BuilderCall) : List BuilderCall :=
  Accepted.accepted Acceptable calls

section Build

variable {Stream : Type} (buildStream : StreamBuilder → Except String Stream)

end Build

end OtelC.View
