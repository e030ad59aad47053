import OtelC.Lib.Double
import OtelC.Metrics.View

/-!
# The builder of a metric view

A builder starts with no criterion and no override and is then told them one call at a time.  A call
that is refused leaves the builder as it was.  Whatever the calls, the configuration that a view is
built from stays well formed.

* `wellFormed_step`: every call keeps the configuration well formed.
* `wellFormed_run`: so the configuration of every builder is.
-/

namespace OtelC.View

open OtelC.Sdk (F64Bits KeyValue OtelKeyValue toKeyValue nonEmpty)

/-! ### The calls -/

/-- `default_config`. -/
def defaultConfig : MetricViewConfig where
  namePattern := none
  meterName := none
  scopeVersion := none
  scopeSchemaUrl := none
  scopeAttributes := []
  unit := none
  kind := anyKind
  outputName := none
  outputDescription := none
  outputUnit := none
  attributeFilterEnabled := false
  allowedAttributes := []
  cardinalityLimit := none
  aggregation := .default

/-- `MAX_VIEW_SCOPE_ATTRIBUTES`. -/
def maxViewScopeAttributes : Nat := 256

/-- `MAX_VIEW_ALLOWED_ATTRIBUTES`. -/
def maxViewAllowedAttributes : Nat := 1024

/-- What a call makes of the configuration, unless it is refused. -/
abbrev Setter := MetricViewConfig → Except Fail MetricViewConfig

/-- `set_optional_string`: an empty text takes the setting back. -/
def setOptionalString (set : MetricViewConfig → Option Str → MetricViewConfig)
    (value : OtelStringView) : Setter := fun config => do
  let value ← asStr value
  .ok (set config (nonEmpty value))

def setNamePattern : OtelStringView → Setter :=
  setOptionalString fun config value => { config with namePattern := value }

def setMeterName : OtelStringView → Setter :=
  setOptionalString fun config value => { config with meterName := value }

def setScopeVersion : OtelStringView → Setter :=
  setOptionalString fun config value => { config with scopeVersion := value }

def setScopeSchemaUrl : OtelStringView → Setter :=
  setOptionalString fun config value => { config with scopeSchemaUrl := value }

def setUnit : OtelStringView → Setter :=
  setOptionalString fun config value => { config with unit := value }

def setOutputName : OtelStringView → Setter :=
  setOptionalString fun config value => { config with outputName := value }

def setOutputDescription : OtelStringView → Setter :=
  setOptionalString fun config value => { config with outputDescription := value }

def setOutputUnit : OtelStringView → Setter :=
  setOptionalString fun config value => { config with outputUnit := value }

def addScopeAttribute (expected : Option OtelKeyValue) : Setter := fun config =>
  match expected with
  | none => fail .invalidArgument "scope attribute must not be NULL"
  | some expected =>
    if config.scopeAttributes.length ≥ maxViewScopeAttributes then
      fail .invalidConfig "Metrics view scope attribute limit exceeded"
    else do
      let expected ← toKeyValue expected
      if config.scopeAttributes.any fun existing => existing.key == expected.key then
        fail .invalidArgument "duplicate scope attribute matcher key"
      else .ok { config with scopeAttributes := config.scopeAttributes ++ [expected] }

def setInstrumentKind (kind : UInt32) : Setter := fun config =>
  if kind ≠ anyKind ∧ OtelMetricInstrumentKind.fromU32 kind = none then
    fail .invalidArgument "unknown metric instrument kind"
  else .ok { config with kind }

def addAllowedAttribute (key : OtelStringView) : Setter := fun config =>
  if config.allowedAttributes.length ≥ maxViewAllowedAttributes then
    fail .invalidConfig "Metrics view allowed attribute limit exceeded"
  else do
    let key ← asStr key
    if key.isEmpty then fail .invalidArgument "allowed attribute key must not be empty"
    else .ok { config with
      attributeFilterEnabled := true
      allowedAttributes := config.allowedAttributes ++ [key] }

def setAttributeFilterEnabled (enabled : UInt32) : Setter := fun config =>
  .ok { config with attributeFilterEnabled := enabled ≠ 0 }

/-- `usize::MAX` on a 64-bit target. -/
def usizeMax : Nat := 2 ^ 64 - 1

def setCardinalityLimit (limit : UInt64) : Setter := fun config =>
  if limit.toNat > 0 ∧ limit.toNat < usizeMax then
    .ok { config with cardinalityLimit := some limit.toNat }
  else fail .invalidConfig "cardinality limit must be between 1 and usize::MAX - 1"

def setAggregation (aggregation : UInt32) : Setter := fun config =>
  match aggregation.toNat with
  | 0 => .ok { config with aggregation := .default }
  | 1 => .ok { config with aggregation := .drop }
  | 2 => .ok { config with aggregation := .sum }
  | 3 => .ok { config with aggregation := .lastValue }
  | _ =>
    fail .invalidArgument "aggregation requires explicit histogram configuration or is unknown"

/-- `copy_boundaries`. -/
def copyBoundaries (boundaries : CSlice F64Bits) : Except Fail (List F64Bits) :=
  if boundaries.len = 0 then .ok []
  else if boundaries.isNull || !decide (boundaries.len * 8 ≤ isizeMax) then
    fail .invalidArgument "invalid explicit histogram boundary array"
  else if boundaries.read.any (fun value => !Double.isFinite value) ||
      (boundaries.read.zip boundaries.read.tail).any (fun pair => Double.ge pair.1 pair.2) then
    fail .invalidConfig "explicit histogram boundaries must be finite and strictly increasing"
  else .ok boundaries.read

def setExplicitHistogram (boundaries : CSlice F64Bits) (recordMinMax : UInt32) : Setter :=
  fun config => do
    let boundaries ← copyBoundaries boundaries
    .ok { config with aggregation := .explicitHistogram boundaries (recordMinMax ≠ 0) }

def setExponentialHistogram (maxSize : UInt32) (maxScale : Int8) (recordMinMax : UInt32) : Setter :=
  fun config =>
    if maxSize = 0 ∨ ¬(-10 ≤ maxScale.toInt ∧ maxScale.toInt ≤ 20) then
      fail .invalidConfig
        "exponential histogram requires max_size > 0 and max_scale in [-10, 20]"
    else .ok { config with
      aggregation := .exponentialHistogram maxSize maxScale (recordMinMax ≠ 0) }

/-- The calls that change a builder, `otel_metric_view_builder_…`. -/
inductive BuilderCall where
  | setNamePattern (value : OtelStringView)
  | setMeterName (value : OtelStringView)
  | setScopeVersion (value : OtelStringView)
  | setScopeSchemaUrl (value : OtelStringView)
  | setUnit (value : OtelStringView)
  | setOutputName (value : OtelStringView)
  | setOutputDescription (value : OtelStringView)
  | setOutputUnit (value : OtelStringView)
  | addScopeAttribute (expected : Option OtelKeyValue)
  | setInstrumentKind (kind : UInt32)
  | addAllowedAttribute (key : OtelStringView)
  | setAttributeFilterEnabled (enabled : UInt32)
  | setCardinalityLimit (limit : UInt64)
  | setAggregation (aggregation : UInt32)
  | setExplicitHistogram (boundaries : CSlice F64Bits) (recordMinMax : UInt32)
  | setExponentialHistogram (maxSize : UInt32) (maxScale : Int8) (recordMinMax : UInt32)

def BuilderCall.setter : BuilderCall → Setter
  | .setNamePattern value => View.setNamePattern value
  | .setMeterName value => View.setMeterName value
  | .setScopeVersion value => View.setScopeVersion value
  | .setScopeSchemaUrl value => View.setScopeSchemaUrl value
  | .setUnit value => View.setUnit value
  | .setOutputName value => View.setOutputName value
  | .setOutputDescription value => View.setOutputDescription value
  | .setOutputUnit value => View.setOutputUnit value
  | .addScopeAttribute expected => View.addScopeAttribute expected
  | .setInstrumentKind kind => View.setInstrumentKind kind
  | .addAllowedAttribute key => View.addAllowedAttribute key
  | .setAttributeFilterEnabled enabled => View.setAttributeFilterEnabled enabled
  | .setCardinalityLimit limit => View.setCardinalityLimit limit
  | .setAggregation aggregation => View.setAggregation aggregation
  | .setExplicitHistogram boundaries recordMinMax =>
    View.setExplicitHistogram boundaries recordMinMax
  | .setExponentialHistogram maxSize maxScale recordMinMax =>
    View.setExponentialHistogram maxSize maxScale recordMinMax

/-- `with_builder` on a live builder: the status, and the configuration afterwards. -/
def withBuilder (setter : Setter) (config : MetricViewConfig) : OtelStatus × MetricViewConfig :=
  match setter config with
  | .ok config' => (.ok, config')
  | .error e => (e.status, config)

/-- The configuration of a new builder after these calls. -/
def configAfter (calls : List BuilderCall) : MetricViewConfig :=
  calls.foldl (fun config call => (withBuilder call.setter config).2) defaultConfig

/-! ### What every builder keeps -/

/-- A parameterized aggregation has parameters that were checked. -/
def AggregationConfig.WellFormed : AggregationConfig → Prop
  | .explicitHistogram boundaries _ =>
    (∀ b ∈ boundaries, Double.isFinite b = true) ∧
      boundaries.Pairwise fun a b => Double.order a < Double.order b
  | .exponentialHistogram maxSize maxScale _ =>
    maxSize ≠ 0 ∧ -10 ≤ maxScale.toInt ∧ maxScale.toInt ≤ 20
  | _ => True

structure WellFormed (config : MetricViewConfig) : Prop where
  /-- An empty text is no criterion and no override. -/
  texts : ∀ text ∈ [config.namePattern, config.meterName, config.scopeVersion,
    config.scopeSchemaUrl, config.unit, config.outputName, config.outputDescription,
    config.outputUnit], text ≠ some []
  scopeAttributes : config.scopeAttributes.length ≤ maxViewScopeAttributes
  scopeKeys : (config.scopeAttributes.map KeyValue.key).Nodup
  kind : config.kind = anyKind ∨ OtelMetricInstrumentKind.fromU32 config.kind ≠ none
  allowedAttributes : config.allowedAttributes.length ≤ maxViewAllowedAttributes
  allowedKeys : ∀ key ∈ config.allowedAttributes, key ≠ []
  cardinalityLimit : ∀ limit ∈ config.cardinalityLimit, 0 < limit ∧ limit < usizeMax
  aggregation : config.aggregation.WellFormed

theorem wellFormed_default : WellFormed defaultConfig where
  texts := by decide
  scopeAttributes := by decide
  scopeKeys := List.nodup_nil
  kind := .inl rfl
  allowedAttributes := by decide
  allowedKeys key hkey := by cases hkey
  cardinalityLimit limit hlimit := by cases hlimit
  aggregation := trivial

theorem nonEmpty_ne (text : Str) : nonEmpty text ≠ some [] := by
  cases text with
  | nil => simp [nonEmpty]
  | cons c text => simp [nonEmpty]

/-- What a text setter leaves as it is, and that it does not set an empty text. -/
theorem wellFormed_setOptionalString {set : MetricViewConfig → Option Str → MetricViewConfig}
    {value : OtelStringView} {config config' : MetricViewConfig}
    (hset : ∀ text, text ≠ some [] → WellFormed (set config text))
    (h : setOptionalString set value config = .ok config') : WellFormed config' := by
  obtain ⟨text, -, hok⟩ := Checked.bind_eq_ok.mp h
  rw [← Except.ok.inj hok]
  exact hset _ (nonEmpty_ne text)

theorem asStr_ne_nil {key : Str} (h : ¬key.isEmpty = true) : key ≠ [] := by
  rintro rfl
  exact h rfl

theorem wellFormed_addScopeAttribute {expected : Option OtelKeyValue}
    {config config' : MetricViewConfig} (hconfig : WellFormed config)
    (h : addScopeAttribute expected config = .ok config') : WellFormed config' := by
  cases expected with
  | none => cases h
  | some expected =>
    rw [addScopeAttribute] at h
    by_cases hlimit : config.scopeAttributes.length ≥ maxViewScopeAttributes
    · rw [if_pos hlimit] at h
      cases h
    rw [if_neg hlimit] at h
    obtain ⟨kv, -, hok⟩ := Checked.bind_eq_ok.mp h
    by_cases hdup : (config.scopeAttributes.any fun existing => existing.key == kv.key) = true
    · rw [if_pos hdup] at hok
      cases hok
    rw [if_neg hdup] at hok
    rw [← Except.ok.inj hok]
    have hnew : kv.key ∉ config.scopeAttributes.map KeyValue.key := by
      intro hmem
      obtain ⟨existing, hexisting, hkey⟩ := List.mem_map.mp hmem
      exact hdup (List.any_eq_true.mpr ⟨existing, hexisting, by simp [hkey]⟩)
    refine { hconfig with scopeAttributes := ?_, scopeKeys := ?_ }
    · rw [List.length_append, List.length_singleton]
      omega
    · rw [List.map_append, List.nodup_append]
      refine ⟨hconfig.scopeKeys, List.nodup_singleton _, ?_⟩
      rintro a ha b hb rfl
      rw [List.map_singleton, List.mem_singleton] at hb
      exact hnew (hb ▸ ha)

theorem wellFormed_addAllowedAttribute {key : OtelStringView} {config config' : MetricViewConfig}
    (hconfig : WellFormed config) (h : addAllowedAttribute key config = .ok config') :
    WellFormed config' := by
  rw [addAllowedAttribute] at h
  by_cases hlimit : config.allowedAttributes.length ≥ maxViewAllowedAttributes
  · rw [if_pos hlimit] at h
    cases h
  rw [if_neg hlimit] at h
  obtain ⟨text, -, hok⟩ := Checked.bind_eq_ok.mp h
  by_cases hempty : text.isEmpty = true
  · rw [if_pos hempty] at hok
    cases hok
  rw [if_neg hempty] at hok
  rw [← Except.ok.inj hok]
  refine { hconfig with allowedAttributes := ?_, allowedKeys := ?_ }
  · rw [List.length_append, List.length_singleton]
    omega
  · intro k hk
    obtain hk | hk := List.mem_append.mp hk
    · exact hconfig.allowedKeys k hk
    · rw [List.mem_singleton.mp hk]
      exact asStr_ne_nil hempty

theorem wellFormed_copyBoundaries {boundaries : CSlice F64Bits} {values : List F64Bits}
    (h : copyBoundaries boundaries = .ok values) (recordMinMax : Bool) :
    (AggregationConfig.explicitHistogram values recordMinMax).WellFormed := by
  rw [copyBoundaries] at h
  split_ifs at h with hlen hnull hbad
  · rw [← Except.ok.inj h]
    refine ⟨?_, List.Pairwise.nil⟩
    intro b hb
    cases hb
  · cases h
  · cases h
  · rw [← Except.ok.inj h]
    rw [Bool.not_eq_true, Bool.or_eq_false_iff, List.any_eq_false, List.any_eq_false] at hbad
    have hfinite : ∀ b ∈ boundaries.read, Double.isFinite b = true :=
      fun b hb => by simpa using hbad.1 b hb
    exact ⟨hfinite, Double.pairwise_order hfinite fun pair hpair => by simpa using hbad.2 pair hpair⟩

/-- **Every call keeps the configuration well formed.** -/
theorem wellFormed_step {call : BuilderCall} {config config' : MetricViewConfig}
    (hconfig : WellFormed config) (h : call.setter config = .ok config') : WellFormed config' := by
  have htexts := hconfig.texts
  simp only [List.mem_cons, List.not_mem_nil, or_false, forall_eq_or_imp, forall_eq] at htexts
  cases call with
  | addScopeAttribute expected => exact wellFormed_addScopeAttribute hconfig h
  | addAllowedAttribute key => exact wellFormed_addAllowedAttribute hconfig h
  | setInstrumentKind kind =>
    simp only [BuilderCall.setter, setInstrumentKind] at h
    split_ifs at h with hunknown
    · cases h
    · rw [← Except.ok.inj h]
      refine { hconfig with kind := ?_ }
      by_cases hany : kind = anyKind
      · exact .inl hany
      · exact .inr fun hnone => hunknown ⟨hany, hnone⟩
  | setAttributeFilterEnabled enabled =>
    rw [← Except.ok.inj h]
    exact { hconfig with }
  | setCardinalityLimit limit =>
    simp only [BuilderCall.setter, setCardinalityLimit] at h
    split_ifs at h with hrange
    · rw [← Except.ok.inj h]
      refine { hconfig with cardinalityLimit := ?_ }
      rintro _ ⟨⟩
      exact hrange
    · cases h
  | setAggregation aggregation =>
    have hset : ∀ simple : AggregationConfig, simple.WellFormed →
        .ok { config with aggregation := simple } = (.ok config' : Except Fail MetricViewConfig) →
        WellFormed config' := by
      intro simple hsimple hok
      rw [← Except.ok.inj hok]
      exact { hconfig with aggregation := hsimple }
    simp only [BuilderCall.setter, setAggregation] at h
    split at h
    · exact hset .default trivial h
    · exact hset .drop trivial h
    · exact hset .sum trivial h
    · exact hset .lastValue trivial h
    · cases h
  | setExplicitHistogram boundaries recordMinMax =>
    obtain ⟨values, hvalues, hok⟩ := Checked.bind_eq_ok.mp h
    rw [← Except.ok.inj hok]
    exact { hconfig with aggregation := wellFormed_copyBoundaries hvalues _ }
  | setExponentialHistogram maxSize maxScale recordMinMax =>
    simp only [BuilderCall.setter, setExponentialHistogram] at h
    split_ifs at h with hbad
    · cases h
    · rw [← Except.ok.inj h]
      rw [not_or, not_not] at hbad
      exact { hconfig with aggregation := hbad }
  | _ value =>
    -- the text setters
    simp only [BuilderCall.setter, setNamePattern, setMeterName, setScopeVersion,
      setScopeSchemaUrl, setUnit, setOutputName, setOutputDescription, setOutputUnit] at h
    refine wellFormed_setOptionalString (fun text htext => ?_) h
    exact { hconfig with texts := by simp [htext, htexts] }

/-- The configuration of a builder is well formed after any calls, refused ones included. -/
theorem wellFormed_run (calls : List BuilderCall) : WellFormed (configAfter calls) := by
  induction calls using List.reverseRecOn with
  | nil => exact wellFormed_default
  | append_singleton calls call ih =>
    rw [configAfter, List.foldl_append, List.foldl_cons, List.foldl_nil, ← configAfter]
    rw [withBuilder]
    cases h : call.setter (configAfter calls) with
    | ok config => exact wellFormed_step ih h
    | error e => exact ih

end OtelC.View
