import OtelC.Sdk.Attributes
import OtelC.Lib.Keyed
import OtelC.Lib.Run

/-!
# Resources and instrumentation scopes

What the SDK builder collects for the resource of its providers, and what a logger is created for.  The
resource itself is a hash map of another package, in which the value set last for a key stands.
-/

namespace OtelC.Sdk

/-! ### The resource of a builder -/

/-- `MAX_RESOURCE_ATTRIBUTES`. -/
def maxResourceAttributes : Nat := 1024

/-- The fields of `OtelSdkBuilder` from which its resource is built. -/
structure ResourceSettings where
  serviceName : Option Str
  resourceAttributes : List KeyValue

/-- `otel_sdk_builder_new`. -/
def ResourceSettings.new : ResourceSettings := ⟨none, []⟩

/-- `otel_sdk_builder_set_service_name`. -/
def setServiceName (builder : ResourceSettings) (name : OtelStringView) :
    Except Fail ResourceSettings := do
  let name ← asStr name
  .ok { builder with serviceName := some name }

/-- `otel_sdk_builder_add_resource_attribute`. -/
def addResourceAttribute (builder : ResourceSettings) (kv : OtelKeyValue) :
    Except Fail ResourceSettings :=
  if builder.resourceAttributes.length ≥ maxResourceAttributes then
    fail .invalidConfig "SDK builder resource attribute limit exceeded"
  else do
    let kv ← toKeyValue kv
    .ok { builder with resourceAttributes := builder.resourceAttributes ++ [kv] }

/-- A call that changes the resource of a builder. -/
inductive ResourceCall where
  | setServiceName (name : OtelStringView)
  | addResourceAttribute (kv : OtelKeyValue)

/-- A call on a builder, which a failed call leaves as it was. -/
def ResourceSettings.step (builder : ResourceSettings) (call : ResourceCall) : ResourceSettings :=
  let result := match call with
    | .setServiceName name => Sdk.setServiceName builder name
    | .addResourceAttribute kv => Sdk.addResourceAttribute builder kv
  match result with
  | .ok builder => builder
  | .error _ => builder

/-- What `build_resource` sets, in order. -/
def ResourceSettings.settings (builder : ResourceSettings) : List KeyValue :=
  (builder.serviceName.toList.map fun name => ⟨lit "service.name", .string name⟩) ++
    builder.resourceAttributes

/-- `opentelemetry_sdk::Resource`; the attributes in the order in which they are walked. -/
structure Resource where
  schemaUrl : Option Str
  attributes : List KeyValue

/-- The settings that stand: the last for each key. -/
def effective (settings : List KeyValue) : List KeyValue :=
  Keyed.lastWins KeyValue.key settings.length settings

/-- The resource returns what was detected and set, each key with the value set last. -/
structure Resource.IsBuilt (resource : Resource) (detected : Resource)
    (builder : ResourceSettings) : Prop where
  schemaUrl : resource.schemaUrl = detected.schemaUrl
  attributes : resource.attributes.Perm (effective (detected.attributes ++ builder.settings))

/-! ### Scopes -/

structure OtelScopeConfig where
  name : OtelStringView
  version : OtelStringView
  schemaUrl : OtelStringView
  attributes : CSlice OtelKeyValue

/-- `opentelemetry::InstrumentationScope`. -/
structure InstrumentationScope where
  name : Str
  version : Option Str
  schemaUrl : Option Str
  attributes : List KeyValue

/-- A text that counts as absent when it is empty. -/
def nonEmpty (text : Str) : Option Str := if text.isEmpty then none else some text

/-- `build_logger` of the SDK's vtable, up to the scope of the logger it creates. -/
def buildLogger (providerCtxIsNull : Bool) (scope : OtelScopeConfig) :
    Except Fail InstrumentationScope :=
  if providerCtxIsNull then fail .invalidArgument "logs provider context is NULL"
  else do
    let name ← asStr scope.name
    let version ← asStr scope.version
    let schemaUrl ← asStr scope.schemaUrl
    let attributes ← collectUniqueKeyValues scope.attributes
    .ok ⟨name, nonEmpty version, nonEmpty schemaUrl, attributes⟩

/-! ### What is collected -/

/-- A value that is no array. -/
def Value.IsScalar : Value → Prop
  | .array _ => False
  | _ => True

theorem toKeyValue_scalar {kv : OtelKeyValue} {out : KeyValue} (h : toKeyValue kv = .ok out) :
    out.value.IsScalar := by
  obtain ⟨key, -, h⟩ := Checked.bind_eq_ok.mp h
  obtain ⟨-, h⟩ := Checked.guard_eq_ok.mp h
  split at h
  · obtain ⟨s, -, h⟩ := Checked.bind_eq_ok.mp h
    obtain rfl := Except.ok.inj h
    trivial
  · obtain rfl := Except.ok.inj h
    trivial
  · obtain rfl := Except.ok.inj h
    trivial
  · obtain rfl := Except.ok.inj h
    trivial
  · cases h

/-- Attributes that convert are collected in order, up to the limit. -/
theorem run_addResourceAttribute {kvs : List OtelKeyValue} {values : List KeyValue}
    {builder : ResourceSettings} (h : kvs.mapM toKeyValue = .ok values)
    (hroom : builder.resourceAttributes.length + kvs.length ≤ maxResourceAttributes) :
    Run.run ResourceSettings.step builder (kvs.map .addResourceAttribute) =
      { builder with resourceAttributes := builder.resourceAttributes ++ values } := by
  induction kvs generalizing builder values with
  | nil =>
    rw [Checked.mapM_nil] at h
    obtain rfl := Except.ok.inj h
    rw [List.append_nil]
    rfl
  | cons kv kvs ih =>
    rw [Checked.mapM_cons] at h
    obtain ⟨value, hvalue, h⟩ := Checked.bind_eq_ok.mp h
    obtain ⟨rest, hrest, h⟩ := Checked.bind_eq_ok.mp h
    obtain rfl := Except.ok.inj h
    rw [List.length_cons] at hroom
    have hlimit : ¬builder.resourceAttributes.length ≥ maxResourceAttributes := by omega
    have hstep : builder.step (.addResourceAttribute kv) =
        { builder with resourceAttributes := builder.resourceAttributes ++ [value] } := by
      simp only [ResourceSettings.step, addResourceAttribute, if_neg hlimit, hvalue,
        Checked.ok_bind]
    have hnext : (builder.resourceAttributes ++ [value]).length + kvs.length ≤
        maxResourceAttributes := by
      rw [List.length_append, List.length_singleton]
      omega
    rw [List.map_cons, Run.run_cons, hstep, ih hrest hnext, List.append_assoc,
      List.singleton_append]

theorem collectKeyValues_scalar {attributes : CSlice OtelKeyValue} {values : List KeyValue}
    (h : collectKeyValues attributes = .ok values) : ∀ kv ∈ values, kv.value.IsScalar := by
  rw [collectKeyValues] at h
  split at h
  · obtain rfl := Except.ok.inj h
    intro kv hkv
    cases hkv
  · obtain ⟨-, h⟩ := Checked.guard_eq_ok.mp h
    obtain ⟨-, h⟩ := Checked.guard_eq_ok.mp h
    obtain ⟨-, h⟩ := Checked.guard_eq_ok.mp h
    exact Checked.forall_mem_of_mapM h fun _ _ => toKeyValue_scalar

/-- A builder collects scalars only, and no more than its limit. -/
structure ResourceSettings.Ok (builder : ResourceSettings) : Prop where
  scalar : ∀ kv ∈ builder.settings, kv.value.IsScalar
  count : builder.resourceAttributes.length ≤ maxResourceAttributes

theorem settings_mem {builder : ResourceSettings} {kv : KeyValue} :
    kv ∈ builder.settings ↔
      (∃ name ∈ builder.serviceName, kv = ⟨lit "service.name", .string name⟩) ∨
        kv ∈ builder.resourceAttributes := by
  rw [ResourceSettings.settings, List.mem_append, List.mem_map]
  simp only [Option.mem_toList, Option.mem_def, eq_comm]

theorem ok_step {builder : ResourceSettings} (h : builder.Ok) (call : ResourceCall) :
    (builder.step call).Ok := by
  cases call with
  | setServiceName name =>
    rw [ResourceSettings.step]
    split
    · rename_i builder' hok
      obtain ⟨s, -, hok⟩ := Checked.bind_eq_ok.mp hok
      obtain rfl := Except.ok.inj hok
      refine ⟨fun kv hkv => ?_, h.count⟩
      rcases settings_mem.mp hkv with ⟨name', -, rfl⟩ | hkv
      · trivial
      · exact h.scalar kv (settings_mem.mpr (.inr hkv))
    · exact h
  | addResourceAttribute given =>
    rw [ResourceSettings.step]
    split
    · rename_i builder' hok
      obtain ⟨hcount, hok⟩ := Checked.guard_eq_ok.mp hok
      obtain ⟨kv', hkv', hok⟩ := Checked.bind_eq_ok.mp hok
      obtain rfl := Except.ok.inj hok
      refine ⟨fun kv hkv => ?_, ?_⟩
      · rcases settings_mem.mp hkv with hname | hkv
        · exact h.scalar kv (settings_mem.mpr (.inl hname))
        · rcases List.mem_append.mp hkv with hkv | hkv
          · exact h.scalar kv (settings_mem.mpr (.inr hkv))
          · obtain rfl := List.mem_singleton.mp hkv
            exact toKeyValue_scalar hkv'
      · show (builder.resourceAttributes ++ [kv']).length ≤ _
        rw [List.length_append, List.length_singleton]
        exact Nat.not_le.mp hcount
    · exact h

/-- Whatever is called on a new builder, it collects scalars within its limit. -/
theorem ok_run (calls : List ResourceCall) :
    (Run.run ResourceSettings.step ResourceSettings.new calls).Ok :=
  Run.run_invariant ⟨fun kv hkv => by simp [ResourceSettings.settings, ResourceSettings.new] at hkv,
    Nat.zero_le _⟩ fun _ call _ h => ok_step h call

theorem buildLogger_scalar {isNull : Bool} {config : OtelScopeConfig}
    {scope : InstrumentationScope} (h : buildLogger isNull config = .ok scope) :
    ∀ kv ∈ scope.attributes, kv.value.IsScalar := by
  obtain ⟨-, h⟩ := Checked.guard_eq_ok.mp h
  obtain ⟨name, -, h⟩ := Checked.bind_eq_ok.mp h
  obtain ⟨version, -, h⟩ := Checked.bind_eq_ok.mp h
  obtain ⟨schemaUrl, -, h⟩ := Checked.bind_eq_ok.mp h
  obtain ⟨attributes, hattributes, h⟩ := Checked.bind_eq_ok.mp h
  obtain rfl := Except.ok.inj h
  obtain ⟨values, hvalues, h⟩ := Checked.bind_eq_ok.mp hattributes
  split at h
  · obtain rfl := Except.ok.inj h
    exact collectKeyValues_scalar hvalues
  · cases h

end OtelC.Sdk
