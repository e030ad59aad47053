import OtelC.Sdk.Resource

/-!
# Acquiring a meter or a logger

The API checks the options of an instrumentation scope before it asks the SDK for a meter or a
logger, and the SDK checks them once more while it makes its own copy.

* `validateScopeAttributes_iff`: both checks accept the same attributes.
* `getMeterWithOptions_iff`, `getLoggerWithOptions_iff`: what is accepted, and the scope it gives.
-/

namespace OtelC.Scopes

open OtelC.Sdk

/-! ### The API -/

/-- `MAX_SCOPE_ATTRIBUTES`. -/
def maxScopeAttributes : Nat := 1048576

/-- One attribute in `validate_scope_attributes`, after the keys before it. -/
def checkAttribute (keys : List Str) (kv : OtelKeyValue) : Except Fail (List Str) := do
  let key ← asStr kv.key
  if key.isEmpty then fail .invalidArgument "scope attribute key must not be empty"
  else if keys.contains key then fail .invalidArgument "duplicate scope attribute key"
  else match kv.valueType.toNat with
    | 0 => do
      let _ ← asStr kv.value.stringValue
      .ok (key :: keys)
    | 1 => .ok (key :: keys)
    | 2 => .ok (key :: keys)
    | 3 => .ok (key :: keys)
    | _ => fail .invalidArgument "unknown scope attribute value type"

/-- `validate_scope_attributes`. -/
def validateScopeAttributes (attributes : CSlice OtelKeyValue) : Except Fail Unit :=
  if attributes.len = 0 then .ok ()
  else if attributes.isNull then
    fail .invalidArgument "scope attribute array is NULL with non-zero count"
  else if maxScopeAttributes < attributes.len then
    fail .invalidArgument "scope attribute count exceeds the maximum supported value"
  else if isizeMax < attributes.len * sizeOfKeyValue then
    fail .invalidArgument "scope attribute array exceeds the maximum supported size"
  else do
    let _ ← attributes.read.foldlM checkAttribute []
    .ok ()

/-- `OtelMeterOptionsV1` and `OtelLoggerOptionsV1`. -/
structure ScopeOptions where
  structSize : UInt64
  name : OtelStringView
  version : OtelStringView
  schemaUrl : OtelStringView
  attributes : CSlice OtelKeyValue

/-- `OTEL_METER_OPTIONS_V1_SIZE` and `OTEL_LOGGER_OPTIONS_V1_SIZE`. -/
def scopeOptionsV1Size : UInt64 := 72

/-- The scope that is handed to the SDK. -/
def ScopeOptions.config (options : ScopeOptions) : OtelScopeConfig :=
  ⟨options.name, options.version, options.schemaUrl, options.attributes⟩

/-- `build_meter` of the SDK's vtable, up to the scope of the meter it creates; for a NULL provider
it returns NULL without a message. -/
def buildMeter (scope : OtelScopeConfig) : Except Fail InstrumentationScope := do
  let name ← asStr scope.name
  let version ← asStr scope.version
  let schemaUrl ← asStr scope.schemaUrl
  let attributes ← collectUniqueKeyValues scope.attributes
  .ok ⟨name, nonEmpty version, nonEmpty schemaUrl, attributes⟩

/-- The provider behind a provider handle: one of the SDK, or none that was installed. -/
abbrev Backing := Option Nat

/-- `otel_meter_provider_get_meter_with_options`, with the SDK behind the provider; the meter of a
provider without an SDK has no scope. -/
def getMeterWithOptions (provider : HandleArg Backing) (options : Option ScopeOptions) :
    Except Fail (Option (Nat × InstrumentationScope)) := do
  let provider ← checkedRef provider
  match options with
  | none => fail .invalidArgument "meter options must not be NULL"
  | some options =>
    if options.structSize < scopeOptionsV1Size then
      fail .invalidArgument "meter options struct_size is smaller than the supported prefix"
    else do
      let _ ← asStr options.name
      let _ ← asStr options.version
      let _ ← asStr options.schemaUrl
      validateScopeAttributes options.attributes
      match provider with
      | none => .ok none
      | some ctx => do
        let scope ← buildMeter options.config
        .ok (some (ctx, scope))

/-- `otel_logger_provider_get_logger_with_options`, with the SDK behind the provider. -/
def getLoggerWithOptions (provider : HandleArg Backing) (options : Option ScopeOptions) :
    Except Fail (Option (Nat × InstrumentationScope)) := do
  let provider ← checkedRef provider
  match options with
  | none => fail .invalidArgument "logger options must not be NULL"
  | some options =>
    if options.structSize < scopeOptionsV1Size then
      fail .invalidArgument "logger options struct_size is smaller than the supported prefix"
    else do
      let name ← asStr options.name
      if name.isEmpty then
        fail .invalidConfig "logger instrumentation name must not be empty"
      else do
        let _ ← asStr options.version
        let _ ← asStr options.schemaUrl
        validateScopeAttributes options.attributes
        match provider with
        | none => .ok none
        | some ctx => do
          let scope ← buildLogger false options.config
          .ok (some (ctx, scope))

/-! ### Attributes -/

/-- The API accepts an attribute when the SDK does and its key is new. -/
theorem checkAttribute_iff {keys keys' : List Str} {kv : OtelKeyValue} :
    checkAttribute keys kv = .ok keys' ↔
      ∃ out, StandsFor kv out ∧ out.key ∉ keys ∧ keys' = out.key :: keys := by
  rw [checkAttribute, Checked.bind_eq_ok]
  constructor
  · rintro ⟨key, hkey, h⟩
    obtain ⟨hne, h⟩ := Checked.guard_eq_ok.mp h
    obtain ⟨hfresh, h⟩ := Checked.guard_eq_ok.mp h
    rw [List.isEmpty_iff] at hne
    rw [List.contains_iff_mem] at hfresh
    have hvalue : (∃ value, taggedValue kv = .ok value) ∧ keys' = key :: keys := by
      rw [taggedValue]
      rcases htag : kv.valueType.toNat with _ | _ | _ | _ | n <;> rw [htag] at h
      · obtain ⟨s, hs, h⟩ := Checked.bind_eq_ok.mp h
        cases h
        exact ⟨⟨.string s, Checked.bind_eq_ok.mpr ⟨s, hs, rfl⟩⟩, rfl⟩
      · cases h
        exact ⟨⟨_, rfl⟩, rfl⟩
      · cases h
        exact ⟨⟨_, rfl⟩, rfl⟩
      · cases h
        exact ⟨⟨_, rfl⟩, rfl⟩
      · cases h
    obtain ⟨⟨value, hvalue⟩, rfl⟩ := hvalue
    exact ⟨⟨key, value⟩, ⟨hkey, hne, hvalue⟩, hfresh, rfl⟩
  · rintro ⟨out, ⟨hkey, hne, h⟩, hfresh, rfl⟩
    refine ⟨out.key, hkey, Checked.guard_eq_ok.mpr ⟨fun hempty => hne (List.isEmpty_iff.mp hempty),
      Checked.guard_eq_ok.mpr ⟨fun hmem => hfresh (List.contains_iff_mem.mp hmem), ?_⟩⟩⟩
    rw [taggedValue] at h
    rcases htag : kv.valueType.toNat with _ | _ | _ | _ | n <;> rw [htag] at h
    · obtain ⟨s, hs, -⟩ := Checked.bind_eq_ok.mp h
      exact Checked.bind_eq_ok.mpr ⟨s, hs, rfl⟩
    · rfl
    · rfl
    · rfl
    · cases h

/-- The pass over the attributes: each is accepted, and its key is not among those before it. -/
theorem foldlM_checkAttribute_iff {kvs : List OtelKeyValue} {keys : List Str} :
    (∃ keys', kvs.foldlM checkAttribute keys = .ok keys') ↔
      ∃ values, List.Forall₂ StandsFor kvs values ∧ (values.map KeyValue.key).Nodup ∧
        ∀ key ∈ values.map KeyValue.key, key ∉ keys := by
  induction kvs generalizing keys with
  | nil =>
    refine iff_of_true ⟨keys, rfl⟩ ⟨[], .nil, List.nodup_nil, List.forall_mem_nil _⟩
  | cons kv kvs ih =>
    simp only [List.foldlM_cons, Checked.bind_eq_ok, checkAttribute_iff, List.forall₂_cons_left_iff]
    constructor
    · rintro ⟨keys'', -, ⟨out, hout, hfresh, rfl⟩, hrest⟩
      obtain ⟨values, hvalues, hnodup, hnew⟩ := ih.mp ⟨keys'', hrest⟩
      refine ⟨out :: values, ⟨out, values, hout, hvalues, rfl⟩, ?_, ?_⟩
      · rw [List.map_cons, List.nodup_cons]
        exact ⟨fun hmem => hnew out.key hmem List.mem_cons_self, hnodup⟩
      · rw [List.map_cons, List.forall_mem_cons]
        exact ⟨hfresh, fun key hkey hmem => hnew key hkey (List.mem_cons_of_mem _ hmem)⟩
    · rintro ⟨_, ⟨out, values, hout, hvalues, rfl⟩, hnodup, hnew⟩
      rw [List.map_cons, List.nodup_cons] at hnodup
      rw [List.map_cons, List.forall_mem_cons] at hnew
      have hlater : ∀ key ∈ values.map KeyValue.key, key ∉ out.key :: keys := by
        intro key hkey hmem
        rcases List.mem_cons.mp hmem with rfl | hmem
        · exact hnodup.1 hkey
        · exact hnew.2 key hkey hmem
      obtain ⟨keys'', hrest⟩ := ih.mpr ⟨values, hvalues, hnodup.2, hlater⟩
      exact ⟨keys'', out.key :: keys, ⟨out, hout, hnew.1, rfl⟩, hrest⟩

/-- **The API lets through exactly the scope attributes that the SDK takes over.** -/
theorem validateScopeAttributes_iff {kvs : CSlice OtelKeyValue} :
    validateScopeAttributes kvs = .ok () ↔ ∃ values, StandForUnique kvs values := by
  have hpass : (∃ keys', kvs.read.foldlM checkAttribute [] = .ok keys') ↔
      ∃ values, List.Forall₂ StandsFor kvs.read values ∧ (values.map KeyValue.key).Nodup := by
    simp [foldlM_checkAttribute_iff]
  have hunique : (∃ values, StandForUnique kvs values) ↔
      (kvs.read.length = kvs.len ∧ kvs.len ≤ maxAttributes) ∧
        ∃ keys', kvs.read.foldlM checkAttribute [] = .ok keys' := by
    rw [hpass]
    constructor
    · rintro ⟨values, h⟩
      exact ⟨⟨h.length, h.count⟩, values, h.each, h.keys⟩
    · rintro ⟨⟨hlength, hcount⟩, values, heach, hkeys⟩
      exact ⟨values, hlength, hcount, heach, hkeys⟩
  rw [hunique, ← readable_iff, validateScopeAttributes]
  by_cases hlen : kvs.len = 0
  · rw [if_pos hlen, CSlice.read_eq_nil hlen]
    exact iff_of_true rfl ⟨.inl hlen, [], rfl⟩
  · rw [if_neg hlen, or_iff_right hlen]
    simp only [fail, Checked.guard_eq_ok, Checked.bind_eq_ok, and_assoc]
    constructor
    · rintro ⟨hnull, hcount, hbytes, keys', hkeys, -⟩
      exact ⟨hnull, hcount, hbytes, keys', hkeys⟩
    · rintro ⟨hnull, hcount, hbytes, keys', hkeys⟩
      exact ⟨hnull, hcount, hbytes, keys', hkeys, trivial⟩

/-! ### Scopes -/

/-- The scope that an application asks for. -/
structure Asked (options : ScopeOptions) (scope : InstrumentationScope) : Prop where
  name : asStr options.name = .ok scope.name
  version : ∃ s, asStr options.version = .ok s ∧ scope.version = nonEmpty s
  schemaUrl : ∃ s, asStr options.schemaUrl = .ok s ∧ scope.schemaUrl = nonEmpty s
  attributes : StandForUnique options.attributes scope.attributes

theorem buildMeter_iff {options : ScopeOptions} {scope : InstrumentationScope} :
    buildMeter options.config = .ok scope ↔ Asked options scope := by
  simp only [buildMeter, ScopeOptions.config, Checked.bind_eq_ok, Except.ok.injEq,
    collectUniqueKeyValues_iff]
  constructor
  · rintro ⟨name, hname, version, hversion, schemaUrl, hschema, attributes, hattributes, rfl⟩
    exact ⟨hname, ⟨version, hversion, rfl⟩, ⟨schemaUrl, hschema, rfl⟩, hattributes⟩
  · rintro ⟨hname, ⟨version, hversion, hv⟩, ⟨schemaUrl, hschema, hs⟩, hattributes⟩
    refine ⟨scope.name, hname, version, hversion, schemaUrl, hschema, scope.attributes,
      hattributes, ?_⟩
    rw [← hv, ← hs]

theorem buildLogger_iff {options : ScopeOptions} {scope : InstrumentationScope} :
    buildLogger false options.config = .ok scope ↔ Asked options scope := by
  rw [← buildMeter_iff]
  rfl

/-- The checks of the API after the name are those that the SDK makes. -/
theorem asked_iff {options : ScopeOptions} {name : Str} (hname : asStr options.name = .ok name) :
    (∃ scope, Asked options scope) ↔
      (∃ s, asStr options.version = .ok s) ∧ (∃ s, asStr options.schemaUrl = .ok s) ∧
        validateScopeAttributes options.attributes = .ok () := by
  rw [validateScopeAttributes_iff]
  constructor
  · rintro ⟨scope, h⟩
    obtain ⟨version, hversion, -⟩ := h.version
    obtain ⟨schemaUrl, hschema, -⟩ := h.schemaUrl
    exact ⟨⟨version, hversion⟩, ⟨schemaUrl, hschema⟩, scope.attributes, h.attributes⟩
  · rintro ⟨⟨version, hversion⟩, ⟨schemaUrl, hschema⟩, attributes, hattributes⟩
    exact ⟨⟨name, nonEmpty version, nonEmpty schemaUrl, attributes⟩, hname,
      ⟨version, hversion, rfl⟩, ⟨schemaUrl, hschema, rfl⟩, hattributes⟩

/-- The steps of the API after the handle, the size and the name, with `build` of the SDK behind the
provider. -/
def askSdk (provider : Backing) (options : ScopeOptions)
    (build : Except Fail InstrumentationScope) : Except Fail (Option (Nat × InstrumentationScope)) := do
  let _ ← asStr options.version
  let _ ← asStr options.schemaUrl
  validateScopeAttributes options.attributes
  match provider with
  | none => .ok none
  | some ctx => do
    let scope ← build
    .ok (some (ctx, scope))

theorem askSdk_iff {options : ScopeOptions} {provider : Backing} {name : Str}
    {build : Except Fail InstrumentationScope} {out : Option (Nat × InstrumentationScope)}
    (hname : asStr options.name = .ok name)
    (hbuild : ∀ scope, build = .ok scope ↔ Asked options scope) :
    askSdk provider options build = .ok out ↔
      ∃ scope, Asked options scope ∧ out = provider.map (·, scope) := by
  constructor
  · intro h
    obtain ⟨version, hversion, h⟩ := Checked.bind_eq_ok.mp h
    obtain ⟨schemaUrl, hschema, h⟩ := Checked.bind_eq_ok.mp h
    obtain ⟨⟨⟩, hattributes, h⟩ := Checked.bind_eq_ok.mp h
    obtain ⟨scope, hscope⟩ :=
      (asked_iff hname).mpr ⟨⟨version, hversion⟩, ⟨schemaUrl, hschema⟩, hattributes⟩
    rw [(hbuild scope).mpr hscope] at h
    refine ⟨scope, hscope, ?_⟩
    cases provider with
    | none => exact (Except.ok.inj h).symm
    | some ctx => exact (Except.ok.inj h).symm
  · rintro ⟨scope, hscope, rfl⟩
    obtain ⟨⟨version, hversion⟩, ⟨schemaUrl, hschema⟩, hattributes⟩ :=
      (asked_iff hname).mp ⟨scope, hscope⟩
    refine Checked.bind_eq_ok.mpr ⟨version, hversion, Checked.bind_eq_ok.mpr ⟨schemaUrl, hschema,
      Checked.bind_eq_ok.mpr ⟨(), hattributes, ?_⟩⟩⟩
    rw [(hbuild scope).mpr hscope]
    cases provider <;> rfl

/-- **A meter is refused by the API alone**: when the options are well formed the SDK gives a meter
of exactly the scope they spell, and otherwise it is not asked. -/
theorem getMeterWithOptions_iff (provider : HandleArg Backing) (options : Option ScopeOptions)
    (out : Option (Nat × InstrumentationScope)) :
    getMeterWithOptions provider options = .ok out ↔
      ∃ backing o scope, provider = .live backing ∧ options = some o ∧
        scopeOptionsV1Size ≤ o.structSize ∧ Asked o scope ∧ out = backing.map (·, scope) := by
  constructor
  · intro h
    obtain ⟨backing, hprovider, h⟩ := Checked.bind_eq_ok.mp h
    cases options with
    | none => cases h
    | some o =>
      obtain ⟨hsize, h⟩ := Checked.guard_eq_ok.mp h
      obtain ⟨name, hname, h⟩ := Checked.bind_eq_ok.mp h
      obtain ⟨scope, hscope, hout⟩ := (askSdk_iff hname fun _ => buildMeter_iff).mp h
      exact ⟨backing, o, scope, live_of_checkedRef hprovider, rfl, UInt64.not_lt.mp hsize, hscope,
        hout⟩
  · rintro ⟨backing, o, scope, rfl, rfl, hsize, hscope, hout⟩
    refine Checked.bind_eq_ok.mpr ⟨backing, checkedRef_live backing, ?_⟩
    refine Checked.guard_eq_ok.mpr ⟨UInt64.not_lt.mpr hsize, ?_⟩
    refine Checked.bind_eq_ok.mpr ⟨scope.name, hscope.name, ?_⟩
    exact (askSdk_iff hscope.name fun _ => buildMeter_iff).mpr ⟨scope, hscope, hout⟩

/-- **A logger is refused by the API alone**, and a nameless one always. -/
theorem getLoggerWithOptions_iff (provider : HandleArg Backing) (options : Option ScopeOptions)
    (out : Option (Nat × InstrumentationScope)) :
    getLoggerWithOptions provider options = .ok out ↔
      ∃ backing o scope, provider = .live backing ∧ options = some o ∧
        scopeOptionsV1Size ≤ o.structSize ∧ Asked o scope ∧ scope.name ≠ [] ∧
        out = backing.map (·, scope) := by
  constructor
  · intro h
    obtain ⟨backing, hprovider, h⟩ := Checked.bind_eq_ok.mp h
    cases options with
    | none => cases h
    | some o =>
      obtain ⟨hsize, h⟩ := Checked.guard_eq_ok.mp h
      obtain ⟨name, hname, h⟩ := Checked.bind_eq_ok.mp h
      obtain ⟨hne, h⟩ := Checked.guard_eq_ok.mp h
      obtain ⟨scope, hscope, hout⟩ := (askSdk_iff hname fun _ => buildLogger_iff).mp h
      obtain rfl := Except.ok.inj (hname.symm.trans hscope.name)
      exact ⟨backing, o, scope, live_of_checkedRef hprovider, rfl, UInt64.not_lt.mp hsize, hscope,
        fun hempty => hne (List.isEmpty_iff.mpr hempty), hout⟩
  · rintro ⟨backing, o, scope, rfl, rfl, hsize, hscope, hne, hout⟩
    refine Checked.bind_eq_ok.mpr ⟨backing, checkedRef_live backing, ?_⟩
    refine Checked.guard_eq_ok.mpr ⟨UInt64.not_lt.mpr hsize, ?_⟩
    refine Checked.bind_eq_ok.mpr ⟨scope.name, hscope.name, ?_⟩
    refine Checked.guard_eq_ok.mpr ⟨fun hempty => hne (List.isEmpty_iff.mp hempty), ?_⟩
    exact (askSdk_iff hscope.name fun _ => buildLogger_iff).mpr ⟨scope, hscope, hout⟩

end OtelC.Scopes
