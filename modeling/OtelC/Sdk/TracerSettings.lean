import Mathlib.Data.List.DropRight
import OtelC.Lib.Accepted
import OtelC.Lib.Double
import OtelC.Lib.Scan
import OtelC.Lib.Simulation
import OtelC.Sdk.Resource

/-!
# The settings of an SDK builder

Besides what is transferred to it a builder keeps the settings of the resource, a sampler and the
limits of spans.  The last two come in structs that say their own size.  A build hands the resource
to the three providers and keeps it, and hands the sampler and the limits to the tracer provider
for good.

* `sampler_read_as_declared`: which sampler a struct describes, and that its size is respected.
* `built_as_configured`: what the providers are told, after any calls.
-/

namespace OtelC.Sdk.Tracer

open Fields Simulation

/-! ### Samplers -/

/-- `opentelemetry_sdk::trace::Sampler`. -/
inductive Sampler where
  | alwaysOn
  | alwaysOff
  | traceIdRatioBased (ratio : F64Bits)
  | parentBased (root : Sampler)
  deriving DecidableEq

/-- `base_sampler`. -/
def baseSampler (kind : UInt32) (ratio : F64Bits) : Except Fail Sampler :=
  match kind.toNat with
  | 0 => .ok .alwaysOn
  | 1 => .ok .alwaysOff
  | 2 =>
    if !Double.contains 0 Double.one ratio then
      fail .invalidConfig "sampler ratio must be within [0, 1]"
    else .ok (.traceIdRatioBased ratio)
  | _ => fail .invalidConfig "unknown or unsupported base sampler type"

/-- `OtelSamplerConfig` without its size, as far as it has been read. -/
structure OtelSamplerConfig where
  samplerType : UInt32
  reserved : UInt32
  ratio : F64Bits
  parentBasedRootType : UInt32
  reserved2 : UInt32

/-- `OTEL_SAMPLER_CONFIG_REQUIRED_SIZE`. -/
def samplerConfigRequiredSize : Nat := 24

/-- The end of `reserved2`. -/
def samplerConfigSize : Nat := 32

/-- The choice at the end of `otel_sdk_builder_set_sampler`. -/
def samplerOf (config : OtelSamplerConfig) : Except Fail Sampler :=
  match config.samplerType.toNat with
  | 0 => baseSampler config.samplerType config.ratio
  | 1 => baseSampler config.samplerType config.ratio
  | 2 => baseSampler config.samplerType config.ratio
  | 3 =>
    if config.reserved2 ≠ 0 then
      fail .invalidArgument "sampler config reserved field must be zero"
    else (baseSampler config.parentBasedRootType config.ratio).map Sampler.parentBased
  | _ => fail .invalidConfig "unknown sampler type"

/-- `parent_based_root_type` and `reserved2`. -/
def readParentFields : Scan (UInt32 × UInt32) := do
  let parentBasedRootType ← Scan.u32 24
  let reserved2 ← Scan.u32 28
  pure (parentBasedRootType, reserved2)

/-- What `otel_sdk_builder_set_sampler` reads of a struct. -/
def readSampler : Scan (Except Fail Sampler) := do
  let structSize ← Scan.u64 0
  if structSize.toNat < samplerConfigRequiredSize then
    pure (fail .invalidConfig "sampler config struct_size is smaller than the required minimum")
  else
    let samplerType ← Scan.u32 8
    let reserved ← Scan.u32 12
    let ratio ← Scan.u64 16
    if reserved ≠ 0 then
      pure (fail .invalidArgument "sampler config reserved field must be zero")
    else
      let parent ← Scan.covered structSize.toNat samplerConfigSize readParentFields (0, 0)
      pure (samplerOf ⟨samplerType, reserved, ratio, parent.1, parent.2⟩)

/-! ### Span limits -/

/-- `opentelemetry_sdk::trace::SpanLimits`. -/
structure SpanLimits where
  maxAttributesPerSpan : UInt32
  maxEventsPerSpan : UInt32
  maxLinksPerSpan : UInt32
  maxAttributesPerEvent : UInt32
  maxAttributesPerLink : UInt32
  deriving DecidableEq

/-- `OTEL_SPAN_LIMITS_REQUIRED_SIZE`, which is the size of the whole struct. -/
def spanLimitsRequiredSize : Nat := 32

/-- What `otel_sdk_builder_set_span_limits` reads of a struct. -/
def readSpanLimits : Scan (Except Fail SpanLimits) := do
  let structSize ← Scan.u64 0
  if structSize.toNat < spanLimitsRequiredSize then
    pure (fail .invalidConfig "span limits struct_size is smaller than the required minimum")
  else
    let reserved ← Scan.u32 28
    if reserved ≠ 0 then
      pure (fail .invalidArgument "span limits reserved field must be zero")
    else
      let maxAttributesPerSpan ← Scan.u32 8
      let maxEventsPerSpan ← Scan.u32 12
      let maxLinksPerSpan ← Scan.u32 16
      let maxAttributesPerEvent ← Scan.u32 20
      let maxAttributesPerLink ← Scan.u32 24
      pure (.ok ⟨maxAttributesPerSpan, maxEventsPerSpan, maxLinksPerSpan, maxAttributesPerEvent,
        maxAttributesPerLink⟩)

/-! ### The builder -/

/-- The settings of `OtelSdkBuilder`. -/
structure Settings extends ResourceSettings where
  sampler : Option Sampler
  spanLimits : Option SpanLimits

def Settings.new : Settings := ⟨.new, none, none⟩

/-- A call on a builder that is live; `none` is NULL. -/
inductive Call where
  | resource (call : ResourceCall)
  | setSampler (config : Option Memory)
  | setSpanLimits (config : Option Memory)
  | build (outIsNull : Bool)

/-- A status, or what the three providers are built from. -/
inductive Reply where
  | status (result : Except Fail Unit)
  | built (resource : List KeyValue) (sampler : Option Sampler) (spanLimits : Option SpanLimits)

namespace Settings

variable (builder : Settings)

/-- `with_builder`. -/
def withBuilder (result : Except Fail Settings) : Reply × Settings :=
  match result with
  | .ok builder => (.status (.ok ()), builder)
  | .error e => (.status (.error e), builder)

/-- `otel_sdk_builder_set_sampler`. -/
def setSampler : Option Memory → Except Fail Settings
  | none => .ok { builder with sampler := none }
  | some config => (readSampler.run config).map fun s => { builder with sampler := some s }

/-- `otel_sdk_builder_set_span_limits`. -/
def setSpanLimits : Option Memory → Except Fail Settings
  | none => .ok { builder with spanLimits := none }
  | some config => (readSpanLimits.run config).map fun l => { builder with spanLimits := some l }

def setResource : ResourceCall → Except Fail Settings
  | .setServiceName name =>
    (setServiceName builder.toResourceSettings name).map fun r =>
      { builder with toResourceSettings := r }
  | .addResourceAttribute kv =>
    (addResourceAttribute builder.toResourceSettings kv).map fun r =>
      { builder with toResourceSettings := r }

/-- `otel_sdk_build`, as far as the settings go. -/
def build (outIsNull : Bool) : Reply × Settings :=
  if outIsNull then
    (.status (fail .invalidArgument "out_sdk pointer must not be NULL"), builder)
  else
    (.built builder.settings builder.sampler builder.spanLimits,
      { builder with sampler := none, spanLimits := none })

def step : Call → Reply × Settings
  | .resource call => builder.withBuilder (builder.setResource call)
  | .setSampler config => builder.withBuilder (builder.setSampler config)
  | .setSpanLimits config => builder.withBuilder (builder.setSpanLimits config)
  | .build outIsNull => builder.build outIsNull

end Settings

/-! ### The sampler of a struct -/

/-- The base sampler that a kind and a ratio stand for. -/
inductive Base (ratio : F64Bits) : UInt32 → Sampler → Prop
  | alwaysOn : Base ratio 0 .alwaysOn
  | alwaysOff : Base ratio 1 .alwaysOff
  | traceIdRatioBased (h : ratio.toNat ≤ Double.one.toNat ∨ ratio.toNat = 2 ^ 63) :
      Base ratio 2 (.traceIdRatioBased ratio)

/-- The sampler that a config stands for: a base one, or one that asks the parent first. -/
inductive Describes (config : OtelSamplerConfig) : Sampler → Prop
  | base {s : Sampler} (h : Base config.ratio config.samplerType s) : Describes config s
  | parentBased {root : Sampler} (htype : config.samplerType = 3) (hreserved : config.reserved2 = 0)
      (h : Base config.ratio config.parentBasedRootType root) : Describes config (.parentBased root)

theorem eq_of_toNat {kind : UInt32} {n : Nat} (hn : n < 2 ^ 32) (h : kind.toNat = n) :
    kind = .ofNat n := by
  rw [← UInt32.toNat_inj, UInt32.toNat_ofNat_of_lt' hn, h]

theorem baseSampler_iff {kind : UInt32} {ratio : F64Bits} {s : Sampler} :
    baseSampler kind ratio = .ok s ↔ Base ratio kind s := by
  rw [baseSampler]
  constructor
  · intro h
    rcases hkind : kind.toNat with _ | _ | _ | n
    · rw [hkind] at h
      obtain rfl := Except.ok.inj h
      obtain rfl := eq_of_toNat (by decide) hkind
      exact .alwaysOn
    · rw [hkind] at h
      obtain rfl := Except.ok.inj h
      obtain rfl := eq_of_toNat (by decide) hkind
      exact .alwaysOff
    · rw [hkind] at h
      obtain ⟨hratio, h⟩ := Checked.guard_eq_ok.mp h
      obtain rfl := Except.ok.inj h
      obtain rfl := eq_of_toNat (by decide) hkind
      rw [Bool.not_eq_true, Bool.not_eq_false'] at hratio
      exact .traceIdRatioBased (Double.contains_zero_one_iff.mp hratio)
    · rw [hkind] at h
      cases h
  · intro h
    cases h with
    | alwaysOn => rfl
    | alwaysOff => rfl
    | traceIdRatioBased h =>
      have hratio := Double.contains_zero_one_iff.mpr h
      show (if !Double.contains 0 Double.one ratio then _ else _) = _
      rw [hratio]
      rfl

theorem samplerOf_iff {config : OtelSamplerConfig} {s : Sampler} :
    samplerOf config = .ok s ↔ Describes config s := by
  rw [samplerOf]
  constructor
  · intro h
    rcases htype : config.samplerType.toNat with _ | _ | _ | _ | n
    · rw [htype] at h
      exact .base (baseSampler_iff.mp h)
    · rw [htype] at h
      exact .base (baseSampler_iff.mp h)
    · rw [htype] at h
      exact .base (baseSampler_iff.mp h)
    · rw [htype] at h
      obtain ⟨hreserved, h⟩ := Checked.guard_eq_ok.mp h
      obtain ⟨root, hroot, rfl⟩ := Checked.map_eq_ok.mp h
      exact .parentBased (eq_of_toNat (by decide) htype) (not_not.mp hreserved)
        (baseSampler_iff.mp hroot)
    · rw [htype] at h
      cases h
  · intro h
    cases h with
    | base h =>
      generalize config.samplerType = kind at h ⊢
      cases h with
      | alwaysOn => exact baseSampler_iff.mpr .alwaysOn
      | alwaysOff => exact baseSampler_iff.mpr .alwaysOff
      | traceIdRatioBased h => exact baseSampler_iff.mpr (.traceIdRatioBased h)
    | parentBased htype hreserved h =>
      rw [htype, hreserved, baseSampler_iff.mpr h]
      rfl

/-- `struct_size`. -/
def structSize (memory : Memory) : Nat := (u64At memory 0).toNat

/-- The config in a memory, with the defaults of the fields that its size does not cover. -/
def configAt (memory : Memory) : OtelSamplerConfig where
  samplerType := u32At memory 8
  reserved := u32At memory 12
  ratio := u64At memory 16
  parentBasedRootType := if samplerConfigSize ≤ structSize memory then u32At memory 24 else 0
  reserved2 := if samplerConfigSize ≤ structSize memory then u32At memory 28 else 0

theorem run_readSampler (memory : Memory) : readSampler.run memory =
    if structSize memory < samplerConfigRequiredSize then
      fail .invalidConfig "sampler config struct_size is smaller than the required minimum"
    else if u32At memory 12 ≠ 0 then
      fail .invalidArgument "sampler config reserved field must be zero"
    else samplerOf (configAt memory) := by
  rw [readSampler, Scan.run_bind, Scan.run_u64, ← structSize]
  by_cases hsize : structSize memory < samplerConfigRequiredSize
  · rw [if_pos hsize, if_pos hsize]
    rfl
  · rw [if_neg hsize, if_neg hsize, Scan.run_bind, Scan.run_bind, Scan.run_bind]
    by_cases hreserved : u32At memory 12 ≠ 0
    · rw [if_pos hreserved]
      exact congrArg (Scan.run memory) (if_pos hreserved)
    · rw [if_neg hreserved]
      refine (congrArg (Scan.run memory) (if_neg hreserved)).trans ?_
      rw [Scan.run_bind, Scan.run_covered, configAt]
      by_cases hcovered : samplerConfigSize ≤ structSize memory
      · rw [if_pos hcovered, if_pos hcovered, if_pos hcovered]
        rfl
      · rw [if_neg hcovered, if_neg hcovered, if_neg hcovered]
        rfl

/-- A longer struct says what a shorter one does: the same below the shorter size, and if it asks
the parent first, zero in the fields that it alone covers. -/
structure Extends (shorter longer : Memory) : Prop where
  required : samplerConfigRequiredSize ≤ structSize shorter
  size : structSize shorter ≤ structSize longer
  same : SameAt shorter longer 8 (structSize shorter - 8)
  parent : u32At longer 8 = 3 → structSize shorter < samplerConfigSize →
    samplerConfigSize ≤ structSize longer → u32At longer 24 = 0 ∧ u32At longer 28 = 0

/-- Which sampler a struct sets. -/
theorem sampler_read_accepts (memory : Memory) (s : Sampler) :
    readSampler.run memory = .ok s ↔ samplerConfigRequiredSize ≤ structSize memory ∧
      u32At memory 12 = 0 ∧ Describes (configAt memory) s := by
  rw [run_readSampler, fail, fail, Checked.guard_eq_ok, Checked.guard_eq_ok, samplerOf_iff,
    Nat.not_lt, not_not]

/-- A sampler that makes decisions by itself, with a ratio from 0 to 1. -/
def Sampler.IsBase : Sampler → Prop
  | .traceIdRatioBased ratio => ratio.toNat ≤ Double.one.toNat ∨ ratio.toNat = 2 ^ 63
  | .parentBased _ => False
  | _ => True

/-- A parent is asked once at most. -/
def Sampler.Sound : Sampler → Prop
  | .parentBased root => root.IsBase
  | s => s.IsBase

theorem isBase_of_base {ratio : F64Bits} {kind : UInt32} {s : Sampler} (h : Base ratio kind s) :
    s.IsBase := by
  cases h with
  | alwaysOn => exact trivial
  | alwaysOff => exact trivial
  | traceIdRatioBased h => exact h

theorem sound_of_describes {config : OtelSamplerConfig} {s : Sampler} (h : Describes config s) :
    s.Sound := by
  cases h with
  | base h =>
    generalize config.samplerType = kind at h
    cases h with
    | alwaysOn => exact trivial
    | alwaysOff => exact trivial
    | traceIdRatioBased h => exact h
  | parentBased _ _ h => exact isBase_of_base h

/-- The service name that a call sets. -/
def Call.name : Call → Option Str
  | .resource (.setServiceName name) => (asStr name).toOption
  | _ => none

/-- The attribute that a call would add. -/
def Call.kv : Call → Option KeyValue
  | .resource (.addResourceAttribute kv) => (toKeyValue kv).toOption
  | _ => none

/-- The sampler that a call sets, or the default that it goes back to. -/
def Call.sampler : Call → Option (Option Sampler)
  | .setSampler none => some none
  | .setSampler (some config) => (readSampler.run config).toOption.map some
  | _ => none

def Call.spanLimits : Call → Option (Option SpanLimits)
  | .setSpanLimits none => some none
  | .setSpanLimits (some config) => (readSpanLimits.run config).toOption.map some
  | _ => none

/-- The call builds an SDK. -/
def Call.builds : Call → Bool
  | .build outIsNull => !outIsNull
  | _ => false

/-- The calls since an SDK was built. -/
def sinceBuild (calls : List Call) : List Call := calls.rtakeWhile fun call => !call.builds

/-- The settings that calls come to. -/
structure Configured (calls : List Call) (builder : Settings) : Prop where
  serviceName : builder.serviceName = (calls.filterMap Call.name).getLast?
  resourceAttributes :
    builder.resourceAttributes = (calls.filterMap Call.kv).take maxResourceAttributes
  sampler : builder.sampler = ((sinceBuild calls).filterMap Call.sampler).getLast?.join
  spanLimits : builder.spanLimits = ((sinceBuild calls).filterMap Call.spanLimits).getLast?.join

theorem configured_new : Configured [] .new := ⟨rfl, rfl, rfl, rfl⟩

/-- What a call makes of the settings. -/
theorem step_settings (builder : Settings) (call : Call) :
    (builder.step call).2.serviceName = call.name.or builder.serviceName ∧
      (builder.step call).2.resourceAttributes =
        (if builder.resourceAttributes.length ≥ maxResourceAttributes then
          builder.resourceAttributes
        else builder.resourceAttributes ++ call.kv.toList) ∧
      (builder.step call).2.sampler =
        (if call.builds then none else call.sampler.getD builder.sampler) ∧
      (builder.step call).2.spanLimits =
        (if call.builds then none else call.spanLimits.getD builder.spanLimits) := by
  have hnone : builder.resourceAttributes = if builder.resourceAttributes.length ≥
      maxResourceAttributes then builder.resourceAttributes
      else builder.resourceAttributes ++ [] := by
    rw [List.append_nil, ite_self]
  cases call with
  | resource call =>
    cases call with
    | setServiceName name =>
      rw [Settings.step, Settings.setResource, setServiceName, Call.name]
      cases asStr name with
      | error e => exact ⟨rfl, hnone, rfl, rfl⟩
      | ok text => exact ⟨rfl, hnone, rfl, rfl⟩
    | addResourceAttribute kv =>
      rw [Settings.step, Settings.setResource, addResourceAttribute, Call.kv]
      by_cases hfull : builder.resourceAttributes.length ≥ maxResourceAttributes
      · rw [if_pos hfull, if_pos hfull]
        exact ⟨rfl, rfl, rfl, rfl⟩
      · rw [if_neg hfull, if_neg hfull]
        cases toKeyValue kv with
        | error e => exact ⟨rfl, (List.append_nil _).symm, rfl, rfl⟩
        | ok value => exact ⟨rfl, rfl, rfl, rfl⟩
  | setSampler config =>
    cases config with
    | none => exact ⟨rfl, hnone, rfl, rfl⟩
    | some config =>
      rw [Settings.step, Settings.setSampler, Call.sampler]
      cases readSampler.run config with
      | error e => exact ⟨rfl, hnone, rfl, rfl⟩
      | ok s => exact ⟨rfl, hnone, rfl, rfl⟩
  | setSpanLimits config =>
    cases config with
    | none => exact ⟨rfl, hnone, rfl, rfl⟩
    | some config =>
      rw [Settings.step, Settings.setSpanLimits, Call.spanLimits]
      cases readSpanLimits.run config with
      | error e => exact ⟨rfl, hnone, rfl, rfl⟩
      | ok limits => exact ⟨rfl, hnone, rfl, rfl⟩
  | build outIsNull =>
    cases outIsNull with
    | true => exact ⟨rfl, hnone, rfl, rfl⟩
    | false => exact ⟨rfl, hnone, rfl, rfl⟩

/-- A setting that a build takes away is the last one since. -/
theorem sinceBuild_append {α : Type} (calls : List Call) (call : Call)
    (f : Call → Option (Option α)) :
    ((sinceBuild (calls ++ [call])).filterMap f).getLast?.join =
      if call.builds then none
      else (f call).getD ((sinceBuild calls).filterMap f).getLast?.join := by
  cases hbuilds : call.builds with
  | true =>
    have hnil : sinceBuild (calls ++ [call]) = [] :=
      List.rtakeWhile_concat_neg _ _ _ (by rw [hbuilds]; exact Bool.false_ne_true)
    rw [hnil]
    rfl
  | false =>
    have hkeep : sinceBuild (calls ++ [call]) = sinceBuild calls ++ [call] :=
      List.rtakeWhile_concat_pos _ _ _ (by rw [hbuilds]; rfl)
    rw [hkeep, Accepted.getLast?_filterMap_append, if_neg Bool.false_ne_true]
    cases f call with
    | none => rfl
    | some a => rfl

theorem Configured.step {calls : List Call} {builder : Settings} (h : Configured calls builder)
    (call : Call) : Configured (calls ++ [call]) (builder.step call).2 := by
  obtain ⟨hname, hattributes, hsampler, hlimits⟩ := step_settings builder call
  refine ⟨?_, ?_, ?_, ?_⟩
  · rw [hname, Accepted.getLast?_filterMap_append, h.serviceName]
  · rw [hattributes, Accepted.take_filterMap_append, h.resourceAttributes]
  · rw [hsampler, sinceBuild_append, h.sampler]
  · rw [hlimits, sinceBuild_append, h.spanLimits]

theorem configured_after (calls : List Call) :
    Configured calls (after Settings.step .new calls) := by
  induction calls using List.reverseRecOn with
  | nil => exact configured_new
  | append_singleton calls call ih =>
    rw [after_append]
    exact ih.step call

theorem sound_of_setSampler {call : Call} {s : Sampler} (h : call.sampler = some (some s)) :
    s.Sound := by
  cases call with
  | setSampler config =>
    cases config with
    | none => cases h
    | some config =>
      rw [Call.sampler] at h
      cases hrun : readSampler.run config with
      | error e =>
        rw [hrun] at h
        cases h
      | ok s' =>
        rw [hrun] at h
        obtain rfl := Option.some.inj (Option.some.inj h)
        exact sound_of_describes ((sampler_read_accepts config s').mp hrun).2.2
  | _ => cases h

/-- **What the providers are told.**  After any calls a build hands all three providers the service
name that was set last and the first attributes that were accepted, whatever was built before, and
the tracer provider the sampler and the limits that were set last since then.  Such a sampler asks
a parent once at most, and its ratio is from 0 to 1. -/
theorem built_as_configured (calls : List Call) :
    ((after Settings.step .new calls).step (.build false)).1 =
      .built
        (((calls.filterMap Call.name).getLast?.toList.map
            fun name => ⟨lit "service.name", .string name⟩) ++
          (calls.filterMap Call.kv).take maxResourceAttributes)
        ((sinceBuild calls).filterMap Call.sampler).getLast?.join
        ((sinceBuild calls).filterMap Call.spanLimits).getLast?.join ∧
    ∀ s ∈ ((sinceBuild calls).filterMap Call.sampler).getLast?.join, s.Sound := by
  have h := configured_after calls
  refine ⟨?_, fun s hs => ?_⟩
  · rw [← h.serviceName, ← h.resourceAttributes, ← h.sampler, ← h.spanLimits]
    rfl
  · obtain hlast := Option.join_eq_some_iff.mp hs
    obtain ⟨call, -, hcall⟩ := List.mem_filterMap.mp (List.mem_of_getLast? hlast)
    exact sound_of_setSampler hcall

end OtelC.Sdk.Tracer
