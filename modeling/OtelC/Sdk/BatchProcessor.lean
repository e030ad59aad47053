import OtelC.Logs.Batch
import OtelC.Trace.SpanExport

/-!
# Batch processors

The builders of the batch span processor and the batch log processor, up to the sizes they hand to the
processors of the SDK.  Such a processor assembles batches of up to the smaller of its two sizes, and
the converters take batches of up to 65536 items.

* `spanBatchesConvert_iff`, `logBatchesConvert_iff`: when every batch that a processor may assemble is
  within the limit of its converter.
-/

namespace OtelC.Sdk

/-! ### What the processors of the SDK are given -/

/-- The sizes that the SDK falls back to, from the specification or the environment. -/
structure BatchDefaults where
  maxQueueSize : Nat
  maxExportBatchSize : Nat

/-- The sizes that a processor is built with. -/
structure BatchSizes where
  maxQueueSize : Nat
  maxExportBatchSize : Nat

/-- The largest batch that a processor may assemble. -/
def BatchSizes.largestBatch (sizes : BatchSizes) : Nat :=
  min sizes.maxQueueSize sizes.maxExportBatchSize

/-- A size that is unset when it is zero. -/
def nonZero (value : Nat) : Option Nat := if value ≠ 0 then some value else none

/-! ### The builder of the batch span processor -/

/-- `MAX_BATCH_QUEUE_SIZE`. -/
def maxBatchQueueSize : Nat := 1048576

/-- `MAX_BATCH_EXPORT_BATCH_SIZE`. -/
def maxBatchExportBatchSize : Nat := 1048576

structure BatchConfig where
  maxQueueSize : Option Nat
  scheduledDelay : Option Nat
  maxExportBatchSize : Option Nat
  exportTimeout : Option Nat

/-- `BatchConfig::default`. -/
def BatchConfig.default : BatchConfig := ⟨none, none, none, none⟩

/-- `bounded_optional_size`. -/
def boundedOptionalSize (value max : Nat) (what : String) : Except Fail (Option Nat) :=
  if value > max then
    fail .invalidArgument s!"{what} ({value}) exceeds the maximum supported value ({max})"
  else .ok (nonZero value)

/-- A setter of `otel_batch_span_processor_builder_t`. -/
inductive BatchSpanCall where
  | setMaxQueueSize (maxQueueSize : Nat)
  | setScheduledDelayMillis (delayMillis : Nat)
  | setMaxExportBatchSize (maxExportBatchSize : Nat)
  | setExportTimeoutMillis (timeoutMillis : Nat)

/-- `otel_batch_span_processor_builder_set_max_queue_size` and its siblings. -/
def BatchConfig.set (config : BatchConfig) : BatchSpanCall → Except Fail BatchConfig
  | .setMaxQueueSize value => do
    let size ← boundedOptionalSize value maxBatchQueueSize "batch max queue size"
    .ok { config with maxQueueSize := size }
  | .setScheduledDelayMillis millis => .ok { config with scheduledDelay := nonZero millis }
  | .setMaxExportBatchSize value => do
    let size ← boundedOptionalSize value maxBatchExportBatchSize "batch max export batch size"
    .ok { config with maxExportBatchSize := size }
  | .setExportTimeoutMillis millis => .ok { config with exportTimeout := nonZero millis }

/-- A setter, which leaves the configuration as it was when it fails. -/
def BatchConfig.step (config : BatchConfig) (call : BatchSpanCall) : BatchConfig :=
  (config.set call).toOption.getD config

/-- `build_processor`, up to the sizes. -/
def buildProcessor (defaults : BatchDefaults) (config : BatchConfig) : BatchSizes where
  maxQueueSize := config.maxQueueSize.getD defaults.maxQueueSize
  maxExportBatchSize := config.maxExportBatchSize.getD defaults.maxExportBatchSize

/-! ### The builder of the batch log processor -/

/-- `BatchLogProcessorConfig`, without its exporter. -/
structure BatchLogConfig where
  maxQueueSize : Option Nat
  maxExportBatchSize : Option Nat
  scheduledDelayMillis : Option Nat

/-- `BatchLogProcessorConfig::default`. -/
def BatchLogConfig.default : BatchLogConfig := ⟨none, none, none⟩

/-- A setter of `otel_batch_log_processor_builder_t`. -/
inductive BatchLogCall where
  | setMaxQueueSize (maxQueueSize : Nat)
  | setMaxExportBatchSize (maxExportBatchSize : Nat)
  | setScheduledDelayMillis (scheduledDelayMillis : Nat)

/-- `otel_batch_log_processor_builder_set_max_queue_size` and its siblings, none of which fails. -/
def BatchLogConfig.step (config : BatchLogConfig) : BatchLogCall → BatchLogConfig
  | .setMaxQueueSize value => { config with maxQueueSize := nonZero value }
  | .setMaxExportBatchSize value => { config with maxExportBatchSize := nonZero value }
  | .setScheduledDelayMillis value => { config with scheduledDelayMillis := nonZero value }

/-- The cross-field validation of `otel_batch_log_processor_builder_build`. -/
def BatchLogConfig.validate (config : BatchLogConfig) : Except Fail Unit :=
  match config.maxQueueSize, config.maxExportBatchSize with
  | some queue, some batch =>
    if batch > queue then
      fail .invalidConfig
        "batch log processor max_export_batch_size must not exceed max_queue_size"
    else .ok ()
  | _, _ => .ok ()

/-- `otel_batch_log_processor_builder_build` with an exporter, up to the sizes. -/
def buildLogProcessor (defaults : BatchDefaults) (config : BatchLogConfig) :
    Except Fail BatchSizes := do
  config.validate
  .ok ⟨config.maxQueueSize.getD defaults.maxQueueSize,
    config.maxExportBatchSize.getD defaults.maxExportBatchSize⟩

theorem buildLogProcessor_ok {defaults : BatchDefaults} {config : BatchLogConfig}
    {sizes : BatchSizes} (h : buildLogProcessor defaults config = .ok sizes) :
    sizes = ⟨config.maxQueueSize.getD defaults.maxQueueSize,
      config.maxExportBatchSize.getD defaults.maxExportBatchSize⟩ := by
  obtain ⟨-, -, h⟩ := Checked.bind_eq_ok.mp h
  exact (Except.ok.inj h).symm

/-! ### What a processor may hand to its exporter -/

section Batches

variable {TraceState : Type} (header : TraceState → Str)

/-- Every batch that a span processor of these sizes may assemble from convertible spans is converted. -/
def SpanBatchesConvert (sizes : BatchSizes) : Prop :=
  ∀ (spans : List (Trace.SpanData TraceState)) (resource : Resource),
    spans.length ≤ sizes.largestBatch → (∀ span ∈ spans, Trace.SpanFits span) →
    ∃ view, Trace.convertBatch header spans resource = .ok view

/-- Every batch that a log processor of these sizes may assemble from convertible records is converted. -/
def LogBatchesConvert (sizes : BatchSizes) : Prop :=
  ∀ (batch : Logs.LogBatch) (resource : Resource), batch.entries.length ≤ sizes.largestBatch →
    Logs.AttributesConvert resource.attributes → Logs.TextFits resource.schemaUrl →
    (∀ entry ∈ batch.entries,
      Logs.RecordFits entry.1 ∧ Logs.ScopeConverts (batch.scopeAt entry.2)) →
    ∃ view, Logs.convertBatch batch resource = .ok view

variable [Inhabited TraceState]

/-- A span that started and ended at the epoch. -/
def epochSpan : Trace.SpanData TraceState where
  spanContext := ⟨Bytes.zero 16, Bytes.zero 8, 0, false, default⟩
  parentSpanId := Bytes.zero 8
  spanKind := .internal
  name := []
  startTime := 0
  endTime := 0
  attributes := []
  droppedAttributesCount := 0
  events := ⟨[], 0⟩
  links := ⟨[], 0⟩
  status := .unset
  instrumentationScope := ⟨[], none, none, []⟩

theorem epochSpan_fits : Trace.SpanFits (epochSpan : Trace.SpanData TraceState) :=
  ⟨⟨0, rfl⟩, ⟨0, rfl⟩, List.forall_mem_nil _⟩

theorem spanBatchesConvert_iff {sizes : BatchSizes} :
    SpanBatchesConvert header sizes ↔ sizes.largestBatch ≤ Trace.spanExportMaxSpans := by
  constructor
  · intro h
    have hview := h (List.replicate sizes.largestBatch epochSpan) ⟨none, []⟩
      (by rw [List.length_replicate]) fun span hspan => by
        rw [List.eq_of_mem_replicate hspan]
        exact epochSpan_fits
    have hlen := (Trace.convertBatch_ok_iff.mp hview).1
    rwa [List.length_replicate] at hlen
  · intro h spans resource hlen hfits
    exact Trace.convertBatch_ok_iff.mpr ⟨hlen.trans h, hfits⟩

theorem plainRecord_fits : Logs.RecordFits Logs.plainRecord :=
  ⟨⟨0, rfl⟩, ⟨0, rfl⟩, Logs.textFits_none, Logs.textFits_none, Logs.textFits_none,
    Logs.detected_nothing.attributes⟩

theorem plainScope_converts : Logs.ScopeConverts ⟨lit "app", none, none, []⟩ :=
  ⟨Logs.detected_nothing.attributes, by decide, Logs.textFits_none, Logs.textFits_none⟩

theorem logBatchesConvert_iff {sizes : BatchSizes} :
    LogBatchesConvert sizes ↔ sizes.largestBatch ≤ Logs.exportMaxRecords := by
  constructor
  · intro h
    have hview := h ⟨List.replicate sizes.largestBatch (Logs.plainRecord, 0),
      fun _ => ⟨lit "app", none, none, []⟩⟩ ⟨none, []⟩ (by rw [List.length_replicate])
      Logs.detected_nothing.attributes Logs.textFits_none fun entry hentry => by
        rw [List.eq_of_mem_replicate hentry]
        exact ⟨plainRecord_fits, plainScope_converts⟩
    have hlen := (Logs.convertBatch_ok_iff.mp hview).2.2.1
    rwa [List.length_replicate] at hlen
  · intro h batch resource hlen hattributes hschemaUrl hfits
    exact Logs.convertBatch_ok_iff.mpr ⟨hattributes, hschemaUrl, hlen.trans h, hfits⟩

/-- **From the configuration to the export.**  Every batch that a built processor may assemble is within
the limit of its converter just when one of its two sizes is, configured or not. -/
theorem batch_sizes_agree (defaults : BatchDefaults) :
    (∀ calls : List BatchSpanCall,
      SpanBatchesConvert header
          (buildProcessor defaults (Run.run BatchConfig.step .default calls)) ↔
        (Run.run BatchConfig.step .default calls).maxQueueSize.getD defaults.maxQueueSize ≤
            Trace.spanExportMaxSpans ∨
          (Run.run BatchConfig.step .default calls).maxExportBatchSize.getD
            defaults.maxExportBatchSize ≤ Trace.spanExportMaxSpans) ∧
    (∀ (calls : List BatchLogCall) (sizes : BatchSizes),
      buildLogProcessor defaults (Run.run BatchLogConfig.step .default calls) = .ok sizes →
      (LogBatchesConvert sizes ↔
        (Run.run BatchLogConfig.step .default calls).maxQueueSize.getD defaults.maxQueueSize ≤
            Logs.exportMaxRecords ∨
          (Run.run BatchLogConfig.step .default calls).maxExportBatchSize.getD
            defaults.maxExportBatchSize ≤ Logs.exportMaxRecords)) := by
  refine ⟨fun calls => ?_, fun calls sizes h => ?_⟩
  · rw [spanBatchesConvert_iff, BatchSizes.largestBatch, min_le_iff]
    exact Iff.rfl
  · rw [buildLogProcessor_ok h, logBatchesConvert_iff, BatchSizes.largestBatch, min_le_iff]

/-- A queue beyond the limit, and batches at it. -/
theorem batch_sizes_agree_long_queue : LogBatchesConvert ⟨100000, 65536⟩ :=
  ((batch_sizes_agree (id : Str → Str) ⟨2048, 512⟩).2
    [.setMaxQueueSize 100000, .setMaxExportBatchSize 65536] ⟨100000, 65536⟩ rfl).mpr
      (.inr (by decide))

/-- Both builders accept a queue and batches of 65537, and the full batches of both processors are lost. -/
theorem batch_sizes_disagree :
    (¬SpanBatchesConvert (id : Str → Str) (buildProcessor ⟨2048, 512⟩
        (Run.run BatchConfig.step .default
          [.setMaxQueueSize 65537, .setMaxExportBatchSize 65537]))) ∧
      ∃ sizes, buildLogProcessor ⟨2048, 512⟩ (Run.run BatchLogConfig.step .default
          [.setMaxQueueSize 65537, .setMaxExportBatchSize 65537]) = .ok sizes ∧
        ¬LogBatchesConvert sizes := by
  refine ⟨?_, ⟨65537, 65537⟩, rfl, ?_⟩
  · rw [spanBatchesConvert_iff]
    decide
  · rw [logBatchesConvert_iff]
    decide

end Batches

end OtelC.Sdk
