import OtelC.Abi
import OtelC.Lib.Commit

/-!
# Building a pipeline

Exporters go into processors and readers, these and the views into the SDK builder, and all of it
into the SDK.  Every handle on the way is an entry of one table; a call that takes a handle over
finds its entry live and of its kind, poisons it, and owns what was behind it.

What a call has written when it fails stays written, and what it owned by then is dropped, so the
order of the checks and the transfers is the model's as it is the source's.
-/

namespace OtelC.Sdk.Pipeline

/-! ### What changes hands -/

/-- Every exporter and every view that was made has a number of its own. -/
abbrev Item := Nat

structure TraceExporterImpl where
  id : Item
  deriving DecidableEq

structure LogExporterImpl where
  id : Item
  deriving DecidableEq

inductive MetricExporterImpl where
  | otlpHttp (id : Item)
  | otlpGrpc (id : Item)
  | custom (id : Item)
  deriving DecidableEq

structure MetricViewConfig where
  id : Item
  deriving DecidableEq

def MetricExporterImpl.id : MetricExporterImpl → Item
  | .otlpHttp id => id
  | .otlpGrpc id => id
  | .custom id => id

/-- The settings of a batch span processor; `none` is the default of the SDK. -/
structure BatchConfig where
  maxQueueSize : Option Nat
  scheduledDelay : Option Nat
  maxExportBatchSize : Option Nat
  exportTimeout : Option Nat
  deriving DecidableEq

structure BatchSpanProcessorBuilder where
  exporter : Option TraceExporterImpl
  config : BatchConfig
  deriving DecidableEq

structure BatchLogProcessorBuilder where
  exporter : Option LogExporterImpl
  maxQueueSize : Option Nat
  maxExportBatchSize : Option Nat
  scheduledDelayMillis : Option Nat
  deriving DecidableEq

structure PeriodicMetricReaderBuilder where
  interval : Option Nat
  timeout : Option Nat
  runtime : UInt32
  exporter : Option MetricExporterImpl
  deriving DecidableEq

inductive SpanProcessorImpl where
  | batch (config : BatchConfig) (exporter : TraceExporterImpl)
  | simple (exporter : TraceExporterImpl)
  deriving DecidableEq

inductive LogProcessorImpl where
  | simple (exporter : LogExporterImpl)
  | batch (maxQueueSize maxExportBatchSize scheduledDelayMillis : Option Nat)
    (exporter : LogExporterImpl)
  deriving DecidableEq

inductive PeriodicMetricReaderImpl where
  | reader (exporter : MetricExporterImpl) (interval : Option Nat)
  | async (exporter : MetricExporterImpl) (interval timeout : Option Nat)
  deriving DecidableEq

structure SharedManualMetricReader where
  exporter : MetricExporterImpl
  deriving DecidableEq

inductive MetricReaderImpl where
  | periodic (reader : PeriodicMetricReaderImpl)
  | manual (reader : SharedManualMetricReader)
  deriving DecidableEq

/-- The parts of `OtelSdkBuilder` that are handed over to it. -/
structure SdkBuilder where
  processors : List SpanProcessorImpl
  metricReaders : List MetricReaderImpl
  metricViews : List MetricViewConfig
  logProcessors : List LogProcessorImpl
  deriving DecidableEq

def SdkBuilder.empty : SdkBuilder := ⟨[], [], [], []⟩

/-- What the providers of an SDK run. -/
structure OtelSdk where
  processors : List SpanProcessorImpl
  metricReaders : List MetricReaderImpl
  metricViews : List MetricViewConfig
  logProcessors : List LogProcessorImpl
  deriving DecidableEq

/-! ### Handles -/

/-- The kind in a handle's header. -/
inductive Kind where
  | otlpTraceExporterBuilder
  | otlpLogExporterBuilder
  | otlpMetricExporterBuilder
  | metricViewBuilder
  | traceExporter
  | logExporter
  | metricExporter
  | metricView
  | batchSpanProcessorBuilder
  | batchLogProcessorBuilder
  | periodicMetricReaderBuilder
  | spanProcessor
  | logProcessor
  | periodicMetricReader
  | manualMetricReader
  | sdkBuilder
  | sdk
  deriving DecidableEq

/-- What stands behind a handle of each kind.  The first four hold settings only. -/
abbrev Kind.Content : Kind → Type
  | .otlpTraceExporterBuilder => Unit
  | .otlpLogExporterBuilder => Unit
  | .otlpMetricExporterBuilder => Unit
  | .metricViewBuilder => Unit
  | .traceExporter => TraceExporterImpl
  | .logExporter => LogExporterImpl
  | .metricExporter => MetricExporterImpl
  | .metricView => MetricViewConfig
  | .batchSpanProcessorBuilder => BatchSpanProcessorBuilder
  | .batchLogProcessorBuilder => BatchLogProcessorBuilder
  | .periodicMetricReaderBuilder => PeriodicMetricReaderBuilder
  | .spanProcessor => SpanProcessorImpl
  | .logProcessor => LogProcessorImpl
  | .periodicMetricReader => PeriodicMetricReaderImpl
  | .manualMetricReader => SharedManualMetricReader
  | .sdkBuilder => SdkBuilder
  | .sdk => OtelSdk

def SpanProcessorImpl.exporter : SpanProcessorImpl → TraceExporterImpl
  | .batch _ exporter => exporter
  | .simple exporter => exporter

def LogProcessorImpl.exporter : LogProcessorImpl → LogExporterImpl
  | .simple exporter => exporter
  | .batch _ _ _ exporter => exporter

def PeriodicMetricReaderImpl.exporter : PeriodicMetricReaderImpl → MetricExporterImpl
  | .reader exporter _ => exporter
  | .async exporter _ _ => exporter

def MetricReaderImpl.exporter : MetricReaderImpl → MetricExporterImpl
  | .periodic reader => reader.exporter
  | .manual reader => reader.exporter

/-- The exporters and views that go away with the providers, or with the builder that was to make
them. -/
def pipelineItems (processors : List SpanProcessorImpl) (metricReaders : List MetricReaderImpl)
    (metricViews : List MetricViewConfig) (logProcessors : List LogProcessorImpl) : List Item :=
  processors.map (·.exporter.id) ++ metricReaders.map (·.exporter.id) ++ metricViews.map (·.id) ++
    logProcessors.map (·.exporter.id)

/-- The exporters and views that dropping a handle's content drops. -/
def Kind.items : (kind : Kind) → kind.Content → List Item
  | .otlpTraceExporterBuilder, _ => []
  | .otlpLogExporterBuilder, _ => []
  | .otlpMetricExporterBuilder, _ => []
  | .metricViewBuilder, _ => []
  | .traceExporter, e => [e.id]
  | .logExporter, e => [e.id]
  | .metricExporter, e => [e.id]
  | .metricView, v => [v.id]
  | .batchSpanProcessorBuilder, b => (b.exporter.map (·.id)).toList
  | .batchLogProcessorBuilder, b => (b.exporter.map (·.id)).toList
  | .periodicMetricReaderBuilder, b => (b.exporter.map (·.id)).toList
  | .spanProcessor, p => [p.exporter.id]
  | .logProcessor, p => [p.exporter.id]
  | .periodicMetricReader, r => [r.exporter.id]
  | .manualMetricReader, r => [r.exporter.id]
  | .sdkBuilder, b => pipelineItems b.processors b.metricReaders b.metricViews b.logProcessors
  | .sdk, s => pipelineItems s.processors s.metricReaders s.metricViews s.logProcessors

abbrev Handle := (kind : Kind) × kind.Content

/-- `none` is NULL. -/
abbrev Ptr := Option Nat

structure State where
  /-- Every handle that was made; `none` once it is poisoned. -/
  handles : List (Option Handle)
  /-- The number of exporters and views made so far. -/
  minted : Nat
  /-- The exporters and views dropped so far. -/
  dropped : List Item

def State.initial : State := ⟨[], 0, []⟩

/-- What the header behind a pointer says to a call that expects `kind`. -/
def State.arg (s : State) (kind : Kind) : Ptr → HandleArg kind.Content
  | none => .null
  | some i =>
    match s.handles[i]? with
    | some (some ⟨found, content⟩) => if h : found = kind then .live (h ▸ content) else .wrongKind
    | _ => .dead

def State.setHandle (s : State) (p : Ptr) (handle : Option Handle) : State :=
  match p with
  | none => s
  | some i => { s with handles := s.handles.set i handle }

def State.alloc (s : State) (handle : Handle) : State :=
  { s with handles := s.handles ++ [some handle] }

def State.drop (s : State) (items : List Item) : State := { s with dropped := s.dropped ++ items }

def State.mint (s : State) : State := { s with minted := s.minted + 1 }

/-! ### Handle plumbing -/

/-- An entry point: what it returns, or the failure it reports. -/
abbrev Entry := Commit.Call State Fail

/-- `checked_ref` and `checked_mut`. -/
def checkedMut (kind : Kind) (p : Ptr) : Entry kind.Content := do
  let s ← Commit.state
  Commit.ofExcept (checkedRef (s.arg kind p))

def take (kind : Kind) (p : Ptr) : Entry kind.Content := do
  let content ← checkedMut kind p
  Commit.update fun s => s.setHandle p none
  pure content

/-- A write through the `&mut` of `checked_mut`. -/
def store (kind : Kind) (p : Ptr) (content : kind.Content) : Entry Unit :=
  Commit.update fun s => s.setHandle p (some ⟨kind, content⟩)

def intoRaw (kind : Kind) (content : kind.Content) : Entry Nat := do
  let s ← Commit.state
  Commit.update fun s => s.alloc ⟨kind, content⟩
  pure s.handles.length

def drop (items : List Item) : Entry Unit := Commit.update fun s => s.drop items

/-- The number of a new exporter or view. -/
def mint : Entry Item := do
  let s ← Commit.state
  Commit.update State.mint
  pure s.minted

/-- `destroy`, which is silent about a handle that is not live or of another kind. -/
def destroy (kind : Kind) (p : Ptr) : Entry Unit := do
  let s ← Commit.state
  match s.arg kind p with
  | .live content => do
    Commit.update fun s => s.setHandle p none
    drop (kind.items content)
  | _ => pure ()

def checkOut (outIsNull : Bool) (name : String) : Entry Unit :=
  Commit.ofExcept (if outIsNull then fail .invalidArgument s!"{name} pointer must not be NULL"
    else .ok ())

/-- `with_config` and `with_builder`: a setter. -/
def withConfig (kind : Kind) (p : Ptr) (f : kind.Content → Except Fail kind.Content) :
    Entry Unit := do
  let content ← checkedMut kind p
  let content' ← Commit.ofExcept (f content)
  store kind p content'

/-- `(millis != 0).then(…)` and `then_some`: zero selects the default. -/
def optional (value : Nat) : Option Nat := if value = 0 then none else some value

/-! ### Exporters and views -/

/-- The end of every call that makes an exporter or a view, once its settings were accepted. -/
def make (kind : Kind) (built : Except Fail (Item → kind.Content)) : Entry Nat := do
  let content ← Commit.ofExcept built
  let id ← mint
  intoRaw kind (content id)

/-- `otel_custom_trace_exporter_new`, with what the checks of its callbacks say. -/
def customTraceExporterNew (outIsNull : Bool) (checked : Except Fail Unit) : Entry Nat := do
  checkOut outIsNull "out"
  make .traceExporter (checked.map fun _ => TraceExporterImpl.mk)

/-- `otel_custom_log_exporter_new`. -/
def customLogExporterNew (outIsNull : Bool) (checked : Except Fail Unit) : Entry Nat := do
  checkOut outIsNull "out"
  make .logExporter (checked.map fun _ => LogExporterImpl.mk)

/-- `otel_custom_metric_exporter_new`. -/
def customMetricExporterNew (outIsNull : Bool) (checked : Except Fail Unit) : Entry Nat := do
  checkOut outIsNull "out"
  make .metricExporter (checked.map fun _ => MetricExporterImpl.custom)

/-- `otel_otlp_trace_exporter_builder_build`, with what `build_exporter` makes of the settings. -/
def otlpTraceExporterBuilderBuild (builder : Ptr) (outIsNull : Bool) (built : Except Fail Unit) :
    Entry Nat := do
  checkOut outIsNull "out"
  let _ ← checkedMut .otlpTraceExporterBuilder builder
  make .traceExporter (built.map fun _ => TraceExporterImpl.mk)

/-- `otel_otlp_log_exporter_builder_build`. -/
def otlpLogExporterBuilderBuild (builder : Ptr) (outIsNull : Bool) (built : Except Fail Unit) :
    Entry Nat := do
  checkOut outIsNull "out"
  let _ ← checkedMut .otlpLogExporterBuilder builder
  make .logExporter (built.map fun _ => LogExporterImpl.mk)

inductive OtlpTransport where
  | http
  | grpc
  deriving DecidableEq

def OtlpTransport.exporter : OtlpTransport → Item → MetricExporterImpl
  | .http => .otlpHttp
  | .grpc => .otlpGrpc

/-- `otel_otlp_metric_exporter_builder_build`. -/
def otlpMetricExporterBuilderBuild (builder : Ptr) (outIsNull : Bool)
    (built : Except Fail OtlpTransport) : Entry Nat := do
  checkOut outIsNull "out"
  let _ ← checkedMut .otlpMetricExporterBuilder builder
  make .metricExporter (built.map OtlpTransport.exporter)

/-- `otel_metric_view_builder_build`, with what the checks of the settings say. -/
def metricViewBuilderBuild (builder : Ptr) (outIsNull : Bool) (checked : Except Fail Unit) :
    Entry Nat := do
  checkOut outIsNull "out"
  let _ ← checkedMut .metricViewBuilder builder
  make .metricView (checked.map fun _ => MetricViewConfig.mk)

/-! ### Span processors -/

def maxBatchQueueSize : Nat := 1048576

def maxBatchExportBatchSize : Nat := 1048576

def boundedOptionalSize (value max : Nat) (what : String) : Except Fail (Option Nat) :=
  if value > max then
    fail .invalidArgument s!"{what} ({value}) exceeds the maximum supported value ({max})"
  else .ok (optional value)

/-- `otel_batch_span_processor_builder_set_exporter`. -/
def batchSpanProcessorBuilderSetExporter (builder exporter : Ptr) : Entry Unit := do
  let b ← checkedMut .batchSpanProcessorBuilder builder
  let owned ← take .traceExporter exporter
  store .batchSpanProcessorBuilder builder { b with exporter := some owned }
  drop (b.exporter.map (·.id)).toList

/-- A setter of the batch span processor builder. -/
inductive BatchSetting where
  | maxQueueSize (value : Nat)
  | scheduledDelayMillis (value : Nat)
  | maxExportBatchSize (value : Nat)
  | exportTimeoutMillis (value : Nat)
  deriving DecidableEq

def BatchSetting.apply (config : BatchConfig) : BatchSetting → Except Fail BatchConfig
  | .maxQueueSize value => do
    let size ← boundedOptionalSize value maxBatchQueueSize "batch max queue size"
    .ok { config with maxQueueSize := size }
  | .scheduledDelayMillis value => .ok { config with scheduledDelay := optional value }
  | .maxExportBatchSize value => do
    let size ← boundedOptionalSize value maxBatchExportBatchSize "batch max export batch size"
    .ok { config with maxExportBatchSize := size }
  | .exportTimeoutMillis value => .ok { config with exportTimeout := optional value }

/-- `otel_batch_span_processor_builder_set_*`. -/
def batchSpanProcessorBuilderSet (builder : Ptr) (setting : BatchSetting) : Entry Unit :=
  withConfig .batchSpanProcessorBuilder builder fun b => do
    let config ← setting.apply b.config
    .ok { b with config := config }

/-- `otel_batch_span_processor_builder_build`. -/
def batchSpanProcessorBuilderBuild (builder : Ptr) (outIsNull : Bool) : Entry Nat := do
  checkOut outIsNull "out"
  let b ← checkedMut .batchSpanProcessorBuilder builder
  match b.exporter with
  | none =>
    Commit.ofExcept (fail .invalidConfig ("batch span processor builder requires an exporter " ++
      "(call otel_batch_span_processor_builder_set_exporter first)"))
  | some exporter => do
    store .batchSpanProcessorBuilder builder { b with exporter := none }
    intoRaw .spanProcessor (.batch b.config exporter)

/-- `otel_simple_span_processor_create`. -/
def simpleSpanProcessorCreate (exporter : Ptr) (outIsNull : Bool) : Entry Nat := do
  checkOut outIsNull "out"
  let owned ← take .traceExporter exporter
  intoRaw .spanProcessor (.simple owned)

/-! ### Log processors -/

/-- `otel_simple_log_processor_create`. -/
def simpleLogProcessorCreate (exporter : Ptr) (outIsNull : Bool) : Entry Nat := do
  checkOut outIsNull "out"
  let owned ← take .logExporter exporter
  intoRaw .logProcessor (.simple owned)

/-- `otel_batch_log_processor_builder_set_exporter`. -/
def batchLogProcessorBuilderSetExporter (builder exporter : Ptr) : Entry Unit := do
  let b ← checkedMut .batchLogProcessorBuilder builder
  let owned ← take .logExporter exporter
  store .batchLogProcessorBuilder builder { b with exporter := some owned }
  drop (b.exporter.map (·.id)).toList

/-- A setter of the batch log processor builder. -/
inductive BatchLogSetting where
  | maxQueueSize (value : Nat)
  | maxExportBatchSize (value : Nat)
  | scheduledDelayMillis (value : Nat)
  deriving DecidableEq

def BatchLogSetting.apply (b : BatchLogProcessorBuilder) :
    BatchLogSetting → BatchLogProcessorBuilder
  | .maxQueueSize value => { b with maxQueueSize := optional value }
  | .maxExportBatchSize value => { b with maxExportBatchSize := optional value }
  | .scheduledDelayMillis value => { b with scheduledDelayMillis := optional value }

/-- `otel_batch_log_processor_builder_set_*`. -/
def batchLogProcessorBuilderSet (builder : Ptr) (setting : BatchLogSetting) : Entry Unit :=
  withConfig .batchLogProcessorBuilder builder fun b => .ok (setting.apply b)

/-- The check across fields of `otel_batch_log_processor_builder_build`. -/
def BatchLogProcessorBuilder.checkSizes (b : BatchLogProcessorBuilder) : Except Fail Unit :=
  match b.maxQueueSize, b.maxExportBatchSize with
  | some queue, some batch =>
    if batch > queue then
      fail .invalidConfig "batch log processor max_export_batch_size must not exceed max_queue_size"
    else .ok ()
  | _, _ => .ok ()

/-- `otel_batch_log_processor_builder_build`. -/
def batchLogProcessorBuilderBuild (builder : Ptr) (outIsNull : Bool) : Entry Nat := do
  checkOut outIsNull "out"
  let b ← checkedMut .batchLogProcessorBuilder builder
  Commit.ofExcept b.checkSizes
  match b.exporter with
  | none => Commit.ofExcept (fail .invalidConfig "batch log processor requires an exporter")
  | some exporter => do
    store .batchLogProcessorBuilder builder { b with exporter := none }
    intoRaw .logProcessor
      (.batch b.maxQueueSize b.maxExportBatchSize b.scheduledDelayMillis exporter)

/-! ### Metrics readers -/

/-- The compile-time features that the readers depend on.  The OTLP exporters have features of their
own, without which there is no such exporter. -/
structure Features where
  metricsAsyncRuntime : Bool
  deriving DecidableEq

def readerRuntimeBlocking : UInt32 := 0

def readerRuntimeAsync : UInt32 := 1

/-- `otel_periodic_metric_reader_builder_set_runtime`. -/
def periodicMetricReaderBuilderSetRuntime (builder : Ptr) (runtime : UInt32) : Entry Unit :=
  withConfig .periodicMetricReaderBuilder builder fun b =>
    if runtime > readerRuntimeAsync then
      fail .invalidArgument "unknown periodic metric reader runtime"
    else .ok { b with runtime := runtime }

/-- `otel_periodic_metric_reader_builder_set_interval_millis`. -/
def periodicMetricReaderBuilderSetIntervalMillis (builder : Ptr) (millis : Nat) : Entry Unit :=
  withConfig .periodicMetricReaderBuilder builder fun b => .ok { b with interval := optional millis }

/-- `otel_periodic_metric_reader_builder_set_timeout_millis`. -/
def periodicMetricReaderBuilderSetTimeoutMillis (builder : Ptr) (millis : Nat) : Entry Unit :=
  withConfig .periodicMetricReaderBuilder builder fun b => .ok { b with timeout := optional millis }

/-- `otel_periodic_metric_reader_builder_set_exporter`, which does not replace an exporter. -/
def periodicMetricReaderBuilderSetExporter (builder exporter : Ptr) : Entry Unit := do
  let b ← checkedMut .periodicMetricReaderBuilder builder
  Commit.ofExcept (if b.exporter.isSome then
    fail .invalidConfig "periodic metric reader already has an exporter" else .ok ())
  let owned ← take .metricExporter exporter
  store .periodicMetricReaderBuilder builder { b with exporter := some owned }

/-- Whether the asynchronous reader can drive an exporter. -/
def checkAsyncExporter : MetricExporterImpl → Except Fail Unit
  | .otlpHttp _ =>
    fail .invalidConfig
      "the blocking OTLP/HTTP Metrics exporter is incompatible with the async reader"
  | .otlpGrpc _ =>
    fail .invalidConfig
      "the synchronous OTLP/gRPC Metrics exporter is incompatible with the async reader"
  | .custom _ => .ok ()

/-- The checks of `otel_periodic_metric_reader_builder_build` on the builder, in its order. -/
def PeriodicMetricReaderBuilder.check (features : Features) (b : PeriodicMetricReaderBuilder) :
    Except Fail Unit :=
  if b.runtime = readerRuntimeBlocking ∧ b.timeout.isSome then
    fail .invalidConfig "periodic metric reader export timeout requires the async runtime"
  else if b.runtime = readerRuntimeAsync then
    if features.metricsAsyncRuntime then
      match b.exporter with
      | some exporter => checkAsyncExporter exporter
      | none => .ok ()
    else
      fail .invalidConfig
        "async periodic Metrics reader is unavailable: rebuild with `metrics-async-runtime`"
  else .ok ()

/-- The checks of `build_async_reader` and the construction of tokio's runtime: what fails here
drops the exporter. -/
def asyncRuntime (exporter : MetricExporterImpl) (runtime : Except String Unit) :
    Except Fail Unit := do
  checkAsyncExporter exporter
  match runtime with
  | .error error => fail .internalError s!"failed to build async Metrics runtime: {error}"
  | .ok () => .ok ()

/-- `build_async_reader`, with what tokio's runtime builder returns. -/
def buildAsyncReader (exporter : MetricExporterImpl) (interval timeout : Option Nat)
    (runtime : Except String Unit) : Entry PeriodicMetricReaderImpl :=
  match asyncRuntime exporter runtime with
  | .error e => do
    drop [exporter.id]
    Commit.ofExcept (.error e)
  | .ok () => pure (.async exporter interval timeout)

/-- `build_reader`. -/
def buildReader (exporter : MetricExporterImpl) (interval : Option Nat) :
    PeriodicMetricReaderImpl := .reader exporter interval

/-- `otel_periodic_metric_reader_builder_build`. -/
def periodicMetricReaderBuilderBuild (features : Features) (builder : Ptr) (outIsNull : Bool)
    (runtime : Except String Unit) : Entry Nat := do
  checkOut outIsNull "out"
  let b ← checkedMut .periodicMetricReaderBuilder builder
  Commit.ofExcept (b.check features)
  match b.exporter with
  | none => Commit.ofExcept (fail .invalidConfig "periodic metric reader requires an exporter")
  | some exporter => do
    store .periodicMetricReaderBuilder builder { b with exporter := none }
    if b.runtime = readerRuntimeAsync then do
      let reader ← buildAsyncReader exporter b.interval b.timeout runtime
      intoRaw .periodicMetricReader reader
    else intoRaw .periodicMetricReader (buildReader exporter b.interval)

/-- `otel_periodic_metric_reader_destroy`; `current` when an async reader's own runtime calls it. -/
def periodicMetricReaderDestroy (reader : Ptr) (current : Bool) : Entry Unit := do
  let s ← Commit.state
  match s.arg .periodicMetricReader reader, current with
  | .live (.async _ _ _), true =>
    Commit.ofExcept (fail .invalidConfig
      "cannot destroy an async periodic Metrics reader from its own runtime callback")
  | _, _ => do
    let r ← take .periodicMetricReader reader
    drop [r.exporter.id]

/-- `otel_manual_metric_reader_new`. -/
def manualMetricReaderNew (exporter : Ptr) (outIsNull : Bool) : Entry Nat := do
  checkOut outIsNull "out"
  let owned ← take .metricExporter exporter
  intoRaw .manualMetricReader ⟨owned⟩

/-- `otel_manual_metric_reader_destroy`. -/
def manualMetricReaderDestroy (reader : Ptr) : Entry Unit := do
  let r ← take .manualMetricReader reader
  drop [r.exporter.id]

/-! ### The SDK -/

def maxSpanProcessors : Nat := 64

def maxMetricReaders : Nat := 64

def maxMetricViews : Nat := 1024

def maxLogProcessors : Nat := 64

/-- Every `otel_sdk_builder_add_*`: what there is already is counted, room is reserved, and only then
is the handle taken. -/
def sdkBuilderAdd (kind : Kind) (count : SdkBuilder → Nat) (limit : Nat) (what : String)
    (push : SdkBuilder → kind.Content → SdkBuilder) (builder p : Ptr) (reserved : Bool) :
    Entry Unit := do
  let b ← checkedMut .sdkBuilder builder
  Commit.ofExcept (if count b ≥ limit then
    fail .invalidConfig s!"SDK builder {what} limit exceeded" else .ok ())
  Commit.ofExcept (if reserved then .ok () else
    fail .internalError s!"failed to allocate space for a {what}")
  let owned ← take kind p
  store .sdkBuilder builder (push b owned)

def SdkBuilder.pushView (b : SdkBuilder) (view : MetricViewConfig) : SdkBuilder :=
  { b with metricViews := b.metricViews ++ [view] }

def SdkBuilder.pushReader (b : SdkBuilder) (reader : MetricReaderImpl) : SdkBuilder :=
  { b with metricReaders := b.metricReaders ++ [reader] }

def SdkBuilder.pushProcessor (b : SdkBuilder) (processor : SpanProcessorImpl) : SdkBuilder :=
  { b with processors := b.processors ++ [processor] }

def SdkBuilder.pushLogProcessor (b : SdkBuilder) (processor : LogProcessorImpl) : SdkBuilder :=
  { b with logProcessors := b.logProcessors ++ [processor] }

/-- `otel_sdk_builder_add_metric_view`. -/
def sdkBuilderAddMetricView : Ptr → Ptr → Bool → Entry Unit :=
  sdkBuilderAdd .metricView (·.metricViews.length) maxMetricViews "Metrics view" .pushView

/-- `otel_sdk_builder_add_metric_reader`. -/
def sdkBuilderAddMetricReader : Ptr → Ptr → Bool → Entry Unit :=
  sdkBuilderAdd .periodicMetricReader (·.metricReaders.length) maxMetricReaders "Metrics reader"
    fun b reader => b.pushReader (.periodic reader)

/-- `otel_sdk_builder_add_manual_metric_reader`. -/
def sdkBuilderAddManualMetricReader : Ptr → Ptr → Bool → Entry Unit :=
  sdkBuilderAdd .manualMetricReader (·.metricReaders.length) maxMetricReaders "Metrics reader"
    fun b reader => b.pushReader (.manual reader)

/-- `otel_sdk_builder_add_span_processor`. -/
def sdkBuilderAddSpanProcessor : Ptr → Ptr → Bool → Entry Unit :=
  sdkBuilderAdd .spanProcessor (·.processors.length) maxSpanProcessors "span processor"
    .pushProcessor

/-- `otel_sdk_builder_add_log_processor`. -/
def sdkBuilderAddLogProcessor : Ptr → Ptr → Bool → Entry Unit :=
  sdkBuilderAdd .logProcessor (·.logProcessors.length) maxLogProcessors "log processor"
    .pushLogProcessor

/-- `otel_sdk_build`. -/
def sdkBuild (builder : Ptr) (outIsNull : Bool) : Entry Nat := do
  checkOut outIsNull "out_sdk"
  let b ← checkedMut .sdkBuilder builder
  store .sdkBuilder builder .empty
  intoRaw .sdk ⟨b.processors, b.metricReaders, b.metricViews, b.logProcessors⟩

/-- Whether an SDK runs a reader with a runtime of its own. -/
def OtelSdk.hasAsyncReader (s : OtelSdk) : Bool :=
  s.metricReaders.any fun reader => match reader with
    | .periodic (.async _ _ _) => true
    | _ => false

/-- `otel_sdk_destroy`; `current` when the runtime of one of its readers calls it. -/
def sdkDestroy (sdk : Ptr) (current : Bool) : Entry Unit := do
  let s ← Commit.state
  match s.arg .sdk sdk with
  | .live content =>
    if content.hasAsyncReader && current then
      Commit.ofExcept (fail .invalidConfig
        "cannot destroy an SDK reentrantly from an async reader callback")
    else destroy .sdk sdk
  | _ => destroy .sdk sdk

/-! ### Calls -/

/-- The builders, each with the content `otel_*_builder_new` gives it. -/
inductive Builder where
  | otlpTraceExporter
  | otlpLogExporter
  | otlpMetricExporter
  | metricView
  | batchSpanProcessor
  | batchLogProcessor
  | periodicMetricReader
  | sdk
  deriving DecidableEq

def Builder.kind : Builder → Kind
  | .otlpTraceExporter => .otlpTraceExporterBuilder
  | .otlpLogExporter => .otlpLogExporterBuilder
  | .otlpMetricExporter => .otlpMetricExporterBuilder
  | .metricView => .metricViewBuilder
  | .batchSpanProcessor => .batchSpanProcessorBuilder
  | .batchLogProcessor => .batchLogProcessorBuilder
  | .periodicMetricReader => .periodicMetricReaderBuilder
  | .sdk => .sdkBuilder

def Builder.fresh : (builder : Builder) → builder.kind.Content
  | .otlpTraceExporter => ()
  | .otlpLogExporter => ()
  | .otlpMetricExporter => ()
  | .metricView => ()
  | .batchSpanProcessor => ⟨none, none, none, none, none⟩
  | .batchLogProcessor => ⟨none, none, none, none⟩
  | .periodicMetricReader => ⟨none, none, readerRuntimeBlocking, none⟩
  | .sdk => .empty

/-- The entry points, each with what the code it calls answers. -/
inductive Call where
  | builderNew (builder : Builder)
  | set (kind : Kind) (p : Ptr) (result : Except Fail Unit)
  | destroy (kind : Kind) (p : Ptr) (current : Bool)
  | customTraceExporterNew (outIsNull : Bool) (checked : Except Fail Unit)
  | customLogExporterNew (outIsNull : Bool) (checked : Except Fail Unit)
  | customMetricExporterNew (outIsNull : Bool) (checked : Except Fail Unit)
  | otlpTraceExporterBuilderBuild (builder : Ptr) (outIsNull : Bool) (built : Except Fail Unit)
  | otlpLogExporterBuilderBuild (builder : Ptr) (outIsNull : Bool) (built : Except Fail Unit)
  | otlpMetricExporterBuilderBuild (builder : Ptr) (outIsNull : Bool)
    (built : Except Fail OtlpTransport)
  | metricViewBuilderBuild (builder : Ptr) (outIsNull : Bool) (checked : Except Fail Unit)
  | batchSpanProcessorBuilderSetExporter (builder exporter : Ptr)
  | batchSpanProcessorBuilderSet (builder : Ptr) (setting : BatchSetting)
  | batchSpanProcessorBuilderBuild (builder : Ptr) (outIsNull : Bool)
  | simpleSpanProcessorCreate (exporter : Ptr) (outIsNull : Bool)
  | batchLogProcessorBuilderSetExporter (builder exporter : Ptr)
  | batchLogProcessorBuilderSet (builder : Ptr) (setting : BatchLogSetting)
  | batchLogProcessorBuilderBuild (builder : Ptr) (outIsNull : Bool)
  | simpleLogProcessorCreate (exporter : Ptr) (outIsNull : Bool)
  | periodicMetricReaderBuilderSetRuntime (builder : Ptr) (runtime : UInt32)
  | periodicMetricReaderBuilderSetIntervalMillis (builder : Ptr) (millis : Nat)
  | periodicMetricReaderBuilderSetTimeoutMillis (builder : Ptr) (millis : Nat)
  | periodicMetricReaderBuilderSetExporter (builder exporter : Ptr)
  | periodicMetricReaderBuilderBuild (builder : Ptr) (outIsNull : Bool)
    (runtime : Except String Unit)
  | manualMetricReaderNew (exporter : Ptr) (outIsNull : Bool)
  | sdkBuilderAddMetricView (builder view : Ptr) (reserved : Bool)
  | sdkBuilderAddMetricReader (builder reader : Ptr) (reserved : Bool)
  | sdkBuilderAddManualMetricReader (builder reader : Ptr) (reserved : Bool)
  | sdkBuilderAddSpanProcessor (builder processor : Ptr) (reserved : Bool)
  | sdkBuilderAddLogProcessor (builder processor : Ptr) (reserved : Bool)
  | sdkBuild (builder : Ptr) (outIsNull : Bool)

/-- A call that returns nothing but a status. -/
def status (entry : Entry Unit) : Entry (Option Nat) := do
  entry
  pure none

/-- A call that makes a handle. -/
def made (entry : Entry Nat) : Entry (Option Nat) := do
  let h ← entry
  pure (some h)

/-- Every `otel_*_destroy`. -/
def handleDestroy (kind : Kind) (p : Ptr) (current : Bool) : Entry Unit :=
  match kind with
  | .periodicMetricReader => periodicMetricReaderDestroy p current
  | .manualMetricReader => manualMetricReaderDestroy p
  | .sdk => sdkDestroy p current
  | kind => Pipeline.destroy kind p

/-- What a call does; `set` stands for the setters of what is not kept here. -/
def Call.entry (features : Features) : Call → Entry (Option Nat)
  | .builderNew builder => made (intoRaw builder.kind builder.fresh)
  | .set kind p result => status (withConfig kind p fun content => result.map fun _ => content)
  | .destroy kind p current => status (handleDestroy kind p current)
  | .customTraceExporterNew out checked => made (Pipeline.customTraceExporterNew out checked)
  | .customLogExporterNew out checked => made (Pipeline.customLogExporterNew out checked)
  | .customMetricExporterNew out checked => made (Pipeline.customMetricExporterNew out checked)
  | .otlpTraceExporterBuilderBuild b out built =>
    made (Pipeline.otlpTraceExporterBuilderBuild b out built)
  | .otlpLogExporterBuilderBuild b out built =>
    made (Pipeline.otlpLogExporterBuilderBuild b out built)
  | .otlpMetricExporterBuilderBuild b out built =>
    made (Pipeline.otlpMetricExporterBuilderBuild b out built)
  | .metricViewBuilderBuild b out checked => made (Pipeline.metricViewBuilderBuild b out checked)
  | .batchSpanProcessorBuilderSetExporter b e =>
    status (Pipeline.batchSpanProcessorBuilderSetExporter b e)
  | .batchSpanProcessorBuilderSet b setting =>
    status (Pipeline.batchSpanProcessorBuilderSet b setting)
  | .batchSpanProcessorBuilderBuild b out => made (Pipeline.batchSpanProcessorBuilderBuild b out)
  | .simpleSpanProcessorCreate e out => made (Pipeline.simpleSpanProcessorCreate e out)
  | .batchLogProcessorBuilderSetExporter b e =>
    status (Pipeline.batchLogProcessorBuilderSetExporter b e)
  | .batchLogProcessorBuilderSet b setting => status (Pipeline.batchLogProcessorBuilderSet b setting)
  | .batchLogProcessorBuilderBuild b out => made (Pipeline.batchLogProcessorBuilderBuild b out)
  | .simpleLogProcessorCreate e out => made (Pipeline.simpleLogProcessorCreate e out)
  | .periodicMetricReaderBuilderSetRuntime b runtime =>
    status (Pipeline.periodicMetricReaderBuilderSetRuntime b runtime)
  | .periodicMetricReaderBuilderSetIntervalMillis b millis =>
    status (Pipeline.periodicMetricReaderBuilderSetIntervalMillis b millis)
  | .periodicMetricReaderBuilderSetTimeoutMillis b millis =>
    status (Pipeline.periodicMetricReaderBuilderSetTimeoutMillis b millis)
  | .periodicMetricReaderBuilderSetExporter b e =>
    status (Pipeline.periodicMetricReaderBuilderSetExporter b e)
  | .periodicMetricReaderBuilderBuild b out runtime =>
    made (Pipeline.periodicMetricReaderBuilderBuild features b out runtime)
  | .manualMetricReaderNew e out => made (Pipeline.manualMetricReaderNew e out)
  | .sdkBuilderAddMetricView b p reserved => status (Pipeline.sdkBuilderAddMetricView b p reserved)
  | .sdkBuilderAddMetricReader b p reserved =>
    status (Pipeline.sdkBuilderAddMetricReader b p reserved)
  | .sdkBuilderAddManualMetricReader b p reserved =>
    status (Pipeline.sdkBuilderAddManualMetricReader b p reserved)
  | .sdkBuilderAddSpanProcessor b p reserved =>
    status (Pipeline.sdkBuilderAddSpanProcessor b p reserved)
  | .sdkBuilderAddLogProcessor b p reserved =>
    status (Pipeline.sdkBuilderAddLogProcessor b p reserved)
  | .sdkBuild b out => made (Pipeline.sdkBuild b out)

/-- What a call returns. -/
def Call.result (features : Features) (call : Call) (s : State) : Except Fail (Option Nat) :=
  (Commit.exec (call.entry features) s).1

/-- The state a call leaves. -/
def Call.after (features : Features) (call : Call) (s : State) : State :=
  (Commit.exec (call.entry features) s).2

def attempt (features : Features) (s : State) (call : Call) : Option State :=
  some (call.after features s)

end OtelC.Sdk.Pipeline
