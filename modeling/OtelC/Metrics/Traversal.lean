import OtelC.Lib.Walk
import OtelC.Metrics.BatchVisit
import OtelC.Trace.AttributeReading

/-!
# The traversal of a metric batch

`otel_metric_batch_visit` walks the tree of a batch and shows each part of it to the callback that the
visitor has for it, if any.  The first callback that does not answer OK ends the walk.  What a callback
answers may depend on all that it and the others have been shown.

The union of the three kinds of numbers is its eight bytes, in which a double is given by its bits.
-/

namespace OtelC.MetricBatch

open Sdk (F64Bits KeyValue OtelAttributeValue InstrumentationScope Resource)
open Logs (SystemTime)
open Sdk.Custom (statusCode)
open Trace (OtelSpanArrayView OtelSpanAttributeValue OtelSpanAttribute boolToU32)
open Walk (Program Answers call)

/-! ### Aggregated metrics -/

structure Exemplar (T : Type) where
  filteredAttributes : List KeyValue
  time : SystemTime
  value : T
  spanId : Bytes 8
  traceId : Bytes 16

structure GaugeDataPoint (T : Type) where
  attributes : List KeyValue
  value : T
  exemplars : List (Exemplar T)

structure Gauge (T : Type) where
  dataPoints : List (GaugeDataPoint T)
  startTime : Option SystemTime
  time : SystemTime

structure SumDataPoint (T : Type) where
  attributes : List KeyValue
  value : T
  exemplars : List (Exemplar T)

structure Sum (T : Type) where
  dataPoints : List (SumDataPoint T)
  startTime : SystemTime
  time : SystemTime
  temporality : Temporality
  isMonotonic : Bool

structure HistogramDataPoint (T : Type) where
  attributes : List KeyValue
  count : UInt64
  bounds : List F64Bits
  bucketCounts : List UInt64
  min : Option T
  max : Option T
  sum : T
  exemplars : List (Exemplar T)

structure Histogram (T : Type) where
  dataPoints : List (HistogramDataPoint T)
  startTime : SystemTime
  time : SystemTime
  temporality : Temporality

structure ExponentialBucket where
  offset : Int32
  counts : List UInt64

/-- The count is a `usize`, which fits the `u64` of the view on a 64-bit target. -/
structure ExponentialHistogramDataPoint (T : Type) where
  attributes : List KeyValue
  count : UInt64
  min : Option T
  max : Option T
  sum : T
  scale : Int8
  zeroCount : UInt64
  positiveBucket : ExponentialBucket
  negativeBucket : ExponentialBucket
  zeroThreshold : F64Bits
  exemplars : List (Exemplar T)

structure ExponentialHistogram (T : Type) where
  dataPoints : List (ExponentialHistogramDataPoint T)
  startTime : SystemTime
  time : SystemTime
  temporality : Temporality

inductive MetricData (T : Type) where
  | gauge (data : Gauge T)
  | sum (data : Sum T)
  | histogram (data : Histogram T)
  | exponentialHistogram (data : ExponentialHistogram T)

inductive AggregatedMetrics where
  | u64 (data : MetricData UInt64)
  | i64 (data : MetricData Int64)
  | f64 (data : MetricData F64Bits)

structure Metric where
  name : Str
  description : Str
  unit : Str
  data : AggregatedMetrics

structure ScopeMetrics where
  scope : InstrumentationScope
  metrics : List Metric

structure ResourceMetrics where
  resource : Resource
  scopeMetrics : List ScopeMetrics

/-! ### What callbacks are shown -/

/-- `OTEL_METRIC_NUMBER_…`. -/
def numberU64 : UInt32 := 0
def numberI64 : UInt32 := 1
def numberF64 : UInt32 := 2

/-- `OTEL_METRIC_DATA_…`. -/
def dataGauge : UInt32 := 0
def dataSum : UInt32 := 1
def dataHistogram : UInt32 := 2
def dataExponentialHistogram : UInt32 := 3

/-- `OtelMetricAttribute`, which is declared like the attribute of an exported span. -/
abbrev OtelMetricAttribute := OtelSpanAttribute

structure OtelMetricNumber where
  bits : UInt64
  deriving DecidableEq

structure OtelMetricMetadata where
  name : OtelStringView
  description : OtelStringView
  unit : OtelStringView
  dataKind : UInt32
  numberKind : UInt32

structure OtelMetricPoint where
  pointIndex : Nat
  startTimeUnixNanos : UInt64
  timeUnixNanos : UInt64
  temporality : UInt32
  isMonotonic : UInt32
  value : OtelMetricNumber
  count : UInt64
  sum : OtelMetricNumber
  min : OtelMetricNumber
  max : OtelMetricNumber
  hasMin : UInt32
  hasMax : UInt32
  scale : Int8
  padding : Bytes 7
  zeroCount : UInt64
  zeroThreshold : F64Bits
  positiveBucketOffset : Int32
  negativeBucketOffset : Int32

structure OtelMetricExemplar where
  pointIndex : Nat
  exemplarIndex : Nat
  timeUnixNanos : UInt64
  value : OtelMetricNumber
  spanId : Bytes 8
  traceId : Bytes 16

/-- A call of one of the visitor's callbacks, with its arguments in their order. -/
inductive VisitorCall where
  | resource (attributes : List OtelMetricAttribute)
  | scope (name version schemaUrl : OtelStringView) (attributes : List OtelMetricAttribute)
  | metric (metadata : OtelMetricMetadata)
  | point (summary : OtelMetricPoint) (attributes : List OtelMetricAttribute)
      (bounds : CSlice F64Bits) (bucketCounts positive negative : CSlice UInt64)
  | exemplar (summary : OtelMetricExemplar) (attributes : List OtelMetricAttribute)

/-- Which callbacks of an `OtelMetricVisitor` are not NULL. -/
structure OtelMetricVisitor where
  resource : Bool
  scope : Bool
  metric : Bool
  point : Bool
  exemplar : Bool

/-! ### Attributes -/

inductive AttributeBacking where
  | scalar (value : OtelAttributeValue)
  | boolArray (values : List UInt32)
  | i64Array (values : List Int64)
  | f64Array (values : List F64Bits)
  | stringArray (values : List OtelStringView)

structure ConvertedAttribute where
  key : Str
  valueType : UInt32
  backing : AttributeBacking

/-- `convert_attribute_parts`. -/
def convertAttributeParts (key : Str) : Sdk.Value → ConvertedAttribute
  | .string s => ⟨key, 0, .scalar ⟨viewOf s, 0, 0, 0⟩⟩
  | .bool b => ⟨key, 1, .scalar ⟨.null 0, boolToU32 b, 0, 0⟩⟩
  | .i64 n => ⟨key, 2, .scalar ⟨.null 0, 0, n, 0⟩⟩
  | .f64 x => ⟨key, 3, .scalar ⟨.null 0, 0, 0, x⟩⟩
  | .array (.string values) => ⟨key, 4, .stringArray (values.map viewOf)⟩
  | .array (.bool values) => ⟨key, 5, .boolArray (values.map boolToU32)⟩
  | .array (.i64 values) => ⟨key, 6, .i64Array values⟩
  | .array (.f64 values) => ⟨key, 7, .f64Array values⟩

/-- `convert_attribute`. -/
def convertAttribute (kv : KeyValue) : ConvertedAttribute := convertAttributeParts kv.key kv.value

def AttributeBacking.view : AttributeBacking → OtelSpanAttributeValue
  | .scalar value => { scalar := value }
  | .boolArray values => { array := { bools := .elems values } }
  | .i64Array values => { array := { ints := .elems values } }
  | .f64Array values => { array := { doubles := .elems values } }
  | .stringArray values => { array := { strings := .elems values } }

/-- The views that `call_with_converted_attributes` makes. -/
def convertedViews (converted : List ConvertedAttribute) : List OtelMetricAttribute :=
  converted.map fun a => ⟨viewOf a.key, a.valueType, a.backing.view⟩

/-- What `with_attributes` hands to its callback. -/
def withAttributes (attributes : List KeyValue) : List OtelMetricAttribute :=
  convertedViews (attributes.map convertAttribute)

/-- What `with_resource_attributes` hands to its callback. -/
def withResourceAttributes (metrics : ResourceMetrics) : List OtelMetricAttribute :=
  convertedViews (metrics.resource.attributes.map fun kv => convertAttributeParts kv.key kv.value)

/-! ### Times and numbers -/

/-- `timestamp`. -/
def timestamp : SystemTime → Except Fail UInt64 :=
  Logs.nanosSinceEpoch .internalError "metric timestamp predates Unix epoch"
    "metric timestamp exceeds the C nanosecond range"

/-- `optional_timestamp`. -/
def optionalTimestamp : Option SystemTime → Except Fail UInt64
  | none => .ok 0
  | some value => timestamp value

/-- `temporality`. -/
def temporality : Temporality → UInt32
  | .cumulative => 1
  | .delta => 2
  | .lowMemory => 3

class Number (T : Type) where
  intoAbi : T → OtelMetricNumber

/-- `u64`, and `f64` by its bits. -/
instance : Number UInt64 := ⟨fun x => ⟨x⟩⟩

instance : Number Int64 := ⟨fun x => ⟨x.toUInt64⟩⟩

def zeroNumber : OtelMetricNumber := ⟨0⟩

/-- `map(Number::into_abi).unwrap_or_else(zero_number)`. -/
def optionalNumber {T : Type} [Number T] (value : Option T) : OtelMetricNumber :=
  (value.map Number.intoAbi).getD zeroNumber

/-! ### The walk -/

/-- Why a walk ends early: the status it returns, and the message. -/
structure Stop where
  status : UInt32
  message : String

def Stop.ofFail (e : Fail) : Stop := ⟨statusCode e.status, e.message⟩

/-- The name of a callback in the message about its failure. -/
def VisitorCall.operation : VisitorCall → String
  | .resource _ => "resource"
  | .scope _ _ _ _ => "scope"
  | .metric _ => "metric"
  | .point _ _ _ _ _ _ => "point"
  | .exemplar _ _ => "exemplar"

/-- `check`, on the status with which a callback returned. -/
def check (status : UInt32) (operation : String) : Option Stop :=
  if status = statusCode .ok then none
  else some ⟨status, s!"custom metric visitor {operation} callback failed"⟩

/-- What the last of these calls comes to, by the status it returned. -/
def answers (status : List VisitorCall → UInt32) : Answers VisitorCall Stop := fun calls =>
  check (status calls) ((calls.getLast?.map VisitorCall.operation).getD "")

/-- A program that may show things to the visitor. -/
abbrev Visit := Program VisitorCall Stop

/-- A check that may end the walk without a call. -/
def attempt {α : Type} (r : Except Fail α) : Visit α := Commit.ofExcept (r.mapError Stop.ofFail)

section Visitor

variable (status : List VisitorCall → UInt32) (callbacks : OtelMetricVisitor)
variable {T : Type} [Number T]

/-- One turn of the loop of `visit_exemplars`. -/
def visitExemplar (pointIndex exemplarIndex : Nat) (exemplar : Exemplar T) : Visit Unit := do
  let time ← attempt (timestamp exemplar.time)
  call (answers status) (.exemplar
    { pointIndex
      exemplarIndex
      timeUnixNanos := time
      value := Number.intoAbi exemplar.value
      spanId := exemplar.spanId
      traceId := exemplar.traceId } (withAttributes exemplar.filteredAttributes))

def visitExemplars (pointIndex : Nat) (exemplars : List (Exemplar T)) : Visit Unit :=
  if callbacks.exemplar then
    exemplars.zipIdx.forM fun entry => visitExemplar status pointIndex entry.2 entry.1
  else pure ()

/-- The call of the point callback, which the four kinds of data share. -/
def visitPoint (summary : OtelMetricPoint) (attributes : List KeyValue) (bounds : CSlice F64Bits)
    (bucketCounts positive negative : CSlice UInt64) : Visit Unit :=
  if callbacks.point then
    call (answers status)
      (.point summary (withAttributes attributes) bounds bucketCounts positive negative)
  else pure ()

def visitGaugePoint (gauge : Gauge T) (pointIndex : Nat) (point : GaugeDataPoint T) :
    Visit Unit := do
  let startTime ← attempt (optionalTimestamp gauge.startTime)
  let time ← attempt (timestamp gauge.time)
  visitPoint status callbacks
    { pointIndex
      startTimeUnixNanos := startTime
      timeUnixNanos := time
      temporality := 0
      isMonotonic := 0
      value := Number.intoAbi point.value
      count := 0
      sum := zeroNumber
      min := zeroNumber
      max := zeroNumber
      hasMin := 0
      hasMax := 0
      scale := 0
      padding := Bytes.zero 7
      zeroCount := 0
      zeroThreshold := 0
      positiveBucketOffset := 0
      negativeBucketOffset := 0 }
    point.attributes (.null 0) (.null 0) (.null 0) (.null 0)
  visitExemplars status callbacks pointIndex point.exemplars

def visitGauge (gauge : Gauge T) : Visit Unit :=
  gauge.dataPoints.zipIdx.forM fun entry =>
    visitGaugePoint status callbacks gauge entry.2 entry.1

def visitSumPoint (sum : Sum T) (pointIndex : Nat) (point : SumDataPoint T) : Visit Unit := do
  let startTime ← attempt (timestamp sum.startTime)
  let time ← attempt (timestamp sum.time)
  visitPoint status callbacks
    { pointIndex
      startTimeUnixNanos := startTime
      timeUnixNanos := time
      temporality := temporality sum.temporality
      isMonotonic := boolToU32 sum.isMonotonic
      value := Number.intoAbi point.value
      count := 0
      sum := zeroNumber
      min := zeroNumber
      max := zeroNumber
      hasMin := 0
      hasMax := 0
      scale := 0
      padding := Bytes.zero 7
      zeroCount := 0
      zeroThreshold := 0
      positiveBucketOffset := 0
      negativeBucketOffset := 0 }
    point.attributes (.null 0) (.null 0) (.null 0) (.null 0)
  visitExemplars status callbacks pointIndex point.exemplars

def visitSum (sum : Sum T) : Visit Unit :=
  sum.dataPoints.zipIdx.forM fun entry => visitSumPoint status callbacks sum entry.2 entry.1

def visitHistogramPoint (histogram : Histogram T) (pointIndex : Nat)
    (point : HistogramDataPoint T) : Visit Unit := do
  let startTime ← attempt (timestamp histogram.startTime)
  let time ← attempt (timestamp histogram.time)
  visitPoint status callbacks
    { pointIndex
      startTimeUnixNanos := startTime
      timeUnixNanos := time
      temporality := temporality histogram.temporality
      isMonotonic := 0
      value := zeroNumber
      count := point.count
      sum := Number.intoAbi point.sum
      min := optionalNumber point.min
      max := optionalNumber point.max
      hasMin := boolToU32 point.min.isSome
      hasMax := boolToU32 point.max.isSome
      scale := 0
      padding := Bytes.zero 7
      zeroCount := 0
      zeroThreshold := 0
      positiveBucketOffset := 0
      negativeBucketOffset := 0 }
    point.attributes (.elems point.bounds) (.elems point.bucketCounts) (.null 0) (.null 0)
  visitExemplars status callbacks pointIndex point.exemplars

def visitHistogram (histogram : Histogram T) : Visit Unit :=
  histogram.dataPoints.zipIdx.forM fun entry =>
    visitHistogramPoint status callbacks histogram entry.2 entry.1

def visitExponentialHistogramPoint (histogram : ExponentialHistogram T) (pointIndex : Nat)
    (point : ExponentialHistogramDataPoint T) : Visit Unit := do
  let startTime ← attempt (timestamp histogram.startTime)
  let time ← attempt (timestamp histogram.time)
  visitPoint status callbacks
    { pointIndex
      startTimeUnixNanos := startTime
      timeUnixNanos := time
      temporality := temporality histogram.temporality
      isMonotonic := 0
      value := zeroNumber
      count := point.count
      sum := Number.intoAbi point.sum
      min := optionalNumber point.min
      max := optionalNumber point.max
      hasMin := boolToU32 point.min.isSome
      hasMax := boolToU32 point.max.isSome
      scale := point.scale
      padding := Bytes.zero 7
      zeroCount := point.zeroCount
      zeroThreshold := point.zeroThreshold
      positiveBucketOffset := point.positiveBucket.offset
      negativeBucketOffset := point.negativeBucket.offset }
    point.attributes (.null 0) (.null 0) (.elems point.positiveBucket.counts)
    (.elems point.negativeBucket.counts)
  visitExemplars status callbacks pointIndex point.exemplars

def visitExponentialHistogram (histogram : ExponentialHistogram T) : Visit Unit :=
  histogram.dataPoints.zipIdx.forM fun entry =>
    visitExponentialHistogramPoint status callbacks histogram entry.2 entry.1

def announceMetric (metric : Metric) (dataKind numberKind : UInt32) : Visit Unit :=
  if callbacks.metric then
    call (answers status) (.metric
      { name := viewOf metric.name
        description := viewOf metric.description
        unit := viewOf metric.unit
        dataKind
        numberKind })
  else pure ()

/-- The macro `visit_data` of `visit_metric`. -/
def visitData (metric : Metric) (numberKind : UInt32) : MetricData T → Visit Unit
  | .gauge data => do
    announceMetric status callbacks metric dataGauge numberKind
    visitGauge status callbacks data
  | .sum data => do
    announceMetric status callbacks metric dataSum numberKind
    visitSum status callbacks data
  | .histogram data => do
    announceMetric status callbacks metric dataHistogram numberKind
    visitHistogram status callbacks data
  | .exponentialHistogram data => do
    announceMetric status callbacks metric dataExponentialHistogram numberKind
    visitExponentialHistogram status callbacks data

def visitMetric (metric : Metric) : Visit Unit :=
  match metric.data with
  | .u64 data => visitData status callbacks metric numberU64 data
  | .i64 data => visitData status callbacks metric numberI64 data
  | .f64 data => visitData status callbacks metric numberF64 data

def visitScope (scope : ScopeMetrics) : Visit Unit := do
  if callbacks.scope then
    call (answers status) (.scope (viewOf scope.scope.name)
      (viewOf (scope.scope.version.getD [])) (viewOf (scope.scope.schemaUrl.getD []))
      (withAttributes scope.scope.attributes))
  else pure ()
  scope.metrics.forM (visitMetric status callbacks)

/-- `otel_metric_batch_visit` from the traversal on. -/
def traverse (metrics : ResourceMetrics) : Visit Unit := do
  if callbacks.resource then call (answers status) (.resource (withResourceAttributes metrics))
  else pure ()
  metrics.scopeMetrics.forM (visitScope status callbacks)

end Visitor

/-- `otel_metric_batch_visit`: the status it returns and the calls it makes, on a thread with these
active batches. -/
def otelMetricBatchVisit (lists : Registry.ThreadLists ResourceMetrics) (thread : Nat)
    (batch : UInt64) (visitor : Metrics.VisitorArg) (callbacks : OtelMetricVisitor)
    (status : List VisitorCall → UInt32) : UInt32 × List VisitorCall :=
  match Metrics.otelMetricBatchVisit lists thread batch visitor with
  | .error e => (statusCode e.status, [])
  | .ok metrics =>
    match Commit.exec (traverse status callbacks metrics) [] with
    | (.ok (), made) => (statusCode .ok, made)
    | (.error stop, made) => (stop.status, made)

end OtelC.MetricBatch
