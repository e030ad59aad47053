import OtelC.Metrics.Traversal

/-!
# A batch in the order of its traversal

What the visitor is meant to be shown: the parts of the tree in preorder, with the numbers of the three
types and the data of the four kinds brought together.  A part is denoted by a call of a callback when
reading the call's arguments, in the way that the metric they belong to was announced, gives the part
back.

* `walks_traverse`: the traversal walks the preorder, without the parts nobody wants to be shown.
* `batch_visit_exact`: the calls made are a prefix of it, up to the first failure.
-/

namespace OtelC.MetricBatch

open Sdk (F64Bits KeyValue InstrumentationScope Resource)
open Logs (SystemTime)
open Sdk.Custom (statusCode)
open Trace (readAttributesOf textOf SpellsOptional boolOf boolToU32 Representable)
open Walk (Walks Ends call walks_pure walks_call walks_optional walks_optional_then walks_ofExcept)

/-! ### The parts of a batch -/

inductive Num where
  | u64 (n : UInt64)
  | i64 (n : Int64)
  | f64 (x : F64Bits)

inductive NumberKind where
  | u64
  | i64
  | f64

/-- `OTEL_METRIC_NUMBER_…`. -/
def NumberKind.code : NumberKind → UInt32
  | .u64 => 0
  | .i64 => 1
  | .f64 => 2

/-- The member of the union that is read for a kind of number. -/
def OtelMetricNumber.read (number : OtelMetricNumber) : NumberKind → Num
  | .u64 => .u64 number.bits
  | .i64 => .i64 number.bits.toInt64
  | .f64 => .f64 number.bits

inductive PointValue where
  | gauge (value : Num)
  | sum (temporality : Temporality) (monotonic : Bool) (value : Num)
  | histogram (temporality : Temporality) (count : UInt64) (sum : Num) (min max : Option Num)
      (bounds : List F64Bits) (bucketCounts : List UInt64)
  | exponentialHistogram (temporality : Temporality) (count : UInt64) (sum : Num)
      (min max : Option Num) (scale : Int8) (zeroCount : UInt64) (zeroThreshold : F64Bits)
      (positive negative : ExponentialBucket)

def Exemplar.map {T U : Type} (f : T → U) (exemplar : Exemplar T) : Exemplar U :=
  { exemplar with value := f exemplar.value }

/-- A point of whatever kind. -/
structure DataPoint where
  attributes : List KeyValue
  startTime : Option SystemTime
  time : SystemTime
  value : PointValue
  exemplars : List (Exemplar Num)

section Points

variable {T : Type} (num : T → Num)

def GaugeDataPoint.point (gauge : Gauge T) (point : GaugeDataPoint T) : DataPoint :=
  ⟨point.attributes, gauge.startTime, gauge.time, .gauge (num point.value),
    point.exemplars.map (Exemplar.map num)⟩

def SumDataPoint.point (sum : Sum T) (point : SumDataPoint T) : DataPoint :=
  ⟨point.attributes, some sum.startTime, sum.time,
    .sum sum.temporality sum.isMonotonic (num point.value),
    point.exemplars.map (Exemplar.map num)⟩

def HistogramDataPoint.point (histogram : Histogram T) (point : HistogramDataPoint T) : DataPoint :=
  ⟨point.attributes, some histogram.startTime, histogram.time,
    .histogram histogram.temporality point.count (num point.sum) (point.min.map num)
      (point.max.map num) point.bounds point.bucketCounts,
    point.exemplars.map (Exemplar.map num)⟩

def ExponentialHistogramDataPoint.point (histogram : ExponentialHistogram T)
    (point : ExponentialHistogramDataPoint T) : DataPoint :=
  ⟨point.attributes, some histogram.startTime, histogram.time,
    .exponentialHistogram histogram.temporality point.count (num point.sum) (point.min.map num)
      (point.max.map num) point.scale point.zeroCount point.zeroThreshold point.positiveBucket
      point.negativeBucket,
    point.exemplars.map (Exemplar.map num)⟩

def MetricData.points : MetricData T → List DataPoint
  | .gauge data => data.dataPoints.map (GaugeDataPoint.point num data)
  | .sum data => data.dataPoints.map (SumDataPoint.point num data)
  | .histogram data => data.dataPoints.map (HistogramDataPoint.point num data)
  | .exponentialHistogram data => data.dataPoints.map (ExponentialHistogramDataPoint.point num data)

/-- `OTEL_METRIC_DATA_…`. -/
def MetricData.kindCode : MetricData T → UInt32
  | .gauge _ => 0
  | .sum _ => 1
  | .histogram _ => 2
  | .exponentialHistogram _ => 3

end Points

def Metric.numberKind (metric : Metric) : NumberKind :=
  match metric.data with
  | .u64 _ => .u64
  | .i64 _ => .i64
  | .f64 _ => .f64

def Metric.kindCode (metric : Metric) : UInt32 :=
  match metric.data with
  | .u64 data => data.kindCode
  | .i64 data => data.kindCode
  | .f64 data => data.kindCode

def Metric.points (metric : Metric) : List DataPoint :=
  match metric.data with
  | .u64 data => data.points .u64
  | .i64 data => data.points .i64
  | .f64 data => data.points .f64

/-! ### Preorder -/

/-- A part of a batch, with its place in the parts around it. -/
inductive Node where
  | resource (resource : Resource)
  | scope (scope : InstrumentationScope)
  | metric (metric : Metric)
  | point (number : NumberKind) (pointIndex : Nat) (point : DataPoint)
  | exemplar (number : NumberKind) (pointIndex exemplarIndex : Nat) (exemplar : Exemplar Num)

def DataPoint.nodes (number : NumberKind) (pointIndex : Nat) (point : DataPoint) : List Node :=
  .point number pointIndex point ::
    point.exemplars.zipIdx.map fun entry => .exemplar number pointIndex entry.2 entry.1

def Metric.nodes (metric : Metric) : List Node :=
  .metric metric ::
    metric.points.zipIdx.flatMap fun entry => entry.1.nodes metric.numberKind entry.2

def ScopeMetrics.nodes (scope : ScopeMetrics) : List Node :=
  .scope scope.scope :: scope.metrics.flatMap Metric.nodes

def ResourceMetrics.preorder (metrics : ResourceMetrics) : List Node :=
  .resource metrics.resource :: metrics.scopeMetrics.flatMap ScopeMetrics.nodes

/-- Whether the visitor has a callback for a part. -/
def OtelMetricVisitor.wants (callbacks : OtelMetricVisitor) : Node → Bool
  | .resource _ => callbacks.resource
  | .scope _ => callbacks.scope
  | .metric _ => callbacks.metric
  | .point _ _ _ => callbacks.point
  | .exemplar _ _ _ _ => callbacks.exemplar

/-! ### What a call says -/

def readOptional (has : UInt32) (number : OtelMetricNumber) (kind : NumberKind) : Option Num :=
  if boolOf has then some (number.read kind) else none

/-- A kind of data that has no use for an array is shown a NULL one. -/
def Unused {α : Type} (values : CSlice α) : Prop := values = .null 0

/-- The values of a point, as they are read from the summary and the arrays beside it. -/
def ValueDenotes (number : NumberKind) (p : OtelMetricPoint) (bounds : CSlice F64Bits)
    (bucketCounts positive negative : CSlice UInt64) : PointValue → Prop
  | .gauge value =>
    p.value.read number = value ∧ p.temporality = 0 ∧ boolOf p.isMonotonic = false ∧
      Unused bounds ∧ Unused bucketCounts ∧ Unused positive ∧ Unused negative
  | .sum t monotonic value =>
    p.value.read number = value ∧ p.temporality = temporality t ∧
      boolOf p.isMonotonic = monotonic ∧
      Unused bounds ∧ Unused bucketCounts ∧ Unused positive ∧ Unused negative
  | .histogram t count sum min max bounds' bucketCounts' =>
    p.temporality = temporality t ∧ p.count = count ∧ p.sum.read number = sum ∧
      readOptional p.hasMin p.min number = min ∧ readOptional p.hasMax p.max number = max ∧
      bounds.read = bounds' ∧ bucketCounts.read = bucketCounts' ∧ Unused positive ∧ Unused negative
  | .exponentialHistogram t count sum min max scale zeroCount zeroThreshold positive' negative' =>
    p.temporality = temporality t ∧ p.count = count ∧ p.sum.read number = sum ∧
      readOptional p.hasMin p.min number = min ∧ readOptional p.hasMax p.max number = max ∧
      p.scale = scale ∧ p.zeroCount = zeroCount ∧ p.zeroThreshold = zeroThreshold ∧
      p.positiveBucketOffset = positive'.offset ∧ positive.read = positive'.counts ∧
      p.negativeBucketOffset = negative'.offset ∧ negative.read = negative'.counts ∧
      Unused bounds ∧ Unused bucketCounts

/-- A call that shows the visitor a part. -/
def Denotes : Node → VisitorCall → Prop
  | .resource resource, .resource attributes =>
    readAttributesOf attributes = some resource.attributes
  | .scope scope, .scope name version schemaUrl attributes =>
    textOf name = some scope.name ∧ SpellsOptional version scope.version ∧
      SpellsOptional schemaUrl scope.schemaUrl ∧
      readAttributesOf attributes = some scope.attributes
  | .metric metric, .metric metadata =>
    textOf metadata.name = some metric.name ∧
      textOf metadata.description = some metric.description ∧
      textOf metadata.unit = some metric.unit ∧ metadata.dataKind = metric.kindCode ∧
      metadata.numberKind = metric.numberKind.code
  | .point number pointIndex point, .point p attributes bounds bucketCounts positive negative =>
    p.pointIndex = pointIndex ∧ point.startTime.getD 0 = p.startTimeUnixNanos.toNat ∧
      point.time = p.timeUnixNanos.toNat ∧ readAttributesOf attributes = some point.attributes ∧
      ValueDenotes number p bounds bucketCounts positive negative point.value
  | .exemplar number pointIndex exemplarIndex exemplar, .exemplar e attributes =>
    e.pointIndex = pointIndex ∧ e.exemplarIndex = exemplarIndex ∧
      exemplar.time = e.timeUnixNanos.toNat ∧ e.value.read number = exemplar.value ∧
      e.spanId = exemplar.spanId ∧ e.traceId = exemplar.traceId ∧
      readAttributesOf attributes = some exemplar.filteredAttributes
  | _, _ => False

/-- The times of a point and its exemplars have nanoseconds since the epoch. -/
structure PointFits (point : DataPoint) : Prop where
  startTime : ∀ time ∈ point.startTime, Representable time
  time : Representable point.time
  exemplars : ∀ exemplar ∈ point.exemplars, Representable exemplar.time

/-- All the times of a batch have. -/
def TimesFit (metrics : ResourceMetrics) : Prop :=
  ∀ scope ∈ metrics.scopeMetrics, ∀ metric ∈ scope.metrics, ∀ point ∈ metric.points, PointFits point

/-! ### The calls for the parts -/

/-- The number that the callbacks are shown. -/
def Num.intoAbi : Num → OtelMetricNumber
  | .u64 n => Number.intoAbi n
  | .i64 n => Number.intoAbi n
  | .f64 x => Number.intoAbi x

/-- The nanoseconds of a time that has them. -/
def nanos (time : SystemTime) : UInt64 := UInt64.ofNat time.toNat

def optionalNum (value : Option Num) : OtelMetricNumber := (value.map Num.intoAbi).getD zeroNumber

/-- A summary without the values of its point. -/
def DataPoint.blank (point : DataPoint) (pointIndex : Nat) : OtelMetricPoint :=
  { pointIndex
    startTimeUnixNanos := nanos (point.startTime.getD 0)
    timeUnixNanos := nanos point.time
    temporality := 0
    isMonotonic := 0
    value := zeroNumber
    count := 0
    sum := zeroNumber
    min := zeroNumber
    max := zeroNumber
    hasMin := 0
    hasMax := 0
    scale := 0
    padding := Bytes.zero 7
    zeroCount := 0
    zeroThreshold := 0
    positiveBucketOffset := 0
    negativeBucketOffset := 0 }

def DataPoint.call (point : DataPoint) (pointIndex : Nat) : VisitorCall :=
  let p := point.blank pointIndex
  let attributes := Trace.convertKeyValues point.attributes
  match point.value with
  | .gauge value =>
    .point { p with value := value.intoAbi } attributes (.null 0) (.null 0) (.null 0) (.null 0)
  | .sum t monotonic value =>
    .point
      { p with
        temporality := temporality t
        isMonotonic := boolToU32 monotonic
        value := value.intoAbi }
      attributes (.null 0) (.null 0) (.null 0) (.null 0)
  | .histogram t count sum min max bounds bucketCounts =>
    .point
      { p with
        temporality := temporality t
        count
        sum := sum.intoAbi
        min := optionalNum min
        max := optionalNum max
        hasMin := boolToU32 min.isSome
        hasMax := boolToU32 max.isSome }
      attributes (.elems bounds) (.elems bucketCounts) (.null 0) (.null 0)
  | .exponentialHistogram t count sum min max scale zeroCount zeroThreshold positive negative =>
    .point
      { p with
        temporality := temporality t
        count
        sum := sum.intoAbi
        min := optionalNum min
        max := optionalNum max
        hasMin := boolToU32 min.isSome
        hasMax := boolToU32 max.isSome
        scale
        zeroCount
        zeroThreshold
        positiveBucketOffset := positive.offset
        negativeBucketOffset := negative.offset }
      attributes (.null 0) (.null 0) (.elems positive.counts) (.elems negative.counts)

def callOf : Node → VisitorCall
  | .resource resource => .resource (Trace.convertKeyValues resource.attributes)
  | .scope scope =>
    .scope (viewOf scope.name) (viewOf (scope.version.getD [])) (viewOf (scope.schemaUrl.getD []))
      (Trace.convertKeyValues scope.attributes)
  | .metric metric =>
    .metric
      { name := viewOf metric.name
        description := viewOf metric.description
        unit := viewOf metric.unit
        dataKind := metric.kindCode
        numberKind := metric.numberKind.code }
  | .point _ pointIndex point => point.call pointIndex
  | .exemplar _ pointIndex exemplarIndex exemplar =>
    .exemplar
      { pointIndex
        exemplarIndex
        timeUnixNanos := nanos exemplar.time
        value := exemplar.value.intoAbi
        spanId := exemplar.spanId
        traceId := exemplar.traceId } (Trace.convertKeyValues exemplar.filteredAttributes)

/-- The calls of a walk over these parts that is not stopped. -/
def plan (callbacks : OtelMetricVisitor) (nodes : List Node) : List VisitorCall :=
  (nodes.filter callbacks.wants).map callOf

/-! ### Plans put together -/

section Plan

variable (callbacks : OtelMetricVisitor)

theorem plan_cons (node : Node) (nodes : List Node) :
    plan callbacks (node :: nodes) =
      (if callbacks.wants node then [callOf node] else []) ++ plan callbacks nodes := by
  unfold plan
  cases h : callbacks.wants node with
  | true => rw [List.filter_cons_of_pos h]; rfl
  | false => rw [List.filter_cons_of_neg (by simp [h])]; rfl

theorem plan_flatMap {α : Type} (l : List α) (f : α → List Node) :
    plan callbacks (l.flatMap f) = l.flatMap fun x => plan callbacks (f x) := by
  induction l with
  | nil => rfl
  | cons x l ih =>
    rw [List.flatMap_cons, List.flatMap_cons, ← ih]
    simp [plan]

/-- Parts of one kind are all wanted, or none is. -/
theorem plan_map {α : Type} (l : List α) (f : α → Node) (wanted : Bool)
    (h : ∀ x, callbacks.wants (f x) = wanted) :
    plan callbacks (l.map f) = if wanted then l.map fun x => callOf (f x) else [] := by
  induction l with
  | nil => cases wanted <;> rfl
  | cons x l ih =>
    rw [List.map_cons, plan_cons, ih, h]
    cases wanted <;> rfl

end Plan

/-! ### The traversal walks the preorder -/

theorem convertedViews_convert (attributes : List KeyValue) :
    convertedViews (attributes.map convertAttribute) = Trace.convertKeyValues attributes := by
  unfold convertedViews Trace.convertKeyValues
  rw [List.map_map]
  refine List.map_congr_left fun kv _ => ?_
  rcases kv with ⟨key, value⟩
  cases value with
  | bool b => rfl
  | i64 n => rfl
  | f64 x => rfl
  | string s => rfl
  | array values => cases values <;> rfl

theorem timestamp_ok {time : SystemTime} (h : Representable time) :
    timestamp time = .ok (nanos time) := by
  obtain ⟨n, rfl⟩ := h
  rw [show nanos (n.toNat : Int) = n from UInt64.ofNat_toNat]
  exact Logs.nanosSinceEpoch_ok_iff.mpr rfl

theorem optionalTimestamp_ok {time : Option SystemTime} (h : ∀ t ∈ time, Representable t) :
    optionalTimestamp time = .ok (nanos (time.getD 0)) := by
  cases time with
  | none => rfl
  | some t => exact timestamp_ok (h t rfl)

section Walks

variable {status : List VisitorCall → UInt32} {callbacks : OtelMetricVisitor}

theorem walks_attempt {α : Type} {r : Except Fail α} {a : α} {k : α → Visit Unit}
    {calls : List VisitorCall} (hr : r = .ok a) (hk : Walks (answers status) (k a) calls) :
    Walks (answers status) (attempt r >>= k) calls :=
  walks_ofExcept (by rw [hr]; rfl) hk

section Data

variable {T : Type} [Number T] {num : T → Num}

theorem optionalNumber_eq (hnum : ∀ x, (num x).intoAbi = Number.intoAbi x) (value : Option T) :
    optionalNumber value = optionalNum (value.map num) := by
  cases value with
  | none => rfl
  | some x => exact (hnum x).symm

theorem walks_exemplars (hnum : ∀ x, (num x).intoAbi = Number.intoAbi x) (number : NumberKind)
    (pointIndex : Nat) {exemplars : List (Exemplar T)}
    (hfit : ∀ exemplar ∈ exemplars, Representable exemplar.time) :
    Walks (answers status) (visitExemplars status callbacks pointIndex exemplars)
      (plan callbacks ((exemplars.map (Exemplar.map num)).zipIdx.map fun entry =>
        .exemplar number pointIndex entry.2 entry.1)) := by
  rw [plan_map callbacks _ _ callbacks.exemplar fun _ => rfl, List.zipIdx_map, List.map_map]
  refine walks_optional (Walks.forM_map fun entry hentry => ?_)
  have htime := timestamp_ok (hfit entry.1 (List.fst_mem_of_mem_zipIdx hentry))
  refine walks_attempt htime ?_
  show Walks _ _ [callOf (.exemplar number pointIndex entry.2 (entry.1.map num))]
  simp only [callOf, Exemplar.map, hnum, withAttributes, convertedViews_convert]
  exact walks_call _

/-- The call for a point, then those for its exemplars. -/
theorem walks_point (hnum : ∀ x, (num x).intoAbi = Number.intoAbi x) (number : NumberKind)
    {pointIndex : Nat} {point : DataPoint} {summary : OtelMetricPoint} {attributes : List KeyValue}
    {bounds : CSlice F64Bits} {bucketCounts positive negative : CSlice UInt64}
    {exemplars : List (Exemplar T)}
    (hcall : point.call pointIndex =
      .point summary (Trace.convertKeyValues attributes) bounds bucketCounts positive negative)
    (hexemplars : point.exemplars = exemplars.map (Exemplar.map num)) (hfit : PointFits point) :
    Walks (answers status)
      (do
        visitPoint status callbacks summary attributes bounds bucketCounts positive negative
        visitExemplars status callbacks pointIndex exemplars)
      (plan callbacks (point.nodes number pointIndex)) := by
  have htimes : ∀ exemplar ∈ exemplars, Representable exemplar.time := by
    intro exemplar hexemplar
    refine hfit.exemplars (exemplar.map num) ?_
    rw [hexemplars]
    exact List.mem_map_of_mem hexemplar
  rw [DataPoint.nodes, plan_cons, hexemplars]
  refine Walks.bind (walks_optional ?_) (walks_exemplars hnum number pointIndex htimes)
  rw [show callOf (.point number pointIndex point) = point.call pointIndex from rfl, hcall,
    withAttributes, convertedViews_convert]
  exact walks_call _

theorem walks_gaugePoint (hnum : ∀ x, (num x).intoAbi = Number.intoAbi x) (number : NumberKind)
    {gauge : Gauge T} {point : GaugeDataPoint T} {pointIndex : Nat}
    (hfit : PointFits (point.point num gauge)) :
    Walks (answers status) (visitGaugePoint status callbacks gauge pointIndex point)
      (plan callbacks ((point.point num gauge).nodes number pointIndex)) := by
  refine walks_attempt (optionalTimestamp_ok hfit.startTime)
    (walks_attempt (timestamp_ok hfit.time) (walks_point hnum number ?_ rfl hfit))
  simp only [DataPoint.call, DataPoint.blank, GaugeDataPoint.point, hnum]

theorem walks_sumPoint (hnum : ∀ x, (num x).intoAbi = Number.intoAbi x) (number : NumberKind)
    {sum : Sum T} {point : SumDataPoint T} {pointIndex : Nat}
    (hfit : PointFits (point.point num sum)) :
    Walks (answers status) (visitSumPoint status callbacks sum pointIndex point)
      (plan callbacks ((point.point num sum).nodes number pointIndex)) := by
  refine walks_attempt (timestamp_ok (hfit.startTime _ rfl))
    (walks_attempt (timestamp_ok hfit.time) (walks_point hnum number ?_ rfl hfit))
  simp only [DataPoint.call, DataPoint.blank, SumDataPoint.point, hnum, Option.getD_some]

theorem walks_histogramPoint (hnum : ∀ x, (num x).intoAbi = Number.intoAbi x) (number : NumberKind)
    {histogram : Histogram T} {point : HistogramDataPoint T} {pointIndex : Nat}
    (hfit : PointFits (point.point num histogram)) :
    Walks (answers status) (visitHistogramPoint status callbacks histogram pointIndex point)
      (plan callbacks ((point.point num histogram).nodes number pointIndex)) := by
  refine walks_attempt (timestamp_ok (hfit.startTime _ rfl))
    (walks_attempt (timestamp_ok hfit.time) (walks_point hnum number ?_ rfl hfit))
  simp only [DataPoint.call, DataPoint.blank, HistogramDataPoint.point, hnum, Option.getD_some,
    optionalNumber_eq hnum, Option.isSome_map]

theorem walks_exponentialHistogramPoint (hnum : ∀ x, (num x).intoAbi = Number.intoAbi x)
    (number : NumberKind) {histogram : ExponentialHistogram T}
    {point : ExponentialHistogramDataPoint T} {pointIndex : Nat}
    (hfit : PointFits (point.point num histogram)) :
    Walks (answers status)
      (visitExponentialHistogramPoint status callbacks histogram pointIndex point)
      (plan callbacks ((point.point num histogram).nodes number pointIndex)) := by
  refine walks_attempt (timestamp_ok (hfit.startTime _ rfl))
    (walks_attempt (timestamp_ok hfit.time) (walks_point hnum number ?_ rfl hfit))
  simp only [DataPoint.call, DataPoint.blank, ExponentialHistogramDataPoint.point, hnum,
    Option.getD_some, optionalNumber_eq hnum, Option.isSome_map]

/-- The loop over the points of a metric, of whatever kind they are. -/
theorem walks_points {P : Type} {number : NumberKind} {l : List P} {asPoint : P → DataPoint}
    {visit : Nat → P → Visit Unit}
    (h : ∀ point ∈ l, ∀ pointIndex, Walks (answers status) (visit pointIndex point)
      (plan callbacks ((asPoint point).nodes number pointIndex))) :
    Walks (answers status) (l.zipIdx.forM fun entry => visit entry.2 entry.1)
      (plan callbacks ((l.map asPoint).zipIdx.flatMap fun entry =>
        entry.1.nodes number entry.2)) := by
  rw [plan_flatMap, List.zipIdx_map, List.flatMap_map]
  exact Walks.forM fun entry hentry => h entry.1 (List.fst_mem_of_mem_zipIdx hentry) entry.2

theorem walks_visitData (num : T → Num) (hnum : ∀ x, (num x).intoAbi = Number.intoAbi x)
    {metric : Metric} {data : MetricData T} (hkind : metric.kindCode = data.kindCode)
    (hpoints : metric.points = data.points num) (hfit : ∀ point ∈ metric.points, PointFits point) :
    Walks (answers status) (visitData status callbacks metric metric.numberKind.code data)
      (plan callbacks metric.nodes) := by
  rw [Metric.nodes, plan_cons, hpoints]
  rw [hpoints] at hfit
  have announce : ∀ dataKind, metric.kindCode = dataKind → Walks (answers status)
      (announceMetric status callbacks metric dataKind metric.numberKind.code)
      (if callbacks.wants (.metric metric) then [callOf (.metric metric)] else []) := by
    intro dataKind hdata
    refine walks_optional ?_
    rw [callOf, hdata]
    exact walks_call _
  cases data with
  | gauge data =>
    refine (announce dataGauge hkind).bind (walks_points fun point hpoint pointIndex => ?_)
    exact walks_gaugePoint hnum _ (hfit _ (List.mem_map_of_mem hpoint))
  | sum data =>
    refine (announce dataSum hkind).bind (walks_points fun point hpoint pointIndex => ?_)
    exact walks_sumPoint hnum _ (hfit _ (List.mem_map_of_mem hpoint))
  | histogram data =>
    refine (announce dataHistogram hkind).bind (walks_points fun point hpoint pointIndex => ?_)
    exact walks_histogramPoint hnum _ (hfit _ (List.mem_map_of_mem hpoint))
  | exponentialHistogram data =>
    refine (announce dataExponentialHistogram hkind).bind
      (walks_points fun point hpoint pointIndex => ?_)
    exact walks_exponentialHistogramPoint hnum _ (hfit _ (List.mem_map_of_mem hpoint))

end Data

theorem walks_visitMetric {metric : Metric} (hfit : ∀ point ∈ metric.points, PointFits point) :
    Walks (answers status) (visitMetric status callbacks metric) (plan callbacks metric.nodes) := by
  unfold visitMetric
  rcases metric with ⟨name, description, unit, data⟩
  cases data with
  | u64 data => exact walks_visitData Num.u64 (fun _ => rfl) rfl rfl hfit
  | i64 data => exact walks_visitData Num.i64 (fun _ => rfl) rfl rfl hfit
  | f64 data => exact walks_visitData Num.f64 (fun _ => rfl) rfl rfl hfit

theorem walks_visitScope {scope : ScopeMetrics}
    (hfit : ∀ metric ∈ scope.metrics, ∀ point ∈ metric.points, PointFits point) :
    Walks (answers status) (visitScope status callbacks scope) (plan callbacks scope.nodes) := by
  rw [ScopeMetrics.nodes, plan_cons, plan_flatMap]
  refine walks_optional_then ?_ (Walks.forM fun metric hmetric =>
    walks_visitMetric (hfit metric hmetric))
  rw [callOf, withAttributes, convertedViews_convert]
  exact walks_call _

/-- **The traversal walks the preorder**, without the parts nobody wants to be shown. -/
theorem walks_traverse {metrics : ResourceMetrics} (hfit : TimesFit metrics) :
    Walks (answers status) (traverse status callbacks metrics)
      (plan callbacks metrics.preorder) := by
  rw [ResourceMetrics.preorder, plan_cons, plan_flatMap]
  refine walks_optional_then ?_ (Walks.forM fun scope hscope =>
    walks_visitScope (hfit scope hscope))
  rw [callOf, ← convertedViews_convert]
  exact walks_call _

end Walks

/-! ### Each part is denoted by its call -/

def Num.kind : Num → NumberKind
  | .u64 _ => .u64
  | .i64 _ => .i64
  | .f64 _ => .f64

/-- The numbers of a point, without its exemplars. -/
def PointValue.numbers : PointValue → List Num
  | .gauge value => [value]
  | .sum _ _ value => [value]
  | .histogram _ _ total min max _ _ => total :: (min.toList ++ max.toList)
  | .exponentialHistogram _ _ total min max _ _ _ _ _ => total :: (min.toList ++ max.toList)

/-- A part whose times have nanoseconds since the epoch and whose numbers are those of its metric. -/
def Node.Proper : Node → Prop
  | .point number _ p => PointFits p ∧ ∀ n ∈ p.value.numbers, n.kind = number
  | .exemplar number _ _ e => Representable e.time ∧ e.value.kind = number
  | _ => True

theorem read_intoAbi {n : Num} {number : NumberKind} (h : n.kind = number) :
    n.intoAbi.read number = n := by
  subst h
  cases n <;> rfl

theorem readOptional_optionalNum (value : Option Num) {number : NumberKind}
    (h : ∀ n ∈ value, n.kind = number) :
    readOptional (boolToU32 value.isSome) (optionalNum value) number = value := by
  unfold readOptional
  rw [Trace.boolOf_boolToU32]
  cases value with
  | none => rfl
  | some n => exact congrArg some (read_intoAbi (h n rfl))

theorem toNat_nanos {time : SystemTime} (h : Representable time) : time = (nanos time).toNat := by
  obtain ⟨n, rfl⟩ := h
  rw [show nanos (n.toNat : Int) = n from UInt64.ofNat_toNat]

theorem toNat_nanos_getD {time : Option SystemTime} (h : ∀ t ∈ time, Representable t) :
    time.getD 0 = (nanos (time.getD 0)).toNat := by
  cases time with
  | none => rfl
  | some t => exact toNat_nanos (h t rfl)

theorem denotes_point {number : NumberKind} {pointIndex : Nat} {point : DataPoint}
    (h : (Node.point number pointIndex point).Proper) :
    Denotes (.point number pointIndex point) (point.call pointIndex) := by
  obtain ⟨hfit, hnumbers⟩ := h
  have hstart := toNat_nanos_getD hfit.startTime
  have htime := toNat_nanos hfit.time
  have hattributes := Trace.readAttributesOf_convert point.attributes
  rcases point with ⟨attributes, startTime, time, value, exemplars⟩
  cases value with
  | gauge value =>
    have hvalue := read_intoAbi (hnumbers value (by simp [PointValue.numbers]))
    exact ⟨rfl, hstart, htime, hattributes, hvalue, rfl, rfl, rfl, rfl, rfl, rfl⟩
  | sum t monotonic value =>
    have hvalue := read_intoAbi (hnumbers value (by simp [PointValue.numbers]))
    exact ⟨rfl, hstart, htime, hattributes, hvalue, rfl, Trace.boolOf_boolToU32 monotonic, rfl, rfl,
      rfl, rfl⟩
  | histogram t count sum min max bounds bucketCounts =>
    have hsum := read_intoAbi (hnumbers sum (by simp [PointValue.numbers]))
    have hmin := readOptional_optionalNum min fun n hn =>
      hnumbers n (by simp [PointValue.numbers, Option.mem_def.mp hn])
    have hmax := readOptional_optionalNum max fun n hn =>
      hnumbers n (by simp [PointValue.numbers, Option.mem_def.mp hn])
    exact ⟨rfl, hstart, htime, hattributes, rfl, rfl, hsum, hmin, hmax, rfl, rfl, rfl, rfl⟩
  | exponentialHistogram t count sum min max scale zeroCount zeroThreshold positive negative =>
    have hsum := read_intoAbi (hnumbers sum (by simp [PointValue.numbers]))
    have hmin := readOptional_optionalNum min fun n hn =>
      hnumbers n (by simp [PointValue.numbers, Option.mem_def.mp hn])
    have hmax := readOptional_optionalNum max fun n hn =>
      hnumbers n (by simp [PointValue.numbers, Option.mem_def.mp hn])
    exact ⟨rfl, hstart, htime, hattributes, rfl, rfl, hsum, hmin, hmax, rfl, rfl, rfl, rfl, rfl, rfl,
      rfl, rfl, rfl⟩

/-- **A part is denoted by its call.** -/
theorem denotes_callOf {node : Node} (h : node.Proper) : Denotes node (callOf node) := by
  cases node with
  | resource resource => exact Trace.readAttributesOf_convert resource.attributes
  | scope scope =>
    exact ⟨Trace.textOf_viewOf _, Trace.textOf_viewOf _, Trace.textOf_viewOf _,
      Trace.readAttributesOf_convert scope.attributes⟩
  | metric metric =>
    exact ⟨Trace.textOf_viewOf _, Trace.textOf_viewOf _, Trace.textOf_viewOf _, rfl, rfl⟩
  | point number pointIndex point => exact denotes_point h
  | exemplar number pointIndex exemplarIndex exemplar =>
    obtain ⟨htime, hkind⟩ := h
    exact ⟨rfl, rfl, toNat_nanos htime, read_intoAbi hkind, rfl, rfl,
      Trace.readAttributesOf_convert exemplar.filteredAttributes⟩

theorem kind_of_mem_numbers {T : Type} {num : T → Num} {number : NumberKind}
    (hnum : ∀ x, (num x).kind = number) {total : T} {min max : Option T} {n : Num}
    (h : n ∈ num total :: ((min.map num).toList ++ (max.map num).toList)) : n.kind = number := by
  have hoption : ∀ value : Option T, n ∈ (value.map num).toList → n.kind = number := by
    intro value hvalue
    obtain ⟨x, -, rfl⟩ := Option.mem_map.mp (Option.mem_toList.mp hvalue)
    exact hnum x
  rcases List.mem_cons.mp h with rfl | h
  · exact hnum total
  · rcases List.mem_append.mp h with hmin | hmax
    · exact hoption min hmin
    · exact hoption max hmax

/-- The numbers of a metric are all of its kind. -/
theorem kind_of_mem_points {T : Type} (num : T → Num) {number : NumberKind}
    (hnum : ∀ x, (num x).kind = number) {data : MetricData T} {point : DataPoint}
    (h : point ∈ data.points num) :
    (∀ n ∈ point.value.numbers, n.kind = number) ∧
      ∀ exemplar ∈ point.exemplars, exemplar.value.kind = number := by
  have hexemplars : ∀ exemplars : List (Exemplar T), ∀ exemplar ∈ exemplars.map (Exemplar.map num),
      exemplar.value.kind = number := by
    intro exemplars exemplar hexemplar
    obtain ⟨e, -, rfl⟩ := List.mem_map.mp hexemplar
    exact hnum e.value
  cases data with
  | gauge data =>
    obtain ⟨p, -, rfl⟩ := List.mem_map.mp h
    refine ⟨fun n hn => ?_, hexemplars p.exemplars⟩
    rw [List.mem_singleton.mp hn]
    exact hnum p.value
  | sum data =>
    obtain ⟨p, -, rfl⟩ := List.mem_map.mp h
    refine ⟨fun n hn => ?_, hexemplars p.exemplars⟩
    rw [List.mem_singleton.mp hn]
    exact hnum p.value
  | histogram data =>
    obtain ⟨p, -, rfl⟩ := List.mem_map.mp h
    refine ⟨fun n hn => ?_, hexemplars p.exemplars⟩
    exact kind_of_mem_numbers hnum hn
  | exponentialHistogram data =>
    obtain ⟨p, -, rfl⟩ := List.mem_map.mp h
    refine ⟨fun n hn => ?_, hexemplars p.exemplars⟩
    exact kind_of_mem_numbers hnum hn

theorem proper_of_mem_nodes {number : NumberKind} {pointIndex : Nat} {point : DataPoint}
    (hfit : PointFits point) (hnumbers : ∀ n ∈ point.value.numbers, n.kind = number)
    (hexemplars : ∀ exemplar ∈ point.exemplars, exemplar.value.kind = number) {node : Node}
    (h : node ∈ point.nodes number pointIndex) : node.Proper := by
  rcases List.mem_cons.mp h with rfl | h
  · exact ⟨hfit, hnumbers⟩
  · obtain ⟨entry, hentry, rfl⟩ := List.mem_map.mp h
    have hmem := List.fst_mem_of_mem_zipIdx hentry
    exact ⟨hfit.exemplars _ hmem, hexemplars _ hmem⟩

theorem proper_of_mem_metric {metric : Metric} (hfit : ∀ point ∈ metric.points, PointFits point)
    {node : Node} (h : node ∈ metric.nodes) : node.Proper := by
  rcases List.mem_cons.mp h with rfl | h
  · trivial
  · obtain ⟨entry, hentry, hnode⟩ := List.mem_flatMap.mp h
    have hmem := List.fst_mem_of_mem_zipIdx hentry
    obtain ⟨hnumbers, hexemplars⟩ : (∀ n ∈ entry.1.value.numbers, n.kind = metric.numberKind) ∧
        ∀ exemplar ∈ entry.1.exemplars, exemplar.value.kind = metric.numberKind := by
      rcases metric with ⟨name, description, unit, data⟩
      cases data with
      | u64 data => exact kind_of_mem_points Num.u64 (fun _ => rfl) hmem
      | i64 data => exact kind_of_mem_points Num.i64 (fun _ => rfl) hmem
      | f64 data => exact kind_of_mem_points Num.f64 (fun _ => rfl) hmem
    exact proper_of_mem_nodes (hfit _ hmem) hnumbers hexemplars hnode

theorem proper_of_mem_preorder {metrics : ResourceMetrics} (hfit : TimesFit metrics) {node : Node}
    (h : node ∈ metrics.preorder) : node.Proper := by
  rcases List.mem_cons.mp h with rfl | h
  · trivial
  · obtain ⟨scope, hscope, h⟩ := List.mem_flatMap.mp h
    rcases List.mem_cons.mp h with rfl | h
    · trivial
    · obtain ⟨metric, hmetric, h⟩ := List.mem_flatMap.mp h
      exact proper_of_mem_metric (hfit scope hscope metric hmetric) h

theorem denotes_plan {metrics : ResourceMetrics} (hfit : TimesFit metrics)
    (callbacks : OtelMetricVisitor) :
    List.Forall₂ Denotes (metrics.preorder.filter callbacks.wants)
      (plan callbacks metrics.preorder) := by
  unfold plan
  rw [List.forall₂_map_right_iff, List.forall₂_same]
  intro node hnode
  exact denotes_callOf (proper_of_mem_preorder hfit (List.mem_of_mem_filter hnode))

/-! ### Visiting a batch -/

/-- What the walk's end makes the visit return. -/
def endStatus : Except Stop Unit → UInt32
  | .ok () => statusCode .ok
  | .error stop => stop.status

theorem otelMetricBatchVisit_eq {lists : Registry.ThreadLists ResourceMetrics} {thread : Nat}
    {batch : UInt64} {visitor : Metrics.VisitorArg} {metrics : ResourceMetrics}
    (hactive : Metrics.activeBatch lists thread batch = some metrics) (hvisitor : visitor.Complete)
    (hfit : TimesFit metrics) (callbacks : OtelMetricVisitor)
    (status : List VisitorCall → UInt32) :
    otelMetricBatchVisit lists thread batch visitor callbacks status =
      let walked := Walk.follow (answers status) (plan callbacks metrics.preorder) []
      (endStatus walked.1, walked.2) := by
  have hfound := Metrics.visit_ok.mpr ⟨hvisitor, hactive⟩
  simp only [otelMetricBatchVisit, hfound, walks_traverse hfit []]
  rcases Walk.follow (answers status) (plan callbacks metrics.preorder) [] with ⟨result, made⟩
  cases result with
  | ok u => rfl
  | error stop => rfl

theorem answers_eq_none {status : List VisitorCall → UInt32} {calls : List VisitorCall} :
    answers status calls = none ↔ status calls = statusCode .ok := by
  unfold answers check
  by_cases h : status calls = statusCode .ok
  · rw [if_pos h]
    exact iff_of_true rfl h
  · rw [if_neg h]
    exact iff_of_false (fun hnone => by cases hnone) h

theorem status_of_answers {status : List VisitorCall → UInt32} {calls : List VisitorCall}
    {stop : Stop} (h : answers status calls = some stop) :
    status calls = stop.status ∧ stop.status ≠ statusCode .ok := by
  unfold answers check at h
  by_cases hok : status calls = statusCode .ok
  · rw [if_pos hok] at h
    cases h
  · rw [if_neg hok] at h
    obtain rfl := Option.some.inj h
    exact ⟨rfl, hok⟩

theorem exists_answers {status : List VisitorCall → UInt32} {calls : List VisitorCall}
    (h : status calls ≠ statusCode .ok) : ∃ stop, answers status calls = some stop := by
  cases hanswer : answers status calls with
  | none => exact absurd (answers_eq_none.mp hanswer) h
  | some stop => exact ⟨stop, rfl⟩

/-- How a visit with these calls ahead of it ends, by what it returns and the calls it made. -/
structure Exact (calls : List VisitorCall) (status : List VisitorCall → UInt32) (returned : UInt32)
    (made : List VisitorCall) : Prop where
  made_prefix : made <+: calls
  /-- The first callback that does not return OK is the last to be called. -/
  stops_at : ∀ before, before <+: calls → before ≠ [] → status before ≠ statusCode .ok →
    (∀ earlier, earlier <+: before → earlier ≠ [] → earlier ≠ before →
      status earlier = statusCode .ok) →
    made = before ∧ returned = status before
  /-- No other status is returned than that of the last callback. -/
  stopped : returned ≠ statusCode .ok → made ≠ [] ∧ returned = status made
  finished : returned = statusCode .ok → made = calls
  returned_ok : returned = statusCode .ok ↔
    ∀ before, before <+: calls → before ≠ [] → status before = statusCode .ok

theorem endStatus_ok {calls made : List VisitorCall} {status : List VisitorCall → UInt32}
    {result : Except Stop Unit} (h : Ends (answers status) calls result made) :
    endStatus result = statusCode .ok ↔ result = .ok () := by
  cases result with
  | ok u => exact iff_of_true rfl rfl
  | error stop =>
    obtain ⟨-, hanswer⟩ := (h.stopped stop).mp rfl
    exact iff_of_false (status_of_answers hanswer).2 fun hok => by cases hok

theorem exact_of_ends {calls made : List VisitorCall} {status : List VisitorCall → UInt32}
    {result : Except Stop Unit} (h : Ends (answers status) calls result made) :
    Exact calls status (endStatus result) made := by
  have hok := endStatus_ok h
  refine ⟨h.made_prefix, ?_, ?_, fun hreturned => h.finished (hok.mp hreturned), ?_⟩
  · intro before hwithin hne hstatus hfirst
    obtain ⟨stop, hstop⟩ := exists_answers hstatus
    obtain ⟨rfl, rfl⟩ := h.stops_at hwithin hne hstop fun earlier hsub hearlier hother =>
      answers_eq_none.mpr (hfirst earlier hsub hearlier hother)
    exact ⟨rfl, (status_of_answers hstop).1.symm⟩
  · intro hreturned
    cases hresult : result with
    | ok u => exact absurd (hok.mpr hresult) hreturned
    | error stop =>
      obtain ⟨hne, hanswer⟩ := (h.stopped stop).mp hresult
      exact ⟨hne, (status_of_answers hanswer).1.symm⟩
  · rw [hok, h.ok_iff]
    refine forall_congr' fun before => ?_
    rw [answers_eq_none]

/-- **A visit is an exact, stoppable traversal**: there are calls, one for each part in preorder that
the visitor wants to be shown, such that the visit makes them up to the first failure. -/
theorem batch_visit_exact (lists : Registry.ThreadLists ResourceMetrics) (thread : Nat)
    (batch : UInt64) (visitor : Metrics.VisitorArg) (metrics : ResourceMetrics)
    (callbacks : OtelMetricVisitor)
    (hactive : Metrics.activeBatch lists thread batch = some metrics) (hvisitor : visitor.Complete)
    (hfit : TimesFit metrics) :
    ∃ calls, List.Forall₂ Denotes (metrics.preorder.filter callbacks.wants) calls ∧
      ∀ status : List VisitorCall → UInt32,
        let visit := otelMetricBatchVisit lists thread batch visitor callbacks status
        Exact calls status visit.1 visit.2 := by
  refine ⟨plan callbacks metrics.preorder, denotes_plan hfit callbacks, fun status => ?_⟩
  rw [otelMetricBatchVisit_eq hactive hvisitor hfit callbacks status]
  exact exact_of_ends (Walk.follow_spec _)

/-- A sum with an exemplar and a histogram, in one scope. -/
def requestMetrics : ResourceMetrics :=
  { resource := ⟨none, [⟨lit "service.name", .string (lit "shop")⟩]⟩
    scopeMetrics := [{
      scope := ⟨lit "http", some (lit "1.0"), none, []⟩
      metrics := [
        { name := lit "requests"
          description := []
          unit := lit "1"
          data := .u64 (.sum
            { dataPoints := [⟨[⟨lit "codes", .array (.i64 [200, 204])⟩], 7,
                [⟨[], 3, 1, Bytes.zero 8, Bytes.zero 16⟩]⟩]
              startTime := 1
              time := 5
              temporality := .delta
              isMonotonic := true }) },
        { name := lit "latency"
          description := []
          unit := lit "ms"
          data := .i64 (.histogram
            { dataPoints := [⟨[], 2, [0], [1, 1], some (-1), none, 4, []⟩]
              startTime := 1
              time := 5
              temporality := .cumulative }) }] }] }

theorem timesFit_requestMetrics : TimesFit requestMetrics := by
  intro scope hscope metric hmetric point hpoint
  obtain rfl := List.mem_singleton.mp hscope
  rcases List.mem_pair.mp hmetric with rfl | rfl
  · obtain rfl := List.mem_singleton.mp hpoint
    refine ⟨fun time htime => ⟨1, (Option.some.inj htime).symm⟩, ⟨5, rfl⟩, ?_⟩
    intro exemplar hexemplar
    obtain rfl := List.mem_singleton.mp hexemplar
    exact ⟨3, rfl⟩
  · obtain rfl := List.mem_singleton.mp hpoint
    exact ⟨fun time htime => ⟨1, (Option.some.inj htime).symm⟩, ⟨5, rfl⟩,
      fun exemplar hexemplar => absurd hexemplar List.not_mem_nil⟩

/-- A visitor without a callback for scopes. -/
theorem batch_visit_exact_requests :
    ∃ calls, List.Forall₂ Denotes
        (requestMetrics.preorder.filter
          (OtelMetricVisitor.wants ⟨true, false, true, true, true⟩)) calls ∧
      ∀ status : List VisitorCall → UInt32,
        let visit := otelMetricBatchVisit
          (Registry.ThreadLists.initial.register 0 requestMetrics) 0 1 (.sized 48)
          ⟨true, false, true, true, true⟩ status
        Exact calls status visit.1 visit.2 :=
  batch_visit_exact _ 0 1 (.sized 48) requestMetrics ⟨true, false, true, true, true⟩ rfl
    (Nat.le_refl 48) timesFit_requestMetrics

end OtelC.MetricBatch
