import OtelC.Abi

/-!
# Span contexts

The immutable context the API hands out, the snapshot of it that crosses to the SDK for the length
of one call, and construction from raw parts.  Raw construction checks the ids, and of the trace
state only its length and encoding; the grammar of a trace state is a matter of propagation.
-/

namespace OtelC.Trace

structure SpanContextData where
  traceId : Bytes 16
  spanId : Bytes 8
  traceFlags : UInt8
  isRemote : Bool
  traceState : Str
  deriving DecidableEq

/-- Both ids are non-zero. -/
def SpanContextData.isValid (context : SpanContextData) : Bool :=
  context.traceId ≠ Bytes.zero 16 && context.spanId ≠ Bytes.zero 8

/-- The borrowed snapshot passed across the vtable. -/
structure OtelSpanContextView where
  traceId : Bytes 16
  spanId : Bytes 8
  traceFlags : UInt8
  reserved : Bytes 3
  isRemote : UInt32
  traceState : OtelStringView
  deriving DecidableEq

def SpanContextData.view (context : SpanContextData) : OtelSpanContextView where
  traceId := context.traceId
  spanId := context.spanId
  traceFlags := context.traceFlags
  reserved := Bytes.zero 3
  isRemote := if context.isRemote then 1 else 0
  traceState := viewOf context.traceState

/-- `OTEL_SPAN_CONTEXT_MAX_TRACESTATE`. -/
def maxSpanContextTraceState : Nat := 32 * 1024

/-- `otel_span_context_create`; a NULL id pointer is `none`.  The function returns NULL where this
fails. -/
def otelSpanContextCreate (traceId : Option (Bytes 16)) (spanId : Option (Bytes 8))
    (traceFlags : UInt8) (isRemote : UInt32) (traceState : OtelStringView) :
    Except Fail SpanContextData :=
  match traceId, spanId with
  | some traceId, some spanId =>
    if traceId = Bytes.zero 16 ∨ spanId = Bytes.zero 8 then
      fail .invalidArgument "span context requires a non-zero trace id and span id"
    else if traceState.len > maxSpanContextTraceState then
      fail .invalidArgument "tracestate exceeds the maximum supported length"
    else do
      let value ← asStr traceState
      .ok ⟨traceId, spanId, traceFlags, isRemote ≠ 0, value⟩
  | _, _ => fail .invalidArgument "trace id / span id pointer is NULL"

theorem otelSpanContextCreate_ok {traceId : Option (Bytes 16)} {spanId : Option (Bytes 8)}
    {traceFlags : UInt8} {isRemote : UInt32} {traceState : OtelStringView}
    {context : SpanContextData}
    (h : otelSpanContextCreate traceId spanId traceFlags isRemote traceState = .ok context) :
    traceId = some context.traceId ∧ spanId = some context.spanId ∧
      context.isValid = true ∧ context.traceFlags = traceFlags ∧
      asStr traceState = .ok context.traceState ∧
      context.traceState.len ≤ maxSpanContextTraceState := by
  unfold otelSpanContextCreate at h
  split at h
  · rename_i tid sid
    simp only [fail] at h
    obtain ⟨hzero, h⟩ := Checked.guard_eq_ok.mp h
    obtain ⟨hlen, h⟩ := Checked.guard_eq_ok.mp h
    obtain ⟨value, hvalue, h⟩ := Checked.bind_eq_ok.mp h
    obtain rfl := Except.ok.inj h
    rw [not_or] at hzero
    have hspelled := (asStr_ok_iff.mp hvalue).1
    refine ⟨rfl, rfl, ?_, rfl, hvalue, ?_⟩
    · simp [SpanContextData.isValid, hzero.1, hzero.2]
    · rw [← hspelled]
      exact Nat.le_of_not_gt hlen
  · simp [fail] at h

end OtelC.Trace
