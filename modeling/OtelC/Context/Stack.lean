import OtelC.Baggage.Model
import OtelC.Trace.SpanContext

/-!
# The attached contexts of a thread

Each thread keeps a stack of attached contexts, and the current one is at its top.  Attaching hands
out a token, and only the token of the top entry detaches it.
-/

namespace OtelC.Context

open OtelC.Baggage OtelC.Trace

/-- `MAX_CONTEXT_DEPTH`. -/
def maxContextDepth : Nat := 64

structure ContextData where
  spanContext : Option SpanContextData
  baggage : Option (List BaggageEntry)
  flags : UInt32

/-! ### Building contexts -/

/-- A span context argument that may be NULL, and is refused when its ids are zero. -/
def optionalSpanContext (spanContext : HandleArg SpanContextData) :
    Except Fail (Option SpanContextData) :=
  match spanContext with
  | .null => .ok none
  | spanContext => do
    let value ← checkedRef spanContext
    if !value.isValid then fail .invalidArgument "context span context is invalid"
    else .ok (some value)

/-- `otel_context_create`, which returns NULL where this fails. -/
def otelContextCreate (spanContext : HandleArg SpanContextData) : Except Fail ContextData := do
  let spanContext ← optionalSpanContext spanContext
  .ok ⟨spanContext, none, 0⟩

/-- `otel_context_with_span_context`. -/
def otelContextWithSpanContext (base : HandleArg ContextData)
    (spanContext : HandleArg SpanContextData) (outIsNull : Bool) : OutCall ContextData :=
  withOut outIsNull "context output is NULL" do
    let base ← checkedRef base
    let spanContext ← optionalSpanContext spanContext
    .ok { base with spanContext := spanContext }

/-- `otel_context_with_baggage`. -/
def otelContextWithBaggage (base : HandleArg ContextData) (baggage : HandleArg (List BaggageEntry))
    (outIsNull : Bool) : OutCall ContextData :=
  withOut outIsNull "context output is NULL" do
    let base ← checkedRef base
    match baggage with
    | .null => .ok { base with baggage := none }
    | baggage => do
      let data ← checkedRef baggage
      .ok { base with baggage := some data }

/-- The contexts that an application can hold.  `otel_context_clone` and `otel_context_current` hand
out another handle to one of these. -/
inductive Built : ContextData → Prop
  | default : Built ⟨none, none, 0⟩
  | create {spanContext : HandleArg SpanContextData} {context : ContextData}
      (h : otelContextCreate spanContext = .ok context) : Built context
  | withSpanContext {base context : ContextData} {spanContext : HandleArg SpanContextData}
      (hbase : Built base)
      (h : (otelContextWithSpanContext (.live base) spanContext false).out = some (some context)) :
      Built context
  | withBaggage {base context : ContextData} {baggage : HandleArg (List BaggageEntry)}
      (hbase : Built base)
      (h : (otelContextWithBaggage (.live base) baggage false).out = some (some context)) :
      Built context

theorem optionalSpanContext_ok {arg : HandleArg SpanContextData} {value : Option SpanContextData}
    (h : optionalSpanContext arg = .ok value) : ∀ p ∈ value, p.isValid = true := by
  cases arg with
  | null =>
    obtain rfl := Except.ok.inj h
    exact fun p hp => by cases hp
  | dead => cases h
  | wrongKind => cases h
  | live context =>
    intro p hp
    have h : (if !context.isValid then fail .invalidArgument "context span context is invalid"
      else .ok (some context)) = Except.ok value := h
    split at h
    · cases h
    · rename_i hvalid
      obtain rfl := Except.ok.inj h
      obtain rfl := Option.some.inj hp
      simpa using hvalid

/-- A built context has no flags, and a span context with ids if any. -/
theorem Built.spec {context : ContextData} (h : Built context) :
    context.flags = 0 ∧ ∀ p ∈ context.spanContext, p.isValid = true := by
  induction h with
  | default => exact ⟨rfl, fun p hp => by cases hp⟩
  | create h =>
    obtain ⟨value, hvalue, h⟩ := Checked.bind_eq_ok.mp h
    obtain rfl := Except.ok.inj h
    exact ⟨rfl, optionalSpanContext_ok hvalue⟩
  | withSpanContext hbase h ih =>
    obtain ⟨base, hb, h⟩ := Checked.bind_eq_ok.mp (withOut_out h)
    obtain rfl := Except.ok.inj hb
    obtain ⟨value, hvalue, h⟩ := Checked.bind_eq_ok.mp h
    obtain rfl := Except.ok.inj h
    exact ⟨ih.1, optionalSpanContext_ok hvalue⟩
  | @withBaggage base context baggage hbase h ih =>
    obtain ⟨base', hb, h⟩ := Checked.bind_eq_ok.mp (withOut_out h)
    obtain rfl := Except.ok.inj hb
    cases baggage with
    | null =>
      obtain rfl := Except.ok.inj h
      exact ih
    | dead => cases h
    | wrongKind => cases h
    | live data =>
      obtain rfl := Except.ok.inj h
      exact ih

/-! ### Attaching and detaching -/

/-- The token of one attachment. -/
structure OtelContextScope where
  structSize : Nat
  threadToken : UInt64
  generation : UInt64
  reserved : UInt64 × UInt64
  deriving DecidableEq

/-- `size_of::<OtelContextScope>()` on a 64-bit target. -/
def scopeSize : Nat := 40

structure StackEntry where
  generation : UInt64
  context : ContextData

structure ContextStack where
  threadToken : UInt64
  nextGeneration : UInt64
  entries : List StackEntry

/-- `allocate_generation`, which never hands out zero again. -/
def allocateGeneration (stack : ContextStack) : UInt64 × ContextStack :=
  let next := stack.nextGeneration + 1
  (stack.nextGeneration, { stack with nextGeneration := if next = 0 then 1 else next })

/-- `current_data`. -/
def currentData (stack : ContextStack) : Option ContextData :=
  stack.entries.getLast?.map StackEntry.context

/-- What attaching and detaching leave behind: the token is `none` where it was not written. -/
structure ScopeCall where
  status : OtelStatus
  message : Option String
  scope : Option OtelContextScope
  stack : ContextStack

/-- `otel_context_attach`; a NULL scope is `none`. -/
def otelContextAttach (stack : ContextStack) (context : HandleArg ContextData)
    (scope : Option OtelContextScope) : ScopeCall :=
  match scope with
  | none => ⟨.invalidArgument, some "context scope is NULL", none, stack⟩
  | some scope =>
    if scope.structSize < scopeSize then
      ⟨.invalidConfig, some "context scope struct_size is too small", none, stack⟩
    else
      let inactive := { scope with threadToken := 0, generation := 0, reserved := (0, 0) }
      match checkedRef context with
      | .error e => ⟨.invalidArgument, some e.message, some inactive, stack⟩
      | .ok data =>
        if stack.entries.length ≥ maxContextDepth then
          ⟨.invalidConfig, some "context attachment depth exceeds 64", some inactive, stack⟩
        else
          let (generation, stack) := allocateGeneration stack
          ⟨.ok, none,
            some { inactive with threadToken := stack.threadToken, generation := generation },
            { stack with entries := stack.entries ++ [⟨generation, data⟩] }⟩

/-- `otel_context_scope_detach`. -/
def otelContextScopeDetach (stack : ContextStack) (scope : Option OtelContextScope) : ScopeCall :=
  match scope with
  | none => ⟨.invalidArgument, some "context scope is NULL", none, stack⟩
  | some scope =>
    if scope.structSize < scopeSize then
      ⟨.invalidConfig, some "context scope struct_size is too small", none, stack⟩
    else if scope.reserved ≠ (0, 0) ∨ scope.threadToken = 0 ∨ scope.generation = 0 then
      ⟨.invalidArgument, some "context scope is inactive or invalid", none, stack⟩
    else if stack.threadToken ≠ scope.threadToken then
      ⟨.invalidArgument, some "context scope belongs to another thread", none, stack⟩
    else if stack.entries.getLast?.map StackEntry.generation ≠ some scope.generation then
      ⟨.invalidArgument, some "context scopes must be detached once in LIFO order", none, stack⟩
    else
      ⟨.ok, none, some { scope with threadToken := 0, generation := 0 },
        { stack with entries := stack.entries.dropLast }⟩

end OtelC.Context
