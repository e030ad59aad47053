import OtelC.Trace.SpanCalls

/-!
# What becomes of a span

To an application there are spans under handles, and each knows what it was started from, what it
was told and whether it was ended.

* `spans_are_a_table`: no calls tell the API over the boxes of the SDK from that table.
* `told_in_order`: a span is told every accepted call in order, and once that it was ended.
-/

namespace OtelC.Trace.Spans

open OtelC.Sdk (OtelKeyValue KeyValue toKeyValue collectKeyValues)
open Simulation Boxes

variable {TraceState : Type}

/-! ### What a call tells a span -/

def readAttribute (kv : OtelKeyValue) : Except Fail SpanOp :=
  (toKeyValue kv).map SpanOp.setAttribute

def readStatus (code : UInt32) (description : OtelStringView) : Except Fail Status :=
  match code.toNat with
  | 0 => .ok .unset
  | 1 => .ok .ok
  | 2 => (asStr description).map Status.error
  | _ => fail .invalidArgument "status code is not a valid OtelSpanStatusCode value"

/-- A setter of an attribute is the typed one with its tag.  The tag of a typed attribute is looked
at before the key. -/
def SpanCall.read : SpanCall → Except Fail SpanOp
  | .setStringAttribute key value => readAttribute ⟨key, 0, ⟨value, 0, 0, 0⟩⟩
  | .setBoolAttribute key value => readAttribute ⟨key, 1, ⟨.null 0, value, 0, 0⟩⟩
  | .setInt64Attribute key value => readAttribute ⟨key, 2, ⟨.null 0, 0, value, 0⟩⟩
  | .setDoubleAttribute key value => readAttribute ⟨key, 3, ⟨.null 0, 0, 0, value⟩⟩
  | .setAttribute kv =>
    if kv.valueType.toNat ≤ 3 then readAttribute kv
    else fail .invalidArgument "attribute value_type is not a valid OtelAttributeType tag"
  | .addEvent name attributes => do
    let name ← asStr name
    let attributes ← collectKeyValues attributes
    .ok (.addEvent name attributes)
  | .setStatus code description => (readStatus code description).map SpanOp.setStatus
  | .updateName name => (asStr name).map SpanOp.updateName

section Read

variable (span : SdkSpan TraceState)

theorem setScalar_eq {kv : OtelKeyValue} {value : Sdk.Value}
    (h : toKeyValue kv = (readKey kv.key).map fun key => ⟨key, value⟩) :
    setScalar span kv.key value = (readAttribute kv).map span.tell := by
  rw [setScalar, readAttribute, h]
  cases readKey kv.key with
  | error e => rfl
  | ok key => rfl

theorem toKeyValue_scalar {kv : OtelKeyValue} :
    (kv.valueType.toNat = 1 →
      toKeyValue kv = (readKey kv.key).map fun key => ⟨key, .bool (kv.value.boolValue ≠ 0)⟩) ∧
    (kv.valueType.toNat = 2 →
      toKeyValue kv = (readKey kv.key).map fun key => ⟨key, .i64 kv.value.int64Value⟩) ∧
    (kv.valueType.toNat = 3 →
      toKeyValue kv = (readKey kv.key).map fun key => ⟨key, .f64 kv.value.doubleValue⟩) := by
  rw [toKeyValue, readKey]
  cases asStr kv.key with
  | error e => exact ⟨fun _ => rfl, fun _ => rfl, fun _ => rfl⟩
  | ok key =>
    simp only [Checked.ok_bind]
    by_cases hempty : key.isEmpty
    · rw [if_pos hempty, if_pos hempty]
      exact ⟨fun _ => rfl, fun _ => rfl, fun _ => rfl⟩
    · rw [if_neg hempty, if_neg hempty]
      exact ⟨fun h => by rw [h]; rfl, fun h => by rw [h]; rfl, fun h => by rw [h]; rfl⟩

theorem vtSpanSetString_eq {kv : OtelKeyValue} (h : kv.valueType.toNat = 0) :
    vtSpanSetString span kv.key kv.value.stringValue = (readAttribute kv).map span.tell := by
  rw [vtSpanSetString, readAttribute, toKeyValue, readKey]
  cases asStr kv.key with
  | error e => rfl
  | ok key =>
    simp only [Checked.ok_bind, h]
    by_cases hempty : key.isEmpty
    · rw [if_pos hempty, if_pos hempty]
      rfl
    · rw [if_neg hempty, if_neg hempty, Checked.ok_bind]
      cases asStr kv.value.stringValue with
      | error e => rfl
      | ok value => rfl

theorem otelSpanSetAttribute_eq (kv : OtelKeyValue) :
    otelSpanSetAttribute kv span = (SpanCall.read (.setAttribute kv)).map span.tell := by
  rw [otelSpanSetAttribute, SpanCall.read]
  obtain ⟨hbool, hi64, hf64⟩ := @toKeyValue_scalar kv
  rcases htag : kv.valueType.toNat with _ | _ | _ | _ | n
  · exact vtSpanSetString_eq span htag
  · exact setScalar_eq span (hbool htag)
  · exact setScalar_eq span (hi64 htag)
  · exact setScalar_eq span (hf64 htag)
  · rw [if_neg (by omega)]
    rfl

theorem vtSpanSetStatus_eq (code : UInt32) (description : OtelStringView) :
    vtSpanSetStatus span code description =
      ((readStatus code description).map SpanOp.setStatus).map span.tell := by
  rw [vtSpanSetStatus, readStatus]
  rcases code.toNat with _ | _ | _ | n
  · rfl
  · rfl
  · cases asStr description with
    | error e => rfl
    | ok description => rfl
  · rfl

/-- The status is checked twice, with the same text. -/
theorem otelSpanSetStatus_eq (code : UInt32) (description : OtelStringView) :
    otelSpanSetStatus code description span = vtSpanSetStatus span code description := by
  rw [otelSpanSetStatus, vtSpanSetStatus]
  rcases code.toNat with _ | _ | _ | n
  · rfl
  · rfl
  · rfl
  · rw [if_pos (by omega)]
    rfl

/-- **What a call tells a span is read off the call alone.** -/
theorem SpanCall.dispatch_eq (call : SpanCall) : call.dispatch span = call.read.map span.tell := by
  cases call with
  | setStringAttribute key value =>
    exact @vtSpanSetString_eq _ span ⟨key, 0, ⟨value, 0, 0, 0⟩⟩ rfl
  | setBoolAttribute key value =>
    exact setScalar_eq span ((@toKeyValue_scalar ⟨key, 1, ⟨.null 0, value, 0, 0⟩⟩).1 rfl)
  | setInt64Attribute key value =>
    exact setScalar_eq span ((@toKeyValue_scalar ⟨key, 2, ⟨.null 0, 0, value, 0⟩⟩).2.1 rfl)
  | setDoubleAttribute key value =>
    exact setScalar_eq span ((@toKeyValue_scalar ⟨key, 3, ⟨.null 0, 0, 0, value⟩⟩).2.2 rfl)
  | setAttribute kv => exact otelSpanSetAttribute_eq span kv
  | addEvent name attributes =>
    rw [SpanCall.dispatch, SpanCall.read, vtSpanAddEvent]
    cases asStr name with
    | error e => rfl
    | ok name =>
      cases collectKeyValues attributes with
      | error e => rfl
      | ok attributes => rfl
  | setStatus code description =>
    exact (otelSpanSetStatus_eq span code description).trans
      (vtSpanSetStatus_eq span code description)
  | updateName name =>
    rw [SpanCall.dispatch, SpanCall.read, vtSpanUpdateName]
    cases asStr name with
    | error e => rfl
    | ok name => rfl

end Read

/-! ### The table -/

/-- A span under a handle. -/
structure Live (TraceState : Type) where
  ended : Bool
  span : SdkSpan TraceState

/-- A span is told once that it was ended. -/
def Live.finish (live : Live TraceState) : Live TraceState :=
  if live.ended then live else ⟨true, live.span.tell .ended⟩

structure Table (TraceState : Type) where
  spans : Nat → Option (Live TraceState)
  next : Nat
  dropped : List (SdkSpan TraceState)

namespace Table

def initial : Table TraceState := ⟨fun _ => none, 0, []⟩

variable (t : Table TraceState)

def contexts (h : Nat) : Option (SdkSpanContext TraceState) :=
  (t.spans h).map fun live => live.span.context

def asSpan : SpanPtr → HandleArg (Option (Nat × Live TraceState))
  | .null => .null
  | .otherKind => .wrongKind
  | .noop => .live none
  | .handle h =>
    match t.spans h with
    | none => .dead
    | some live => .live (some (h, live))

def set (h : Nat) (live : Live TraceState) : Table TraceState :=
  { t with spans := Function.update t.spans h (some live) }

theorem spans_set (h : Nat) (live : Live TraceState) :
    (t.set h live).spans = Function.update t.spans h (some live) := rfl

theorem set_self {h : Nat} {live : Live TraceState} (hx : t.spans h = some live) :
    t.set h live = t := by
  rw [set, ← hx, Function.update_eq_self]

def start (fromStr : Str → Option TraceState) (tracer : HandleArg OtelTracer)
    (name : OtelStringView) (entry : StartEntry TraceState) (parent : ParentPtr TraceState)
    (context : SdkSpanContext TraceState) : Reply × Table TraceState :=
  match entry.run fromStr tracer name (parent.arg t.contexts) with
  | .noopSpan => (.noopSpan, t)
  | .refused e => (.null e, t)
  | .started start =>
    (.span t.next, { t.set t.next ⟨false, start, context, []⟩ with next := t.next + 1 })

/-- Whether a span was ended does not matter to the calls on it. -/
def tell (ptr : SpanPtr) (call : SpanCall) : Reply × Table TraceState :=
  match checkedRef (t.asSpan ptr) with
  | .error e => (.status (.error e), t)
  | .ok none => (.status (.ok ()), t)
  | .ok (some (h, live)) =>
    match call.read with
    | .error e => (.status (.error e), t)
    | .ok op => (.status (.ok ()), t.set h { live with span := live.span.tell op })

def endSpan (ptr : SpanPtr) : Reply × Table TraceState :=
  match checkedRef (t.asSpan ptr) with
  | .error e => (.status (.error e), t)
  | .ok none => (.status (.ok ()), t)
  | .ok (some (h, live)) => (.status (.ok ()), t.set h live.finish)

/-- To destroy a span is to end it and to drop it. -/
def destroy (ptr : SpanPtr) : Reply × Table TraceState :=
  match t.asSpan ptr with
  | .live (some (h, live)) =>
    (.destroyed,
      { t with
        spans := Function.update t.spans h none
        dropped := t.dropped ++ [live.finish.span] })
  | _ => (.destroyed, t)

end Table

def Table.step (fromStr : Str → Option TraceState) (t : Table TraceState) :
    Call TraceState → Reply × Table TraceState
  | .start tracer name entry parent context => t.start fromStr tracer name entry parent context
  | .span ptr call => t.tell ptr call
  | .endSpan ptr => t.endSpan ptr
  | .destroy ptr => t.destroy ptr

/-! ### The two machines -/

/-- The handles and the boxes come to the spans of a table. -/
structure Represents (s : State TraceState) (t : Table TraceState) : Prop where
  owned : s.store.Owned
  next : s.store.nextHandle = t.next
  spans : ∀ h, s.store.view h = (t.spans h).map fun live => (live.ended, some live.span)
  dropped : s.dropped = t.dropped

variable {s : State TraceState} {t : Table TraceState} {fromStr : Str → Option TraceState}

theorem represents_initial : Represents (.initial : State TraceState) .initial where
  owned := owned_empty
  next := rfl
  spans _ := rfl
  dropped := rfl

theorem Represents.tabulates (h : Represents s t) :
    Tabulates Live.ended (fun live => some live.span) s.store t.spans := ⟨h.owned, h.spans⟩

theorem Represents.contexts (h : Represents s t) : s.contexts = t.contexts := by
  funext x
  rw [State.contexts, Table.contexts, h.spans]
  cases t.spans x with
  | none => rfl
  | some live => rfl

/-- The handle of a span of the table, with the box behind it. -/
theorem Represents.handle (h : Represents s t) {x : Nat} {live : Live TraceState}
    (hx : t.spans x = some live) :
    ∃ c, s.store.handles x = some (live.ended, some c) ∧ s.store.boxes c = some live.span := by
  obtain ⟨ctx, hh, hbacks⟩ := h.tabulates.handle hx
  cases ctx with
  | none => cases hbacks
  | some c =>
    obtain ⟨span, hspan, hbox⟩ := hbacks
    exact ⟨c, hh, hspan.trans hbox.symm⟩

/-- A pointer is refused by both, or is a span without effects for both, or leads to a span of the
table. -/
theorem Represents.asSpan (h : Represents s t) (ptr : SpanPtr) :
    (∃ e, checkedRef (s.asSpan ptr) = .error e ∧ checkedRef (t.asSpan ptr) = .error e) ∨
      (checkedRef (s.asSpan ptr) = .ok none ∧ checkedRef (t.asSpan ptr) = .ok none) ∨
      ∃ x live c, checkedRef (s.asSpan ptr) = .ok (some (x, live.ended, c)) ∧
        checkedRef (t.asSpan ptr) = .ok (some (x, live)) ∧ t.spans x = some live ∧
        s.store.boxes c = some live.span := by
  cases ptr with
  | null => exact .inl ⟨_, rfl, rfl⟩
  | otherKind => exact .inl ⟨_, rfl, rfl⟩
  | noop => exact .inr (.inl ⟨rfl, rfl⟩)
  | handle x =>
    cases hx : t.spans x with
    | none =>
      have hs : s.asSpan (.handle x) = .dead := by rw [State.asSpan, h.tabulates.no_handle hx]
      have ht : t.asSpan (.handle x) = .dead := by rw [Table.asSpan, hx]
      exact .inl ⟨_, congrArg checkedRef hs, congrArg checkedRef ht⟩
    | some live =>
      obtain ⟨c, hh, hspan⟩ := h.handle hx
      refine .inr (.inr ⟨x, live, c, ?_, ?_, hx, hspan⟩)
      · rw [State.asSpan, hh]
        rfl
      · rw [Table.asSpan, hx]
        rfl

/-- A change of a span, on both sides. -/
theorem Represents.modify (h : Represents s t) {x : Nat} {live live' : Live TraceState}
    (hx : t.spans x = some live) {f : Bool → Bool} {g : SdkSpan TraceState → SdkSpan TraceState}
    (hf : f live.ended = live'.ended) (hg : g live.span = live'.span) :
    Represents { s with store := s.store.modify x f g } (t.set x live') := by
  have hset := h.tabulates.modify hx hf (congrArg some hg)
  rw [← Table.spans_set] at hset
  exact ⟨hset.owned, h.next, hset.view, h.dropped⟩

theorem Represents.start (h : Represents s t) (tracer : HandleArg OtelTracer)
    (name : OtelStringView) (entry : StartEntry TraceState) (parent : ParentPtr TraceState)
    (context : SdkSpanContext TraceState) :
    Alike Represents (s.start fromStr tracer name entry parent context)
      (t.start fromStr tracer name entry parent context) := by
  rw [State.start, Table.start, h.contexts]
  cases entry.run fromStr tracer name (parent.arg t.contexts) with
  | noopSpan => exact .same h _
  | refused e => exact .same h _
  | started start =>
    have hstarted := h.tabulates.create ⟨false, start, context, []⟩
    rw [h.next] at hstarted
    exact ⟨congrArg Reply.span h.next, hstarted.owned, congrArg (· + 1) h.next, hstarted.view,
      h.dropped⟩

theorem Represents.tell (h : Represents s t) (ptr : SpanPtr) (call : SpanCall) :
    Alike Represents (s.dispatchSpan ptr call.dispatch) (t.tell ptr call) := by
  rw [State.dispatchSpan, Table.tell]
  rcases h.asSpan ptr with ⟨e, hs, ht⟩ | ⟨hs, ht⟩ | ⟨x, live, c, hs, ht, hx, hbox⟩
  · rw [hs, ht]
    exact .same h _
  · rw [hs, ht]
    exact .same h _
  · simp only [hs, ht, hbox, SpanCall.dispatch_eq]
    cases call.read with
    | error e => exact .same h _
    | ok op => exact ⟨rfl, h.modify hx rfl rfl⟩

theorem Represents.endSpan (h : Represents s t) (ptr : SpanPtr) :
    Alike Represents (s.endSpan ptr) (t.endSpan ptr) := by
  unfold State.endSpan Table.endSpan
  rcases h.asSpan ptr with ⟨e, hs, ht⟩ | ⟨hs, ht⟩ | ⟨x, ⟨ended, span⟩, c, hs, ht, hx, hbox⟩
  · simp only [hs, ht]
    exact .same h _
  · simp only [hs, ht]
    exact .same h _
  · simp only [hs, ht]
    cases ended with
    | true =>
      rw [show Live.finish ⟨true, span⟩ = ⟨true, span⟩ from rfl, t.set_self hx]
      exact .same h _
    | false =>
      simp only [hbox]
      exact ⟨rfl, h.modify hx rfl rfl⟩

theorem Represents.destroy (h : Represents s t) (ptr : SpanPtr) :
    Alike Represents (s.destroy ptr) (t.destroy ptr) := by
  unfold State.destroy Table.destroy
  cases ptr with
  | null => exact .same h _
  | otherKind => exact .same h _
  | noop => exact .same h _
  | handle x =>
    cases hx : t.spans x with
    | none =>
      simp only [State.asSpan, Table.asSpan, h.tabulates.no_handle hx, hx]
      exact .same h _
    | some live =>
      obtain ⟨c, hh, hspan⟩ := h.handle hx
      simp only [State.asSpan, Table.asSpan, hh, hx, Option.map_some, hspan]
      have hgone := h.tabulates.destroy x
      refine ⟨rfl, hgone.owned, h.next, hgone.view, ?_⟩
      rw [h.dropped, Live.finish]
      cases live.ended <;> rfl

/-- One call. -/
theorem Represents.step (h : Represents s t) (call : Call TraceState) :
    Alike Represents (s.step fromStr call) (t.step fromStr call) := by
  cases call with
  | start tracer name entry parent context => exact h.start tracer name entry parent context
  | span ptr call => exact h.tell ptr call
  | endSpan ptr => exact h.endSpan ptr
  | destroy ptr => exact h.destroy ptr

theorem simulates (fromStr : Str → Option TraceState) :
    Simulates (State.step fromStr) (Table.step fromStr) Represents :=
  simulates_of_alike fun _ _ call h => h.step call

/-- **The API over the SDK is one table of spans**: whatever is called, the replies are those of the
table, and so are the spans that were dropped. -/
theorem spans_are_a_table (fromStr : Str → Option TraceState) (calls : List (Call TraceState)) :
    replies (State.step fromStr) .initial calls = replies (Table.step fromStr) .initial calls ∧
      (after (State.step fromStr) .initial calls).dropped =
        (after (Table.step fromStr) .initial calls).dropped :=
  ⟨(simulates fromStr).replies_eq represents_initial calls,
    ((simulates fromStr).related represents_initial calls).dropped⟩

/-! ### The life of a span -/

section Life

/-- The call destroys the span with this handle. -/
def Call.destroys (h : Nat) : Call TraceState → Bool
  | .destroy ptr => ptr = .handle h
  | _ => false

/-- The call ends it. -/
def Call.ends (h : Nat) : Call TraceState → Bool
  | .endSpan ptr => ptr = .handle h
  | _ => false

/-- What the call tells it, if it is accepted. -/
def Call.accepted (h : Nat) : Call TraceState → Option SpanOp
  | .span ptr call => if ptr = .handle h then call.read.toOption else none
  | _ => none

/-- What the call makes of it, if it does not destroy it. -/
def Live.follow (h : Nat) (live : Live TraceState) (call : Call TraceState) : Live TraceState :=
  if call.ends h then live.finish
  else match call.accepted h with
    | none => live
    | some op => { live with span := live.span.tell op }

variable {h : Nat} {live : Live TraceState}

/-- What comes next is new. -/
theorem Represents.fresh (hr : Represents s t) (hlive : t.spans h = some live) : h ≠ t.next := by
  rintro rfl
  have hnone := hr.owned.new s.store.nextHandle (Nat.le_refl _)
  rw [hr.next] at hnone
  obtain ⟨c, hh, -⟩ := hr.handle hlive
  cases hnone.symm.trans hh

theorem asSpan_handle (hlive : t.spans h = some live) :
    t.asSpan (.handle h) = .live (some (h, live)) := by
  rw [Table.asSpan, hlive]

theorem dropped_destroy (hlive : t.spans h = some live) :
    (t.destroy (.handle h)).2.dropped = t.dropped ++ [live.finish.span] := by
  rw [Table.destroy, asSpan_handle hlive]

theorem of_asSpan {ptr : SpanPtr} {x : Nat} {old : Live TraceState}
    (hptr : checkedRef (t.asSpan ptr) = .ok (some (x, old))) : ptr = .handle x := by
  cases ptr with
  | null => cases hptr
  | otherKind => cases hptr
  | noop => cases hptr
  | handle y =>
    rw [Table.asSpan] at hptr
    cases hy : t.spans y with
    | none =>
      rw [hy] at hptr
      cases hptr
    | some live =>
      rw [hy] at hptr
      obtain ⟨rfl, -⟩ := Prod.mk.inj (Option.some.inj (Except.ok.inj hptr))
      rfl

theorem spans_set_of_ne {x : Nat} (hx : x ≠ h) (live : Live TraceState) :
    (t.set x live).spans h = t.spans h := Function.update_of_ne hx.symm _ _

theorem spans_tell_of_ne {ptr : SpanPtr} (hptr : ptr ≠ .handle h) (call : SpanCall) :
    (t.tell ptr call).2.spans h = t.spans h := by
  rw [Table.tell]
  split
  · rfl
  · rfl
  · rename_i x old hx
    have hne : x ≠ h := by
      rintro rfl
      exact hptr (of_asSpan hx)
    split
    · rfl
    · exact spans_set_of_ne hne _

theorem spans_endSpan_of_ne {ptr : SpanPtr} (hptr : ptr ≠ .handle h) :
    (t.endSpan ptr).2.spans h = t.spans h := by
  rw [Table.endSpan]
  split
  · rfl
  · rfl
  · rename_i x old hx
    have hne : x ≠ h := by
      rintro rfl
      exact hptr (of_asSpan hx)
    exact spans_set_of_ne hne _

theorem spans_destroy_of_ne {ptr : SpanPtr} (hptr : ptr ≠ .handle h) :
    (t.destroy ptr).2.spans h = t.spans h := by
  rw [Table.destroy]
  split
  · rename_i x old hx
    have hne : h ≠ x := by
      rintro rfl
      exact hptr (of_asSpan (congrArg checkedRef hx))
    exact Function.update_of_ne hne _ _
  · rfl

/-- One call, from the span of a handle that it does not destroy. -/
theorem Represents.follow (hr : Represents s t) (hlive : t.spans h = some live)
    {call : Call TraceState} (hkept : call.destroys h = false) :
    (t.step fromStr call).2.spans h = some (live.follow h call) := by
  cases call with
  | start tracer name entry parent context =>
    rw [Table.step, Table.start]
    split
    · exact hlive
    · exact hlive
    · exact (Function.update_of_ne (hr.fresh hlive) _ _).trans hlive
  | span ptr call =>
    have hfollow : live.follow h (.span ptr call : Call TraceState) =
      match if ptr = .handle h then call.read.toOption else none with
      | none => live
      | some op => { live with span := live.span.tell op } := rfl
    rw [Table.step, hfollow]
    by_cases hptr : ptr = .handle h
    · subst hptr
      rw [if_pos rfl, Table.tell, asSpan_handle hlive, checkedRef_live]
      cases call.read with
      | error e => exact hlive
      | ok op => exact Function.update_self _ _ _
    · rw [if_neg hptr, spans_tell_of_ne hptr]
      exact hlive
  | endSpan ptr =>
    rw [Table.step, Live.follow, Call.ends]
    by_cases hptr : ptr = .handle h
    · subst hptr
      rw [if_pos (decide_eq_true rfl), Table.endSpan, asSpan_handle hlive, checkedRef_live]
      exact Function.update_self _ _ _
    · rw [if_neg (by rw [decide_eq_true_eq]; exact hptr), spans_endSpan_of_ne hptr]
      exact hlive
  | destroy ptr =>
    have hptr : ptr ≠ .handle h := of_decide_eq_false hkept
    rw [Table.step, spans_destroy_of_ne hptr]
    exact hlive

variable (fromStr) in
/-- Any calls that do not destroy it. -/
theorem Represents.followed (hr : Represents s t) (hlive : t.spans h = some live)
    {calls : List (Call TraceState)} (hkept : ∀ call ∈ calls, call.destroys h = false) :
    (after (Table.step fromStr) t calls).spans h = some (calls.foldl (Live.follow h) live) := by
  induction calls generalizing s t live with
  | nil => exact hlive
  | cons call calls ih =>
    obtain ⟨hcall, hkept⟩ := List.forall_mem_cons.mp hkept
    exact ih (hr.step call).2 (hr.follow hlive hcall) hkept

/-- What an ended span is told. -/
theorem follow_ended (calls : List (Call TraceState)) (hended : live.ended = true) :
    calls.foldl (Live.follow h) live =
      ⟨true, { live.span with told := live.span.told ++ calls.filterMap (Call.accepted h) }⟩ := by
  obtain ⟨ended, span⟩ := live
  subst hended
  induction calls generalizing span with
  | nil => simp
  | cons call calls ih =>
    rw [List.foldl_cons, Live.follow]
    cases hends : call.ends h with
    | true =>
      have hnone : call.accepted h = none := by
        cases call with
        | endSpan ptr => rfl
        | _ => cases hends
      rw [if_pos rfl, List.filterMap_cons_none hnone]
      exact ih span
    | false =>
      rw [if_neg Bool.false_ne_true]
      cases haccepted : call.accepted h with
      | none =>
        rw [List.filterMap_cons_none haccepted]
        exact ih span
      | some op =>
        rw [List.filterMap_cons_some haccepted]
        exact (ih (span.tell op)).trans (by simp [SdkSpan.tell])

/-- What a call of the log says of the end: the accepted calls before the first end, the end, and
the accepted calls after it. -/
def toldBy (h : Nat) (calls : List (Call TraceState)) : List SpanOp :=
  (calls.takeWhile fun call => !call.ends h).filterMap (Call.accepted h) ++
    .ended :: (calls.dropWhile fun call => !call.ends h).filterMap (Call.accepted h)

/-- What a span is told until it was ended for sure. -/
theorem finish_follow (calls : List (Call TraceState)) (hended : live.ended = false) :
    (calls.foldl (Live.follow h) live).finish =
      ⟨true, { live.span with told := live.span.told ++ toldBy h calls }⟩ := by
  obtain ⟨ended, span⟩ := live
  subst hended
  induction calls generalizing span with
  | nil => rfl
  | cons call calls ih =>
    rw [List.foldl_cons, Live.follow, toldBy, List.takeWhile_cons, List.dropWhile_cons]
    cases hends : call.ends h with
    | true =>
      have hnone : call.accepted h = none := by
        cases call with
        | endSpan ptr => rfl
        | _ => cases hends
      rw [if_pos rfl, follow_ended calls rfl]
      simp [Live.finish, SdkSpan.tell, List.filterMap_cons_none hnone]
    | false =>
      rw [if_neg Bool.false_ne_true]
      cases haccepted : call.accepted h with
      | none =>
        refine (ih span).trans ?_
        simp [toldBy, List.filterMap_cons_none haccepted]
      | some op =>
        refine (ih (span.tell op)).trans ?_
        simp [toldBy, SdkSpan.tell, List.filterMap_cons_some haccepted]

/-- A start that gives a handle, on both sides. -/
theorem Represents.started (hr : Represents s t) {tracer : HandleArg OtelTracer}
    {name : OtelStringView} {entry : StartEntry TraceState} {parent : ParentPtr TraceState}
    {context : SdkSpanContext TraceState}
    (hstart : (s.start fromStr tracer name entry parent context).1 = .span h) :
    ∃ start, entry.run fromStr tracer name (parent.arg s.contexts) = .started start ∧
      (t.start fromStr tracer name entry parent context).2.spans h =
        some ⟨false, start, context, []⟩ := by
  rw [State.start] at hstart
  rw [Table.start, ← hr.contexts]
  cases hrun : entry.run fromStr tracer name (parent.arg s.contexts) with
  | noopSpan =>
    rw [hrun] at hstart
    cases hstart
  | refused e =>
    rw [hrun] at hstart
    cases hstart
  | started start =>
    rw [hrun] at hstart
    obtain rfl := Reply.span.inj hstart
    refine ⟨start, rfl, ?_⟩
    rw [hr.next]
    exact Function.update_self _ _ _

/-- **A span is told what the application said, in order**: when its handle is destroyed, after
whatever calls on it and on others, the span that is dropped is the one that was started, it was
told every accepted call on its handle, and once that it was ended: at the first call that ended
it, or when it was destroyed. -/
theorem told_in_order (fromStr : Str → Option TraceState) (before calls : List (Call TraceState))
    (tracer : HandleArg OtelTracer) (name : OtelStringView) (entry : StartEntry TraceState)
    (parent : ParentPtr TraceState) (context : SdkSpanContext TraceState) (h : Nat)
    (hstart : ((after (State.step fromStr) .initial before).start fromStr tracer name entry parent
      context).1 = .span h)
    (hkept : ∀ call ∈ calls, call.destroys h = false) :
    let s := after (State.step fromStr) .initial before
    let s' := after (State.step fromStr) .initial
      (before ++ .start tracer name entry parent context :: calls)
    ∃ start, entry.run fromStr tracer name (parent.arg s.contexts) = .started start ∧
      (s'.destroy (.handle h)).2.dropped = s'.dropped ++ [⟨start, context, toldBy h calls⟩] := by
  intro s s'
  have hr := (simulates fromStr).related represents_initial before
  obtain ⟨start, hrun, hlive⟩ := hr.started hstart
  have hr' := (simulates fromStr).related represents_initial
    (before ++ .start tracer name entry parent context :: calls)
  have hlast := (hr.step (.start tracer name entry parent context)).2.followed fromStr hlive
    hkept
  rw [← after_cons (Table.step fromStr), ← after_append] at hlast
  refine ⟨start, hrun, ?_⟩
  rw [(hr'.destroy (.handle h)).2.dropped, hr'.dropped, dropped_destroy hlast,
    finish_follow calls rfl]
  rfl

/-- A context for the spans below. -/
def someContext : SdkSpanContext Unit := ⟨Bytes.zero 16, Bytes.zero 8, 1, false, ()⟩

/-- A span that is named anew, ended, given a status and ended again. -/
theorem told_in_order_late : ∃ start,
    StartEntry.run (fun _ => some ()) (.live .backed) (.null 0) .null (.startSpan none) =
      .started start ∧
    ((after (State.step fun _ => some ()) .initial
      ([] ++ .start (.live .backed) (.null 0) (.startSpan none) .null someContext ::
        [.span (.handle 0) (.updateName (.elems [97])), .endSpan (.handle 0),
          .span (.handle 0) (.setStatus 1 (.null 0)), .span (.handle 0) (.setStatus 3 (.null 0)),
          .endSpan (.handle 0)])).destroy (.handle 0)).2.dropped =
      [⟨start, someContext, [.updateName ['a'], .ended, .setStatus .ok]⟩] :=
  told_in_order (fun _ => some ()) [] _ (.live .backed) (.null 0) (.startSpan none) .null
    someContext 0 rfl (by decide)

end Life

end OtelC.Trace.Spans
