import OtelC.Trace.Ownership

/-!
# The accounts of the trace API

* `step_destroys`: a call that destroys a handle takes it out, ends its span and frees its context.
* `trace_contexts_accounted`: what every sequence of calls leaves behind, and what a call may do
  that creates, ends, registers or destroys something.
* `installed_provider_stays`: the one context that outlives the handles.
-/

namespace OtelC.Trace.Handles

open Ledger (Life Sound)

/-! ### Where a context is -/

section Fate

variable {s : State} {ref : Ref}

theorem Settled.endCount_le (h : Settled s) (ref : Ref) : s.endCount ref ≤ 1 := by
  rw [h.owned.ends ref]
  cases s.life ref with
  | unborn => exact Nat.zero_le 1
  | released =>
    rw [endsDue]
    split
    · exact Nat.le_refl 1
    · exact Nat.zero_le 1
  | held holder =>
    cases holder with
    | handle x =>
      rw [endsDue]
      split
      · exact Nat.le_refl 1
      · exact Nat.zero_le 1
    | _ => exact Nat.zero_le 1

theorem Settled.released (h : Settled s) (hcount : Ledger.releaseCount s.ledger ref ≠ 0) :
    s.life ref = .released := by
  rw [Ledger.releaseCount_eq h.owned.sound] at hcount
  show Ledger.lives s.ledger ref = .released
  cases hlife : Ledger.lives s.ledger ref with
  | released => rfl
  | unborn =>
    rw [hlife] at hcount
    exact absurd rfl hcount
  | held holder =>
    rw [hlife] at hcount
    exact absurd rfl hcount

/-- A context is handed out, and then a handle has it, or the slot, or it was freed. -/
theorem Settled.fate (h : Settled s) (hout : Ledger.acquireCount s.ledger ref = 1) :
    (∃ x handle, s.handles x = some handle ∧ handle.ref = some ref) ∨
      s.slot.map (fun backing => Ref.mk backing.1 .provider backing.2) = some ref ∧
        Ledger.releaseCount s.ledger ref = 0 ∨
      Ledger.releaseCount s.ledger ref = 1 := by
  rw [Ledger.acquireCount_eq h.owned.sound] at hout
  rw [Ledger.releaseCount_eq h.owned.sound]
  cases hlife : Ledger.lives s.ledger ref with
  | unborn =>
    rw [hlife] at hout
    cases hout
  | released => exact .inr (.inr rfl)
  | held holder =>
    have hcontent := (h.owned.holding holder ref).mp hlife
    cases holder with
    | slot => exact .inr (.inl ⟨hcontent, rfl⟩)
    | handle x =>
      obtain ⟨handle, hhandle, href⟩ := Option.bind_eq_some_iff.mp hcontent
      exact .inl ⟨x, handle, hhandle, href⟩
    | retained => cases hcontent
    | returned => cases hcontent

/-- What is logged of a context after it was freed. -/
theorem Settled.after_free (h : Settled s) {a b : List ImplCall}
    (hcalls : s.calls = a ++ .entry (.release ref) :: b) : ∀ c ∈ b, c.event.ref ≠ ref := by
  have hsplit : s.ledger = (a.map ImplCall.event ++ [.release ref]) ++ b.map ImplCall.event := by
    rw [State.ledger, hcalls, List.map_append, List.map_cons, List.append_assoc]
    rfl
  have hsound := h.owned.sound
  rw [hsplit] at hsound
  have hreleased : Ledger.lives (a.map ImplCall.event ++ [.release ref]) ref = .released := by
    rw [Ledger.lives_concat]
    exact Ledger.apply_release_self _ _
  intro c hc
  exact (Ledger.ref_ne_of_released hsound hreleased).2 _ (List.mem_map_of_mem hc)

/-- A span was ended before it was freed. -/
theorem Settled.before_free (h : Settled s) {a b : List ImplCall}
    (hcalls : s.calls = a ++ .entry (.release ref) :: b) (hkind : ref.kind = .span) :
    .spanEnd ref ∈ a := by
  have hcount : Ledger.releaseCount s.ledger ref ≠ 0 := by
    refine Nat.pos_iff_ne_zero.mp (List.countP_pos_iff.mpr ⟨.release ref, ?_, ?_⟩)
    · rw [State.ledger, hcalls]
      exact List.mem_map_of_mem (f := ImplCall.event)
        (List.mem_append_right a (List.mem_cons_self (a := ImplCall.entry (.release ref))))
    · exact decide_eq_true rfl
  have hends : s.endCount ref = 1 := by
    rw [h.owned.ends ref, h.released hcount, endsDue, if_pos hkind]
  have hpos : 0 < s.endCount ref := by
    rw [hends]
    exact Nat.one_pos
  have hmem : .spanEnd ref ∈ s.calls := List.count_pos_iff.mp hpos
  rw [hcalls] at hmem
  rcases List.mem_append.mp hmem with hmem | hmem
  · exact hmem
  · rcases List.mem_cons.mp hmem with heq | hmem
    · cases heq
    · exact absurd rfl (h.after_free hcalls _ hmem)

/-- A context that the slot or a handle has was handed out and not freed. -/
theorem Settled.kept (h : Settled s) {holder : Holder} (hcontent : s.content holder = some ref) :
    Ledger.acquireCount s.ledger ref = 1 ∧ Ledger.releaseCount s.ledger ref = 0 := by
  have hlife : Ledger.lives s.ledger ref = .held holder := h.owned.life_eq hcontent
  rw [Ledger.acquireCount_eq h.owned.sound, Ledger.releaseCount_eq h.owned.sound, hlife]
  exact ⟨rfl, rfl⟩

/-- A context whose free is in the log was freed once. -/
theorem Settled.releaseCount_eq_one (h : Settled s) (hmem : .entry (.release ref) ∈ s.calls) :
    Ledger.releaseCount s.ledger ref = 1 := by
  have hcount : Ledger.releaseCount s.ledger ref ≠ 0 :=
    Nat.pos_iff_ne_zero.mp (List.countP_pos_iff.mpr
      ⟨.release ref, List.mem_map_of_mem (f := ImplCall.event) hmem, decide_eq_true rfl⟩)
  have hlife : Ledger.lives s.ledger ref = .released := h.released hcount
  rw [Ledger.releaseCount_eq h.owned.sound, hlife]
  rfl

end Fate

/-! ### What a creation returns -/

/-- The handle behind a pointer. -/
def State.at (s : State) : Ptr → Option Handle
  | .handle h => s.handles h
  | _ => none

/-- The tracer and the result of the implementation, of a call that starts a span. -/
def Action.starts : Action → Option (Ptr × Option Nat)
  | .startSpan tracer _ made => some (tracer, made)
  | .startSpanWithContext tracer _ _ made => some (tracer, made)
  | .startSpanEx tracer _ made => some (tracer, made)
  | _ => none

section Creation

variable {s s' : State} {result : Result}

/-- A call ends with a pointer that is as `p` says, with NULL before the implementation was asked for
anything, or with NULL and the tables as they were, because the implementation returned NULL, which
`returnedNull` says. -/
def Creates (s : State) (p : State → Ptr → Prop) (returnedNull : Prop) (s' : State)
    (result : Result) : Prop :=
  (∃ ptr, result = .ptr ptr ∧ p s' ptr) ∨
    (∃ e, result = .failed e) ∧ s' = s ∨
      result = .refused ∧ returnedNull ∧ s'.handles = s.handles ∧ s'.slot = s.slot

theorem creates_failed {p : State → Ptr → Prop} {returnedNull : Prop} (e : Fail) :
    Creates s p returnedNull s (.failed e) := .inr (.inl ⟨⟨e, rfl⟩, rfl⟩)

theorem at_intoRaw (s : State) (handle : Handle) :
    ∃ ptr, (s.intoRaw handle).2 = .ptr ptr ∧ (s.intoRaw handle).1.at ptr = some handle := by
  rw [State.intoRaw]
  cases handle.ref with
  | none => exact ⟨.handle s.next, rfl, Function.update_self _ _ _⟩
  | some ref => exact ⟨.handle s.next, rfl, Function.update_self _ _ _⟩

theorem tables_returns {ref : Option Ref} (h : s.returns ref = some s') :
    s'.handles = s.handles ∧ s'.slot = s.slot := by
  cases ref with
  | none =>
    obtain rfl := Option.some.inj h
    exact ⟨rfl, rfl⟩
  | some ref =>
    rw [State.returns, State.receive] at h
    split at h
    · cases h
      exact ⟨rfl, rfl⟩
    · cases h

/-- A provider handle takes the context that the implementation gives it. -/
theorem creates_providerNew {vtable : Option Vtable} {ctx : Nat}
    (h : s.providerNew vtable ctx = some (s', result)) :
    Creates s (fun s' ptr => ∃ v, vtable = some v ∧ s'.at ptr = some (.provider (.backed v ctx)))
      False s' result := by
  rw [State.providerNew] at h
  split at h
  · cases h
    exact creates_failed _
  · rename_i v hcheck
    obtain ⟨s₁, -, hrest⟩ := Option.bind_eq_some_iff.mp h
    obtain ⟨ptr, hptr, hat⟩ := at_intoRaw s₁ (.provider (.backed v ctx))
    have hpair := Option.some.inj hrest
    have hs' := congrArg Prod.fst hpair
    have hresult := congrArg Prod.snd hpair
    subst hs' hresult
    exact .inl ⟨ptr, hptr, v, checkVtable_eq_ok hcheck, hat⟩

/-- What a provider works on: its own context, or one retained from the slot. -/
def State.provides (s : State) (provider : Ptr) (retained : Option Nat) (vtable : Vtable) : Prop :=
  (∃ ctx, s.asProvider provider = .live (.backed vtable ctx)) ∨
    s.asProvider provider = .live .global ∧
      ∃ ctx kept, s.slot = some (vtable, ctx) ∧ retained = some kept

/-- What a tracer may be that a provider gives. -/
def TracerFrom (s : State) (provider : Ptr) (retained made : Option Nat) (s' : State) (ptr : Ptr) :
    Prop :=
  (s.asProvider provider = .live .global ∧ s.slot = none ∧ s'.at ptr = some (.tracer none)) ∨
    ∃ vtable ctx, s.provides provider retained vtable ∧ made = some ctx ∧
      s'.at ptr = some (.tracer (some (vtable, ctx)))

/-- The implementation returned NULL for a tracer, or for the provider in the slot. -/
def NoTracer (s : State) (provider : Ptr) (retained made : Option Nat) : Prop :=
  made = none ∨ s.asProvider provider = .live .global ∧ retained = none

theorem creates_getTracerFrom {before : State} {provider : Ptr} {vtable : Vtable} {ctx : Nat}
    {owned : Bool} {retained made : Option Nat} (hhandles : s.handles = before.handles)
    (hslot : s.slot = before.slot) (hprovides : before.provides provider retained vtable)
    (h : s.getTracerFrom vtable ctx owned made = some (s', result)) :
    Creates before (TracerFrom before provider retained made)
      (NoTracer before provider retained made) s' result := by
  obtain ⟨s₁, hreturns, hrest⟩ := Option.bind_eq_some_iff.mp h
  obtain ⟨hhandles₁, hslot₁⟩ := tables_returns hreturns
  cases made with
  | none =>
    cases hrest
    refine .inr (.inr ⟨rfl, .inl rfl, ?_⟩)
    cases owned with
    | _ => exact ⟨hhandles₁.trans hhandles, hslot₁.trans hslot⟩
  | some tracer =>
    obtain ⟨ptr, hptr, hat⟩ := at_intoRaw
      (if owned then s₁.free ⟨vtable, .provider, ctx⟩ else s₁) (.tracer (some (vtable, tracer)))
    have hpair := Option.some.inj hrest
    have hs' := congrArg Prod.fst hpair
    have hresult := congrArg Prod.snd hpair
    subst hs' hresult
    exact .inl ⟨ptr, hptr, .inr ⟨vtable, tracer, hprovides, rfl, hat⟩⟩

theorem creates_getTracer {provider : Ptr} {retained made : Option Nat}
    (h : s.getTracer provider retained made = some (s', result)) :
    Creates s (TracerFrom s provider retained made) (NoTracer s provider retained made) s'
      result := by
  rw [State.getTracer] at h
  split at h
  · cases h
    exact creates_failed _
  · rename_i hprovider
    have hglobal := live_of_checkedRef hprovider
    obtain ⟨⟨s₁, r⟩, hretain, hrest⟩ := Option.bind_eq_some_iff.mp h
    rw [State.retainGlobal] at hretain
    split at hretain
    · rename_i hslot
      cases hretain
      obtain ⟨ptr, hptr, hat⟩ := at_intoRaw s (.tracer none)
      have hpair := Option.some.inj hrest
      have hs' := congrArg Prod.fst hpair
      have hresult := congrArg Prod.snd hpair
      subst hs' hresult
      exact .inl ⟨ptr, hptr, .inl ⟨hglobal, hslot, hat⟩⟩
    · rename_i vtable ctx hslot
      split at hretain
      · cases hretain
        cases hrest
        exact .inr (.inr ⟨rfl, .inr ⟨hglobal, rfl⟩, rfl, rfl⟩)
      · rename_i kept
        obtain ⟨s₂, hreceive, hretained⟩ := Option.bind_eq_some_iff.mp hretain
        cases hretained
        have hprovides : s.provides provider (some kept) vtable :=
          .inr ⟨hglobal, ctx, kept, hslot, rfl⟩
        rw [State.receive] at hreceive
        split at hreceive
        · cases hreceive
          apply creates_getTracerFrom _ _ hprovides hrest
          · rfl
          · rfl
        · cases hreceive
  · rename_i ctx hprovider
    exact creates_getTracerFrom rfl rfl (.inl ⟨ctx, live_of_checkedRef hprovider⟩) h

/-- What a span may be that a tracer starts. -/
def SpanFrom (s : State) (tracer : Ptr) (made : Option Nat) (s' : State) (ptr : Ptr) : Prop :=
  (s.asTracer tracer = .live none ∧ ptr = .noopSpan) ∨
    ∃ vtable ctx span, s.asTracer tracer = .live (some (vtable, ctx)) ∧ made = some span ∧
      s'.at ptr = some (.span vtable span false)

theorem creates_startSpanFrom {tracer : Ptr} {vtable : Vtable} {ctx : Nat} {parent : Option Ref}
    {made : Option Nat} (htracer : checkedRef (s.asTracer tracer) = .ok (some (vtable, ctx)))
    (h : s.startSpanFrom vtable ctx parent made = some (s', result)) :
    Creates s (SpanFrom s tracer made) (made = none) s' result := by
  obtain ⟨s₁, hreturns, hrest⟩ := Option.bind_eq_some_iff.mp h
  obtain ⟨hhandles, hslot⟩ := tables_returns hreturns
  have hused : (parent.elim (s.use ⟨vtable, .tracer, ctx⟩)
      (s.use ⟨vtable, .tracer, ctx⟩).use).handles = s.handles ∧
        (parent.elim (s.use ⟨vtable, .tracer, ctx⟩)
          (s.use ⟨vtable, .tracer, ctx⟩).use).slot = s.slot := by
    cases parent with
    | _ => exact ⟨rfl, rfl⟩
  cases made with
  | none =>
    cases hrest
    exact .inr (.inr ⟨rfl, rfl, hhandles.trans hused.1, hslot.trans hused.2⟩)
  | some span =>
    obtain ⟨ptr, hptr, hat⟩ := at_intoRaw s₁ (.span vtable span false)
    have hpair := Option.some.inj hrest
    have hs' := congrArg Prod.fst hpair
    have hresult := congrArg Prod.snd hpair
    subst hs' hresult
    exact .inl ⟨ptr, hptr, .inr ⟨vtable, ctx, span, live_of_checkedRef htracer, rfl, hat⟩⟩

/-- The no-op span of a tracer without an implementation. -/
theorem creates_noop {tracer : Ptr} {made : Option Nat}
    (h : checkedRef (s.asTracer tracer) = .ok none) :
    Creates s (SpanFrom s tracer made) (made = none) s (.ptr .noopSpan) :=
  .inl ⟨.noopSpan, rfl, .inl ⟨live_of_checkedRef h, rfl⟩⟩

theorem creates_startSpan {tracer : Ptr} {options : Option Ptr} {made : Option Nat}
    (h : s.startSpan tracer options made = some (s', result)) :
    Creates s (SpanFrom s tracer made) (made = none) s' result := by
  rw [State.startSpan] at h
  split at h
  · cases h
    exact creates_failed _
  · rename_i htracer
    cases h
    exact creates_noop htracer
  · rename_i htracer
    split at h
    · exact creates_startSpanFrom htracer h
    · split at h
      · cases h
        exact creates_failed _
      · exact creates_startSpanFrom htracer h

theorem creates_startSpanWithContext {tracer parent : Ptr} {options : Option Ptr}
    {made : Option Nat}
    (h : s.startSpanWithContext tracer options parent made = some (s', result)) :
    Creates s (SpanFrom s tracer made) (made = none) s' result := by
  rw [State.startSpanWithContext] at h
  split at h
  · cases h
    exact creates_failed _
  · cases h
    exact creates_failed _
  · rename_i backing isValid htracer _
    split at h
    · cases h
      exact creates_failed _
    · split at h
      · cases h
        exact creates_failed _
      · split at h
        · cases h
          exact creates_noop htracer
        · split at h
          · exact creates_startSpanFrom htracer h
          · cases h
            exact creates_failed _

theorem creates_startSpanEx {tracer : Ptr} {options : Option SpanStartOptionsEx} {made : Option Nat}
    (h : s.startSpanEx tracer options made = some (s', result)) :
    Creates s (SpanFrom s tracer made) (made = none) s' result := by
  unfold State.startSpanEx at h
  split at h
  · cases h
    exact creates_failed _
  · cases h
    exact creates_failed _
  · rename_i backing options htracer
    split at h
    · cases h
      exact creates_failed _
    · cases h
      exact creates_noop htracer
    · split at h
      · cases h
        exact creates_failed _
      · split at h
        · cases h
          exact creates_failed _
        · cases h
          exact creates_failed _
        · split at h
          · cases h
            exact creates_failed _
          · exact creates_startSpanFrom htracer h

theorem creates_starts {action : Action} {tracer : Ptr} {made : Option Nat}
    (haction : action.starts = some (tracer, made)) (h : step s action = some (s', result)) :
    Creates s (SpanFrom s tracer made) (made = none) s' result := by
  cases action with
  | startSpan t options m =>
    cases haction
    exact creates_startSpan h
  | startSpanWithContext t options parent m =>
    cases haction
    exact creates_startSpanWithContext h
  | startSpanEx t options m =>
    cases haction
    exact creates_startSpanEx h
  | _ => cases haction

end Creation

/-! ### What a registration does -/

section Registration

variable {s s' : State} {ctx : Nat}

/-- The new provider is in the slot, and the provider that was there is freed. -/
theorem step_register {vtable : Option Vtable}
    (h : step s (.registerGlobalProvider vtable ctx) = some (s', .status (.ok ()))) :
    ∃ v, vtable = some v ∧ s'.slot = some (v, ctx) ∧ s'.handles = s.handles ∧
      ∀ oldVtable old, s.slot = some (oldVtable, old) →
        .entry (.release ⟨oldVtable, .provider, old⟩) ∈ s'.calls := by
  rw [step, State.registerGlobalProvider] at h
  split at h
  · cases h
  · rename_i v hcheck
    obtain ⟨s₁, hreceive, hrest⟩ := Option.bind_eq_some_iff.mp h
    have hreturned : s.returns (some ⟨v, .provider, ctx⟩) = some s₁ := hreceive
    obtain ⟨hhandles, -⟩ := tables_returns hreturned
    split at hrest
    · rename_i hslot
      cases hrest
      refine ⟨v, checkVtable_eq_ok hcheck, rfl, hhandles, fun oldVtable old hold => ?_⟩
      cases hslot.symm.trans hold
    · rename_i hslot
      cases hrest
      refine ⟨v, checkVtable_eq_ok hcheck, rfl, hhandles, fun oldVtable old hold => ?_⟩
      cases hslot.symm.trans hold
      exact List.mem_append_right _ (List.mem_singleton_self _)

theorem step_register_refused {vtable : Option Vtable} {e : Fail}
    (h : step s (.registerGlobalProvider vtable ctx) = some (s', .status (.error e))) : s' = s := by
  rw [step, State.registerGlobalProvider] at h
  split at h
  · cases h
    rfl
  · obtain ⟨s₁, -, hrest⟩ := Option.bind_eq_some_iff.mp h
    split at hrest
    · cases hrest
    · cases hrest

end Registration

/-! ### What ending and destroying do -/

/-- The pointer of a call that destroys a handle, and the handles it takes. -/
def Action.destroys : Action → Option (Ptr × (Handle → Bool))
  | .spanDestroy span => some (span, Handle.isSpan)
  | .tracerDestroy tracer => some (tracer, Handle.isTracer)
  | .tracerProviderDestroy provider => some (provider, Handle.isProvider)
  | .spanContextDestroy context => some (context, Handle.isSpanContext)
  | _ => none

/-- What the implementation is told when a handle is destroyed: its span is ended, unless it was,
and its context freed. -/
def Handle.lastCalls : Handle → List ImplCall
  | .span vtable ctx false =>
    [.spanEnd ⟨vtable, .span, ctx⟩, .entry (.release ⟨vtable, .span, ctx⟩)]
  | handle => handle.ref.toList.map fun ref => .entry (.release ref)

section Destruction

variable {s s' : State} {h : Nat} {handle : Handle}

/-- The handle is gone, the others stay, and the implementation is told. -/
structure Destroyed (s : State) (h : Nat) (handle : Handle) (s' : State) : Prop where
  handles : s'.handles = Function.update s.handles h none
  slot : s'.slot = s.slot
  calls : s'.calls = s.calls ++ handle.lastCalls

theorem destroyed_destroyHandle (s : State) (h : Nat)
    (hlast : handle.lastCalls = handle.ref.toList.map fun ref => .entry (.release ref)) :
    Destroyed s h handle (s.destroyHandle h handle) := by
  rw [State.destroyHandle]
  cases href : handle.ref with
  | none =>
    rw [href] at hlast
    exact ⟨rfl, rfl, by rw [hlast]; exact (List.append_nil _).symm⟩
  | some ref =>
    rw [href] at hlast
    exact ⟨rfl, rfl, by rw [hlast]; rfl⟩

theorem destroyed_of_at {isKind : Handle → Bool} {p : Ptr} (hat : s.at p = some handle)
    (hkind : isKind handle) :
    ∃ h, p = .handle h ∧ s.handles h = some handle ∧ s.destroyed isKind p = some (h, handle) := by
  cases p with
  | handle h =>
    have hhandle : s.handles h = some handle := hat
    refine ⟨h, rfl, hhandle, ?_⟩
    rw [State.destroyed, hhandle, Option.filter_some, if_pos hkind]
    rfl
  | _ => cases hat

theorem destroyed_destroy {isKind : Handle → Bool} {p : Ptr} (hat : s.at p = some handle)
    (hkind : isKind handle) (hspan : handle.isSpan = false) :
    ∃ h, p = .handle h ∧ Destroyed s h handle (s.destroy isKind p) := by
  obtain ⟨h, hp, -, hdestroyed⟩ := destroyed_of_at hat hkind
  refine ⟨h, hp, ?_⟩
  rw [State.destroy, hdestroyed]
  refine destroyed_destroyHandle s h ?_
  cases handle with
  | span vtable ctx ended => cases hspan
  | _ => rfl

theorem destroyed_spanDestroy {p : Ptr} (hat : s.at p = some handle) (hkind : handle.isSpan) :
    ∃ h, p = .handle h ∧ Destroyed s h handle (s.spanDestroy p) := by
  obtain ⟨h, hp, hhandle, hdestroyed⟩ := destroyed_of_at hat hkind
  refine ⟨h, hp, ?_⟩
  rw [State.spanDestroy, hdestroyed]
  cases handle with
  | span vtable ctx ended =>
    cases ended with
    | true => exact destroyed_destroyHandle s h rfl
    | false =>
      refine ⟨?_, rfl, ?_⟩
      · exact Function.update_idem _ _ _
      · exact List.append_assoc s.calls [.spanEnd _] [.entry (.release _)]
  | _ => cases hkind

/-- **A call that destroys a handle of its kind takes it out and frees its context.** -/
theorem step_destroys {action : Action} {p : Ptr} {isKind : Handle → Bool}
    (haction : action.destroys = some (p, isKind)) (hat : s.at p = some handle)
    (hkind : isKind handle) :
    ∃ h s', p = .handle h ∧ step s action = some (s', .status (.ok ())) ∧
      Destroyed s h handle s' := by
  cases action with
  | spanDestroy span =>
    cases haction
    obtain ⟨h, hp, hdestroyed⟩ := destroyed_spanDestroy hat hkind
    exact ⟨h, _, hp, rfl, hdestroyed⟩
  | tracerDestroy tracer =>
    cases haction
    have hspan : handle.isSpan = false := by
      cases handle with
      | tracer backing => rfl
      | _ => cases hkind
    obtain ⟨h, hp, hdestroyed⟩ := destroyed_destroy hat hkind hspan
    exact ⟨h, _, hp, rfl, hdestroyed⟩
  | tracerProviderDestroy provider =>
    cases haction
    have hspan : handle.isSpan = false := by
      cases handle with
      | provider inner => rfl
      | _ => cases hkind
    obtain ⟨h, hp, hdestroyed⟩ := destroyed_destroy hat hkind hspan
    exact ⟨h, _, hp, rfl, hdestroyed⟩
  | spanContextDestroy context =>
    cases haction
    have hspan : handle.isSpan = false := by
      cases handle with
      | spanContext isValid => rfl
      | _ => cases hkind
    obtain ⟨h, hp, hdestroyed⟩ := destroyed_destroy hat hkind hspan
    exact ⟨h, _, hp, rfl, hdestroyed⟩
  | _ => cases haction

theorem destroyed_eq_none {isKind : Handle → Bool} {p : Ptr}
    (hat : ∀ handle, s.at p = some handle → isKind handle = false) :
    s.destroyed isKind p = none := by
  cases p with
  | handle h =>
    show ((s.handles h).filter isKind).map (h, ·) = none
    cases hhandle : s.handles h with
    | none => rfl
    | some handle =>
      rw [Option.filter_some, if_neg (by rw [hat handle hhandle]; exact Bool.false_ne_true)]
      rfl
  | _ => rfl

/-- Every other pointer is left alone. -/
theorem step_destroys_other {action : Action} {p : Ptr} {isKind : Handle → Bool}
    (haction : action.destroys = some (p, isKind))
    (hat : ∀ handle, s.at p = some handle → isKind handle = false) :
    step s action = some (s, .status (.ok ())) := by
  have hnone := destroyed_eq_none hat
  cases action with
  | spanDestroy span =>
    cases haction
    rw [step, State.spanDestroy, hnone]
  | tracerDestroy tracer =>
    cases haction
    rw [step, State.destroy, hnone]
  | tracerProviderDestroy provider =>
    cases haction
    rw [step, State.destroy, hnone]
  | spanContextDestroy context =>
    cases haction
    rw [step, State.destroy, hnone]
  | _ => cases haction

/-- **What becomes of the context of a handle that is destroyed.** -/
theorem Destroyed.freed (hd : Destroyed s h handle s') (hsettled : Settled s')
    {ref : Ref} (href : handle.ref = some ref) :
    Ledger.releaseCount s'.ledger ref = 1 ∧ (ref.kind = .span → s'.endCount ref = 1) := by
  have hlast : .entry (.release ref) ∈ handle.lastCalls := by
    cases handle with
    | span vtable ctx ended =>
      cases href
      cases ended with
      | true => exact List.mem_singleton_self _
      | false => exact List.mem_cons_of_mem _ (List.mem_singleton_self _)
    | _ =>
      rw [Handle.lastCalls, href]
      · exact List.mem_singleton_self _
      · exact fun _ _ heq => by cases heq
  have hmem : .entry (.release ref) ∈ s'.calls := by
    rw [hd.calls]
    exact List.mem_append_right _ hlast
  refine ⟨hsettled.releaseCount_eq_one hmem, fun hkind => ?_⟩
  obtain ⟨a, b, hcalls⟩ := List.append_of_mem hmem
  have hended : .spanEnd ref ∈ s'.calls := by
    rw [hcalls]
    exact List.mem_append_left _ (hsettled.before_free hcalls hkind)
  exact Nat.le_antisymm (hsettled.endCount_le ref) (List.count_pos_iff.mpr hended)

/-- **A span is ended at the implementation** by the first call that ends it. -/
theorem step_spanEnd {vtable : Vtable} {ctx : Nat} {ended : Bool}
    (hhandle : s.handles h = some (.span vtable ctx ended)) :
    ∃ s', step s (.spanEnd (.handle h)) = some (s', .status (.ok ())) ∧
      s'.handles = Function.update s.handles h (some (.span vtable ctx true)) ∧ s'.slot = s.slot ∧
        s'.calls = s.calls ++ if ended then [] else [.spanEnd ⟨vtable, .span, ctx⟩] := by
  have hspan : s.asSpan (.handle h) = .live (some (h, vtable, ctx, ended)) := by
    rw [State.asSpan, hhandle]
  have hstep : step s (.spanEnd (.handle h)) =
      some (s.endSpan h vtable ctx ended, .status (.ok ())) := by
    rw [step, State.spanEnd, hspan]
    rfl
  refine ⟨_, hstep, ?_⟩
  cases ended with
  | true =>
    refine ⟨?_, rfl, (List.append_nil _).symm⟩
    rw [← hhandle]
    exact (Function.update_eq_self _ _).symm
  | false => exact ⟨rfl, rfl, rfl⟩

end Destruction

/-! ### Every sequence of calls -/

/-- What the trace API keeps to. -/
structure Accounted (s : State) : Prop where
  /-- Nothing is freed twice, and nothing is used after it was freed. -/
  sound : Sound s.ledger
  freed_le : ∀ ref, Ledger.releaseCount s.ledger ref ≤ 1
  after_free : ∀ ref a b, s.calls = a ++ .entry (.release ref) :: b → ∀ c ∈ b, c.event.ref ≠ ref
  /-- What the slot and the handles have was handed out and not freed. -/
  kept : ∀ holder ref, s.content holder = some ref →
    Ledger.acquireCount s.ledger ref = 1 ∧ Ledger.releaseCount s.ledger ref = 0
  /-- When all handles are destroyed, every context was freed but the one that is installed. -/
  freed : (∀ h handle, s.handles h = some handle → handle.ref = none) →
    ∀ ref, Ledger.acquireCount s.ledger ref = 1 →
      s.slot.map (fun backing => Ref.mk backing.1 .provider backing.2) ≠ some ref →
        Ledger.releaseCount s.ledger ref = 1
  ends_le : ∀ ref, s.endCount ref ≤ 1
  /-- A span is ended before it is freed. -/
  ended : ∀ ref a b, ref.kind = .span → s.calls = a ++ .entry (.release ref) :: b →
    .spanEnd ref ∈ a
  /-- A call that destroys a handle takes it out, ends its span, unless it was ended, and frees its
  context. -/
  destroys : ∀ action p isKind handle, action.destroys = some (p, isKind) → s.at p = some handle →
    isKind handle → ∃ h s', p = .handle h ∧ step s action = some (s', .status (.ok ())) ∧
      Destroyed s h handle s' ∧ ∀ ref, handle.ref = some ref →
        Ledger.releaseCount s'.ledger ref = 1 ∧ (ref.kind = .span → s'.endCount ref = 1)
  spares : ∀ action p isKind, action.destroys = some (p, isKind) →
    (∀ handle, s.at p = some handle → isKind handle = false) →
      step s action = some (s, .status (.ok ()))
  /-- A span that is not ended is ended at the implementation. -/
  ends : ∀ h vtable ctx ended, s.handles h = some (.span vtable ctx ended) →
    ∃ s', step s (.spanEnd (.handle h)) = some (s', .status (.ok ())) ∧
      s'.handles = Function.update s.handles h (some (.span vtable ctx true)) ∧ s'.slot = s.slot ∧
        s'.calls = s.calls ++ if ended then [] else [.spanEnd ⟨vtable, .span, ctx⟩]
  /-- A registration that is accepted is in the slot, and what was there is freed. -/
  registers : ∀ vtable ctx s',
    step s (.registerGlobalProvider vtable ctx) = some (s', .status (.ok ())) →
      ∃ v, vtable = some v ∧ s'.slot = some (v, ctx) ∧ s'.handles = s.handles ∧
        ∀ oldVtable old, s.slot = some (oldVtable, old) →
          Ledger.releaseCount s'.ledger ⟨oldVtable, .provider, old⟩ = 1
  refuses : ∀ vtable ctx s' e,
    step s (.registerGlobalProvider vtable ctx) = some (s', .status (.error e)) → s' = s
  providers : ∀ vtable ctx s' result, step s (.providerNew vtable ctx) = some (s', result) →
    Creates s (fun s' ptr => ∃ v, vtable = some v ∧ s'.at ptr = some (.provider (.backed v ctx)))
      False s' result
  /-- Only a provider without an implementation gives a no-op tracer; a failure is NULL. -/
  tracers : ∀ provider retained made s' result,
    step s (.getTracer provider retained made) = some (s', result) →
      Creates s (TracerFrom s provider retained made) (NoTracer s provider retained made) s' result
  spans : ∀ action tracer made s' result, action.starts = some (tracer, made) →
    step s action = some (s', result) → Creates s (SpanFrom s tracer made) (made = none) s' result

theorem Settled.accounted {s : State} (h : Settled s) : Accounted s := {
  sound := h.owned.sound
  freed_le := by
    intro ref
    rw [Ledger.releaseCount_eq h.owned.sound]
    split
    · exact Nat.le_refl 1
    · exact Nat.zero_le 1
  after_free := fun _ _ _ hcalls => h.after_free hcalls
  freed := by
    intro hnone ref hout hslot
    rcases h.fate hout with ⟨x, handle, hhandle, href⟩ | ⟨hinstalled, -⟩ | hfreed
    · cases (hnone x handle hhandle).symm.trans href
    · exact absurd hinstalled hslot
    · exact hfreed
  ends_le := h.endCount_le
  ended := fun _ _ _ hkind hcalls => h.before_free hcalls hkind
  kept := fun _ _ hcontent => h.kept hcontent
  destroys := by
    intro action p isKind handle haction hat hkind
    obtain ⟨x, s', hp, hstep, hdestroyed⟩ := step_destroys haction hat hkind
    exact ⟨x, s', hp, hstep, hdestroyed, fun ref href => hdestroyed.freed (h.step hstep) href⟩
  spares := fun _ _ _ haction hat => step_destroys_other haction hat
  ends := fun _ _ _ _ hhandle => step_spanEnd hhandle
  registers := by
    intro vtable ctx s' hstep
    obtain ⟨v, hv, hslot, hhandles, hold⟩ := step_register hstep
    exact ⟨v, hv, hslot, hhandles, fun oldVtable old hslot =>
      (h.step hstep).releaseCount_eq_one (hold oldVtable old hslot)⟩
  refuses := fun _ _ _ _ hstep => step_register_refused hstep
  providers := fun _ _ _ _ hstep => creates_providerNew hstep
  tracers := fun _ _ _ _ _ hstep => creates_getTracer hstep
  spans := fun _ _ _ _ _ haction hstep => creates_starts haction hstep }

/-- **No context of an implementation leaks or is freed twice**, in any sequence of calls. -/
theorem trace_contexts_accounted (actions : List Action) (s : State)
    (hrun : run .initial actions = some s) : Accounted s := (settled_run hrun).accounted

def sdkVtable : Vtable := ⟨1, 1, 160⟩

/-- A provider is installed, a tracer and two spans are made of it, one of them never ended by its
owner, and the provider is replaced while they live. -/
def oneTrace : List Action :=
  [.registerGlobalProvider (some sdkVtable) 1, .globalTracerProvider,
    .getTracer (.handle 0) (some 2) (some 3), .startSpan (.handle 1) none (some 4),
    .startSpan (.handle 1) (some (.handle 2)) (some 5), .spanEnd (.handle 3), .spanEnd (.handle 3),
    .registerGlobalProvider (some sdkVtable) 6, .startSpan (.handle 1) none none,
    .spanDestroy (.handle 3), .tracerDestroy (.handle 1), .spanDestroy (.handle 2),
    .tracerProviderDestroy (.handle 0)]

theorem trace_contexts_accounted_oneTrace : ∃ s, run .initial oneTrace = some s ∧ Accounted s ∧
    (∀ h < s.next, (s.handles h).isNone) ∧ s.slot = some (sdkVtable, 6) ∧
    [Ref.mk sdkVtable .provider 1, ⟨sdkVtable, .provider, 2⟩, ⟨sdkVtable, .tracer, 3⟩,
      ⟨sdkVtable, .span, 4⟩, ⟨sdkVtable, .span, 5⟩, ⟨sdkVtable, .provider, 6⟩].map
        (Ledger.releaseCount s.ledger) = [1, 1, 1, 1, 1, 0] ∧
    s.endCount ⟨sdkVtable, .span, 4⟩ = 1 ∧ s.endCount ⟨sdkVtable, .span, 5⟩ = 1 :=
  ⟨_, rfl, trace_contexts_accounted oneTrace _ rfl, by decide, rfl, by decide, by decide,
    by decide⟩

/-- **An installed provider stays with the slot** when no handle is left. -/
theorem installed_provider_stays :
    ∃ s, run .initial [.registerGlobalProvider (some sdkVtable) 1] = some s ∧
      (∀ h, s.handles h = none) ∧
      Ledger.acquireCount s.ledger ⟨sdkVtable, .provider, 1⟩ = 1 ∧
      Ledger.releaseCount s.ledger ⟨sdkVtable, .provider, 1⟩ = 0 :=
  ⟨_, rfl, fun _ => rfl, by decide, by decide⟩

end OtelC.Trace.Handles
