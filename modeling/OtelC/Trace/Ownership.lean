import OtelC.Trace.Handles

/-!
# Who owns the contexts of the trace API

`Owned content s` says that the log of a state is sound, that the holders hold what `content` says,
and that `span_end` was called as often as it should have been by now.  Every primitive of the
model keeps it for the content it leaves, and between two calls the content is that of the slot and
the handles.

* `Settled.step`, `settled_run`: every call, and so every sequence of calls, keeps the accounts.
-/

namespace OtelC.Trace.Handles

open Ledger (Holding Legal Life Sound)

/-- What the holders hold during a call, which holds something itself. -/
def State.contentDuring (s : State) (retained returned : Option Ref) : Holder → Option Ref
  | .slot => s.slot.map fun backing => ⟨backing.1, .provider, backing.2⟩
  | .handle h => (s.handles h).bind Handle.ref
  | .retained => retained
  | .returned => returned

/-- What the holders hold between two calls. -/
def State.content (s : State) : Holder → Option Ref := s.contentDuring none none

def State.endCount (s : State) (ref : Ref) : Nat := s.calls.count (.spanEnd ref)

def Handle.isEnded : Handle → Bool
  | .span _ _ ended => ended
  | _ => false

/-- How often `span_end` is due for a context: once when its handle says so, and once for every span
that was freed. -/
def endsDue (handles : Nat → Option Handle) (ref : Ref) : Life Holder → Nat
  | .held (.handle h) => if (handles h).any Handle.isEnded then 1 else 0
  | .released => if ref.kind = .span then 1 else 0
  | _ => 0

structure Owned (content : Holder → Option Ref) (s : State) : Prop where
  sound : Sound s.ledger
  holding : Holding s.life content
  ends : ∀ ref, s.endCount ref = endsDue s.handles ref (s.life ref)

/-! ### One entry of the log -/

theorem ledger_call (s : State) (c : ImplCall) : (s.call c).ledger = s.ledger ++ [c.event] :=
  List.map_append

theorem life_call (s : State) (c : ImplCall) : (s.call c).life = Ledger.apply s.life c.event := by
  rw [State.life, ledger_call, Ledger.lives_concat]
  rfl

theorem endCount_entry (s : State) (e : Ledger.Event Ref Holder) (ref : Ref) :
    (s.call (.entry e)).endCount ref = s.endCount ref := by
  show List.count (ImplCall.spanEnd ref) (s.calls ++ [.entry e]) = _
  rw [List.count_append, List.count_singleton, if_neg (by simp)]
  rfl

theorem endCount_spanEnd (s : State) (span ref : Ref) :
    (s.call (.spanEnd span)).endCount ref = s.endCount ref + if span = ref then 1 else 0 := by
  show List.count (ImplCall.spanEnd ref) (s.calls ++ [.spanEnd span]) = _
  rw [List.count_append, List.count_singleton, State.endCount]
  by_cases h : span = ref
  · subst h
    simp
  · rw [if_neg h, if_neg (by simpa using h)]

section Calls

variable {content : Holder → Option Ref} {s : State} {holder target : Holder} {ref : Ref}

/-- An entry that does not change how often a span should have ended. -/
theorem Owned.entry (h : Owned content s) {content' : Holder → Option Ref}
    {e : Ledger.Event Ref Holder} (hlegal : Legal s.life e)
    (hholding : Holding (Ledger.apply s.life e) content')
    (hdue : endsDue s.handles e.ref (Ledger.apply s.life e e.ref) =
      endsDue s.handles e.ref (s.life e.ref)) : Owned content' (s.call (.entry e)) := by
  constructor
  · rw [ledger_call]
    exact .concat h.sound hlegal
  · rw [life_call]
    exact hholding
  · intro ref
    rw [endCount_entry, h.ends ref, life_call]
    show _ = endsDue s.handles ref (Ledger.apply s.life e ref)
    by_cases href : ref = e.ref
    · subst href
      exact hdue.symm
    · rw [Ledger.apply_of_ne href]

theorem Owned.life_eq (h : Owned content s) (hcontent : content holder = some ref) :
    s.life ref = .held holder := (h.holding holder ref).mpr hcontent

theorem Owned.use (h : Owned content s) (hcontent : content holder = some ref) :
    Owned content (s.use ref) :=
  h.entry (h.holding.legal hcontent) h.holding rfl

/-- The implementation hands out a context, to a call. -/
theorem Owned.receive (h : Owned content s) {s' : State} (hempty : content holder = none)
    (hholder : ∀ x, holder ≠ .handle x) (hs : s.receive ref holder = some s') :
    Owned (Function.update content holder (some ref)) s' ∧ s'.handles = s.handles ∧
      s'.slot = s.slot ∧ s'.next = s.next := by
  rw [State.receive] at hs
  split at hs
  · rename_i hlife
    cases hs
    refine ⟨h.entry hlife (h.holding.acquire hlife hempty) ?_, rfl, rfl, rfl⟩
    show endsDue _ ref (Ledger.apply s.life (.acquire ref holder) ref) = endsDue _ ref (s.life ref)
    rw [Ledger.apply_acquire_self, hlife]
    cases holder with
    | handle x => exact absurd rfl (hholder x)
    | _ => rfl
  · cases hs

theorem Owned.move (h : Owned content s) (hcontent : content holder = some ref)
    (hempty : content target = none) (hholder : ∀ x, holder ≠ .handle x)
    (htarget : ∀ x, target ≠ .handle x) :
    Owned (Function.update (Function.update content holder none) target (some ref))
      (s.move ref target) := by
  refine h.entry (h.holding.legal hcontent) (h.holding.move hcontent hempty) ?_
  show endsDue _ ref (Ledger.apply s.life (.move ref target) ref) = endsDue _ ref (s.life ref)
  rw [Ledger.apply_move_self, h.life_eq hcontent]
  cases target with
  | handle x => exact absurd rfl (htarget x)
  | _ =>
    cases holder with
    | handle x => exact absurd rfl (hholder x)
    | _ => rfl

/-- A context that is not a span's is freed by a call. -/
theorem Owned.free (h : Owned content s) (hcontent : content holder = some ref)
    (hholder : ∀ x, holder ≠ .handle x) (hkind : ref.kind ≠ .span) :
    Owned (Function.update content holder none) (s.free ref) := by
  refine h.entry (h.holding.legal hcontent) (h.holding.release hcontent) ?_
  show endsDue _ ref (Ledger.apply s.life (.release ref) ref) = endsDue _ ref (s.life ref)
  rw [Ledger.apply_release_self, h.life_eq hcontent, endsDue, if_neg hkind]
  cases holder with
  | handle x => exact absurd rfl (hholder x)
  | _ => rfl

end Calls

/-! ### Handles come and go -/

theorem endsDue_update {handles : Nat → Option Handle} {h : Nat} {handle : Option Handle} {ref : Ref}
    {life : Life Holder} (hlife : life ≠ .held (.handle h)) :
    endsDue (Function.update handles h handle) ref life = endsDue handles ref life := by
  cases life with
  | held holder =>
    cases holder with
    | handle x =>
      have hne : x ≠ h := by
        rintro rfl
        exact hlife rfl
      rw [endsDue, endsDue, Function.update_of_ne hne]
    | _ => rfl
  | _ => rfl

section Handles

variable {content : Holder → Option Ref} {s : State} {h : Nat} {ref : Ref}

/-- A handle without a context is set or dropped. -/
theorem Owned.setHandle (ho : Owned content s) (hempty : content (.handle h) = none)
    (handle : Option Handle) : Owned content (s.setHandle h handle) := by
  refine ⟨ho.sound, ho.holding, fun ref => ?_⟩
  have hlife : s.life ref ≠ .held (.handle h) := by
    intro hheld
    cases hempty.symm.trans ((ho.holding (.handle h) ref).mp hheld)
  exact (ho.ends ref).trans (endsDue_update hlife).symm

/-- A new handle takes over what the call was given. -/
theorem Owned.keep (ho : Owned content s) {handle : Handle} (hcontent : content .returned = some ref)
    (hempty : content (.handle h) = none) (hended : handle.isEnded = false) :
    Owned (Function.update (Function.update content .returned none) (.handle h) (some ref))
      ((s.setHandle h (some handle)).move ref (.handle h)) := by
  have hset := ho.setHandle hempty (some handle)
  refine hset.entry (hset.holding.legal hcontent) (hset.holding.move hcontent hempty) ?_
  show endsDue _ ref (Ledger.apply s.life (.move ref (.handle h)) ref) =
    endsDue _ ref (s.life ref)
  rw [Ledger.apply_move_self, ho.life_eq hcontent]
  show (if (Function.update s.handles h (some handle) h).any Handle.isEnded then 1 else 0) = 0
  rw [Function.update_self, Option.any_some, hended]
  rfl

/-- A span is ended. -/
theorem Owned.spanEnd (ho : Owned content s) {handle : Handle} (ended : Handle)
    (hcontent : content (.handle h) = some ref) (hhandle : s.handles h = some handle)
    (hbefore : handle.isEnded = false) (hafter : ended.isEnded = true) :
    Owned content ((s.setHandle h (some ended)).call (.spanEnd ref)) := by
  have hheld := ho.life_eq hcontent
  constructor
  · rw [ledger_call]
    exact .concat ho.sound (ho.holding.legal hcontent)
  · rw [life_call]
    exact ho.holding
  · intro other
    rw [endCount_spanEnd, life_call]
    show s.endCount other + _ = endsDue (Function.update s.handles h (some ended)) other (s.life other)
    rw [ho.ends other]
    by_cases hother : ref = other
    · subst hother
      rw [hheld, if_pos rfl, endsDue, endsDue, hhandle, Function.update_self, Option.any_some,
        Option.any_some, hbefore, hafter]
      rfl
    · have hlife : s.life other ≠ .held (.handle h) := by
        intro hlife
        have hsame := (ho.holding (.handle h) other).mp hlife
        exact hother (Option.some.inj (hcontent.symm.trans hsame))
      rw [if_neg hother, endsDue_update hlife, Nat.add_zero]

/-- A handle is destroyed and its context freed; a span has ended by then. -/
theorem Owned.destroyHandle (ho : Owned content s) {handle : Handle}
    (hcontent : content (.handle h) = handle.ref) (hhandle : s.handles h = some handle)
    (hended : handle.isSpan → handle.isEnded) :
    Owned (Function.update content (.handle h) none) (s.destroyHandle h handle) := by
  rw [State.destroyHandle]
  cases href : handle.ref with
  | none =>
    rw [href] at hcontent
    have hsame : Function.update content (.handle h) none = content := by
      rw [← hcontent]
      exact Function.update_eq_self _ _
    rw [hsame]
    exact ho.setHandle hcontent none
  | some ref =>
    rw [href] at hcontent
    have hreleased := ho.holding.release hcontent
    refine ⟨?_, ?_, fun other => ?_⟩
    · show Sound ((s.free ref).ledger)
      rw [State.free, ledger_call]
      exact .concat ho.sound (ho.holding.legal hcontent)
    · show Holding ((s.free ref).life) _
      rw [State.free, life_call]
      exact hreleased
    · show (s.free ref).endCount other = endsDue _ other ((s.free ref).life other)
      rw [State.free, endCount_entry, life_call, ho.ends other]
      by_cases hother : other = ref
      · subst hother
        show _ = endsDue _ other (Ledger.apply s.life (.release other) other)
        rw [ho.life_eq hcontent, Ledger.apply_release_self, endsDue, endsDue, hhandle,
          Option.any_some]
        cases handle with
        | provider inner =>
          cases inner with
          | global => cases href
          | backed vtable ctx =>
            cases href
            rfl
        | tracer backing =>
          cases backing with
          | none => cases href
          | some backing =>
            cases href
            rfl
        | span vtable ctx ended =>
          cases href
          rw [hended rfl]
          rfl
        | spanContext isValid => cases href
      · have hsame : Ledger.apply s.life (.release ref) other = s.life other :=
          Ledger.apply_of_ne hother
        have hlife : s.life other ≠ .held (.handle h) := by
          intro hlife
          have hcontent' := (ho.holding (.handle h) other).mp hlife
          exact hother (Option.some.inj (hcontent'.symm.trans hcontent))
        show _ = endsDue (Function.update s.handles h none) other _
        rw [ImplCall.event, hsame, endsDue_update hlife]

end Handles

/-! ### One call -/

/-- The state between two calls. -/
structure Settled (s : State) : Prop where
  owned : Owned s.content s
  fresh : ∀ h, s.next ≤ h → s.handles h = none

/-- The state during a call that began in `before`: the tables are as they were. -/
structure During (before : State) (retained returned : Option Ref) (s : State) : Prop where
  owned : Owned (before.contentDuring retained returned) s
  handles : s.handles = before.handles
  slot : s.slot = before.slot
  next : s.next = before.next

theorem settled_initial : Settled State.initial := by
  refine ⟨⟨.nil, ?_, fun _ => rfl⟩, fun _ _ => rfl⟩
  intro holder ref
  cases holder with
  | _ => exact ⟨fun h => (by cases h), fun h => (by cases h)⟩

section During

variable {before s s' : State} {retained returned : Option Ref} {ref : Ref} {holder : Holder}

theorem contentDuring_retained (s : State) (retained returned ref : Option Ref) :
    Function.update (s.contentDuring retained returned) .retained ref =
      s.contentDuring ref returned := by
  funext holder
  cases holder with
  | _ => rfl

theorem contentDuring_returned (s : State) (retained returned ref : Option Ref) :
    Function.update (s.contentDuring retained returned) .returned ref =
      s.contentDuring retained ref := by
  funext holder
  cases holder with
  | _ => rfl

theorem Settled.during (h : Settled s) : During s none none s := ⟨h.owned, rfl, rfl, rfl⟩

theorem content_congr (hhandles : s'.handles = s.handles) (hslot : s'.slot = s.slot) :
    s'.content = s.content := by
  funext holder
  cases holder with
  | slot => exact congrArg (Option.map _) hslot
  | handle h => exact congrArg (fun handles => (handles h).bind Handle.ref) hhandles
  | retained => rfl
  | returned => rfl

/-- A call that leaves the tables as they were. -/
theorem During.settled (h : During before none none s) (hbefore : Settled before) : Settled s := by
  refine ⟨?_, fun x hx => ?_⟩
  · rw [content_congr h.handles h.slot]
    exact h.owned
  · rw [h.handles]
    exact hbefore.fresh x (h.next ▸ hx)

theorem During.use (h : During before retained returned s)
    (hcontent : before.contentDuring retained returned holder = some ref) :
    During before retained returned (s.use ref) :=
  ⟨h.owned.use hcontent, h.handles, h.slot, h.next⟩

theorem During.retain (h : During before none returned s) (hs : s.receive ref .retained = some s') :
    During before (some ref) returned s' := by
  obtain ⟨howned, hhandles, hslot, hnext⟩ := h.owned.receive rfl (fun x => Holder.noConfusion) hs
  rw [contentDuring_retained] at howned
  exact ⟨howned, hhandles.trans h.handles, hslot.trans h.slot, hnext.trans h.next⟩

theorem During.returns (h : During before retained none s) (hs : s.returns returned = some s') :
    During before retained returned s' := by
  cases returned with
  | none =>
    obtain rfl := Option.some.inj hs
    exact h
  | some ref =>
    obtain ⟨howned, hhandles, hslot, hnext⟩ := h.owned.receive rfl (fun x => Holder.noConfusion) hs
    rw [contentDuring_returned] at howned
    exact ⟨howned, hhandles.trans h.handles, hslot.trans h.slot, hnext.trans h.next⟩

theorem During.free (h : During before (some ref) returned s) (hkind : ref.kind ≠ .span) :
    During before none returned (s.free ref) := by
  have howned : Owned (Function.update _ .retained none) _ :=
    h.owned.free rfl (fun x => Holder.noConfusion) hkind
  rw [contentDuring_retained] at howned
  exact ⟨howned, h.handles, h.slot, h.next⟩

theorem content_setHandle (s : State) (h : Nat) (handle : Option Handle) :
    (s.setHandle h handle).content =
      Function.update s.content (.handle h) (handle.bind Handle.ref) := by
  funext holder
  cases holder with
  | handle x =>
    by_cases hx : x = h
    · subst hx
      rw [Function.update_self]
      show (Function.update s.handles x handle x).bind Handle.ref = _
      rw [Function.update_self]
    · rw [Function.update_of_ne (fun heq => hx (Holder.handle.inj heq))]
      show (Function.update s.handles h handle x).bind Handle.ref = _
      rw [Function.update_of_ne hx]
      rfl
  | _ => rfl

theorem content_alloc (s : State) (handle : Handle) : (s.alloc handle).content =
    Function.update s.content (.handle s.next) handle.ref :=
  content_setHandle s s.next (some handle)

/-- A call that makes a handle of what it holds. -/
theorem During.intoRaw {handle : Handle} (h : During before none handle.ref s)
    (hbefore : Settled before) (hended : handle.isEnded = false) :
    Settled (s.intoRaw handle).1 := by
  have hnone : before.handles s.next = none := hbefore.fresh s.next h.next.ge
  have hempty : before.contentDuring none handle.ref (.handle s.next) = none := by
    rw [State.contentDuring, hnone]
    rfl
  have hfresh : ∀ x, (s.alloc handle).next ≤ x → (s.alloc handle).handles x = none := by
    intro x hx
    have hlt : s.next < x := hx
    show Function.update s.handles s.next (some handle) x = none
    rw [Function.update_of_ne (by omega), h.handles]
    exact hbefore.fresh x (h.next ▸ hlt.le)
  have hcontent : (s.alloc handle).content =
      Function.update (before.contentDuring none none) (.handle s.next) handle.ref := by
    rw [content_alloc, content_congr h.handles h.slot]
    rfl
  rw [State.intoRaw]
  cases href : handle.ref with
  | none =>
    rw [href] at h hempty hcontent
    have hset := h.owned.setHandle hempty (some handle)
    have hsame : Function.update (before.contentDuring none none) (.handle s.next) none =
        before.contentDuring none none := by
      rw [← hempty]
      exact Function.update_eq_self _ _
    refine ⟨?_, hfresh⟩
    show Owned (s.alloc handle).content (s.alloc handle)
    rw [hcontent, hsame]
    exact ⟨hset.sound, hset.holding, hset.ends⟩
  | some ref =>
    rw [href] at h hempty hcontent
    have hkeep := h.owned.keep rfl hempty hended
    rw [contentDuring_returned] at hkeep
    refine ⟨?_, hfresh⟩
    show Owned (s.alloc handle).content ((s.alloc handle).move ref (.handle s.next))
    rw [hcontent]
    exact ⟨hkeep.sound, hkeep.holding, hkeep.ends⟩

end During

/-! ### The calls -/

section Pointers

variable {s : State} {p : Ptr}

theorem asProvider_live {inner : ProviderInner} (h : checkedRef (s.asProvider p) = .ok inner) :
    ∃ x, p = .handle x ∧ s.handles x = some (.provider inner) := by
  have hlive := live_of_checkedRef h
  cases p with
  | handle x =>
    rw [State.asProvider] at hlive
    split at hlive
    · rename_i hhandle
      cases hlive
      exact ⟨x, rfl, hhandle⟩
    · cases hlive
    · cases hlive
  | _ => cases hlive

theorem asTracer_live {backing : Option (Vtable × Nat)}
    (h : checkedRef (s.asTracer p) = .ok backing) :
    ∃ x, p = .handle x ∧ s.handles x = some (.tracer backing) := by
  have hlive := live_of_checkedRef h
  cases p with
  | handle x =>
    rw [State.asTracer] at hlive
    split at hlive
    · rename_i hhandle
      cases hlive
      exact ⟨x, rfl, hhandle⟩
    · cases hlive
    · cases hlive
  | _ => cases hlive

theorem asSpan_live {h : Nat} {vtable : Vtable} {ctx : Nat} {ended : Bool}
    (hs : checkedRef (s.asSpan p) = .ok (some (h, vtable, ctx, ended))) :
    p = .handle h ∧ s.handles h = some (.span vtable ctx ended) := by
  have hlive := live_of_checkedRef hs
  cases p with
  | handle x =>
    rw [State.asSpan] at hlive
    split at hlive
    · rename_i hhandle
      cases hlive
      exact ⟨rfl, hhandle⟩
    · cases hlive
    · cases hlive
  | _ => cases hlive

/-- A handle in the table holds its context. -/
theorem content_handle {h : Nat} {handle : Handle} (hhandle : s.handles h = some handle)
    (retained returned : Option Ref) :
    s.contentDuring retained returned (.handle h) = handle.ref := by
  rw [State.contentDuring, hhandle]
  rfl

/-- The context of a live parent is held by the handle of the parent. -/
theorem liveParent_content {vtable : Vtable} {ref : Ref}
    (h : s.liveParent vtable p = .ok (some ref)) : ∃ holder, s.content holder = some ref := by
  rw [State.liveParent] at h
  split at h
  · cases h
  · rename_i x parentVtable ctx ended hspan
    split at h
    · cases h
      obtain ⟨-, hhandle⟩ := asSpan_live hspan
      exact ⟨.handle x, content_handle hhandle none none⟩
    · cases h
  · cases h

theorem parentEx_content {vtable : Vtable} {options : SpanStartOptionsEx} {ref : Ref}
    (h : s.parentEx vtable options = .ok (some ref)) : ∃ holder, s.content holder = some ref := by
  rw [State.parentEx] at h
  split at h
  · exact liveParent_content h
  · split at h
    · split at h
      · cases h
      · split at h
        · cases h
        · cases h
    · cases h

end Pointers

section Calls

variable {s s' : State} {result : Result}

theorem checkVtable_eq_ok {nullMessage incompatibleMessage : String} {vtable : Option Vtable}
    {v : Vtable} (h : checkVtable nullMessage incompatibleMessage vtable = .ok v) :
    vtable = some v := by
  cases vtable with
  | none => cases h
  | some vtable =>
    rw [checkVtable] at h
    split at h
    · cases h
      rfl
    · cases h

theorem content_setSlot (s : State) (vtable : Vtable) (ctx : Nat) :
    { s with slot := some (vtable, ctx) }.content =
      Function.update s.content .slot (some ⟨vtable, .provider, ctx⟩) := by
  funext holder
  cases holder with
  | _ => rfl

theorem Settled.registerGlobalProvider (h : Settled s) {vtable : Option Vtable} {ctx : Nat}
    (hs : s.registerGlobalProvider vtable ctx = some (s', result)) : Settled s' := by
  rw [State.registerGlobalProvider] at hs
  split at hs
  · cases hs
    exact h
  · rename_i vtable _
    obtain ⟨s₁, hreceive, hrest⟩ := Option.bind_eq_some_iff.mp hs
    have hduring : During s none (some ⟨vtable, .provider, ctx⟩) s₁ := h.during.returns hreceive
    have hcontent : { s₁ with slot := some (vtable, ctx) }.content =
        Function.update s.content .slot (some ⟨vtable, .provider, ctx⟩) := by
      rw [content_setSlot, content_congr hduring.handles hduring.slot]
    have hfresh : ∀ x, s₁.next ≤ x → s₁.handles x = none := by
      intro x hx
      rw [hduring.handles]
      exact h.fresh x (hduring.next ▸ hx)
    have hswapped : Owned (s.contentDuring none (some ⟨vtable, .provider, ctx⟩))
        { s₁ with slot := some (vtable, ctx) } :=
      ⟨hduring.owned.sound, hduring.owned.holding, hduring.owned.ends⟩
    split at hrest
    · rename_i hslot
      cases hrest
      have hempty : s.contentDuring none (some ⟨vtable, .provider, ctx⟩) .slot = none := by
        rw [State.contentDuring, hslot]
        rfl
      have hmoved : Owned (Function.update (Function.update _ .returned none) .slot _) _ :=
        hswapped.move rfl hempty (fun _ => Holder.noConfusion) (fun _ => Holder.noConfusion)
      rw [contentDuring_returned] at hmoved
      refine ⟨?_, hfresh⟩
      show Owned (State.content { s₁ with slot := some (vtable, ctx) }) _
      rw [hcontent]
      exact hmoved
    · rename_i oldVtable old hslot
      cases hrest
      -- the old provider is taken out, the new one put in, and the old one freed
      have hold : s.contentDuring none (some ⟨vtable, .provider, ctx⟩) .slot =
          some ⟨oldVtable, .provider, old⟩ := by
        rw [State.contentDuring, hslot]
        rfl
      have htaken : Owned (Function.update (Function.update _ .slot none) .retained _) _ :=
        hswapped.move hold rfl (fun _ => Holder.noConfusion) (fun _ => Holder.noConfusion)
      have hput : Owned (Function.update (Function.update _ .returned none) .slot _) _ :=
        htaken.move rfl rfl (fun _ => Holder.noConfusion) (fun _ => Holder.noConfusion)
      have hfreed : Owned (Function.update _ .retained none) _ :=
        hput.free rfl (fun _ => Holder.noConfusion) Kind.noConfusion
      refine ⟨?_, hfresh⟩
      show Owned (State.content { s₁ with slot := some (vtable, ctx) }) _
      have hsame : Function.update s.content .slot (some ⟨vtable, .provider, ctx⟩) =
          Function.update (Function.update (Function.update (Function.update (Function.update
            (s.contentDuring none (some ⟨vtable, .provider, ctx⟩)) .slot none) .retained
              (some ⟨oldVtable, .provider, old⟩)) .returned none) .slot
                (some ⟨vtable, .provider, ctx⟩)) .retained none := by
        funext holder
        cases holder with
        | _ => rfl
      rw [hcontent, hsame]
      exact hfreed

theorem Settled.providerNew (h : Settled s) {vtable : Option Vtable} {ctx : Nat}
    (hs : s.providerNew vtable ctx = some (s', result)) : Settled s' := by
  rw [State.providerNew] at hs
  split at hs
  · cases hs
    exact h
  · rename_i vtable _
    obtain ⟨s₁, hreceive, hrest⟩ := Option.bind_eq_some_iff.mp hs
    have hduring : During s none (some ⟨vtable, .provider, ctx⟩) s₁ := h.during.returns hreceive
    have hs' := congrArg Prod.fst (Option.some.inj hrest)
    subst hs'
    exact During.intoRaw hduring h rfl

/-- The provider that `retain_global` left with the call. -/
def GlobalRetain.ref : GlobalRetain → Option Ref
  | .retained vtable ctx => some ⟨vtable, .provider, ctx⟩
  | _ => none

theorem Settled.retainGlobal (h : Settled s) {retained : Option Nat} {r : GlobalRetain}
    (hs : s.retainGlobal retained = some (s', r)) : During s r.ref none s' := by
  rw [State.retainGlobal] at hs
  split at hs
  · cases hs
    exact h.during
  · rename_i vtable ctx hslot
    have hcontent : s.contentDuring none none .slot = some ⟨vtable, .provider, ctx⟩ := by
      rw [State.contentDuring, hslot]
      rfl
    have hused := h.during.use hcontent
    split at hs
    · cases hs
      exact hused
    · obtain ⟨s₁, hreceive, hrest⟩ := Option.bind_eq_some_iff.mp hs
      cases hrest
      exact hused.retain hreceive

/-- A tracer from a provider that a handle holds, or the call. -/
theorem Settled.getTracerFrom {before : State} (hbefore : Settled before) {vtable : Vtable}
    {ctx : Nat} (owned : Bool) {made : Option Nat} {holder : Holder}
    (h : During before (if owned then some ⟨vtable, .provider, ctx⟩ else none) none s)
    (hcontent : before.contentDuring (if owned then some ⟨vtable, .provider, ctx⟩ else none) none
      holder = some ⟨vtable, .provider, ctx⟩)
    (hs : s.getTracerFrom vtable ctx owned made = some (s', result)) : Settled s' := by
  obtain ⟨s₁, hreturns, hrest⟩ := Option.bind_eq_some_iff.mp hs
  have hgiven := (h.use hcontent).returns hreturns
  have hfreed : During before none (made.map (⟨vtable, .tracer, ·⟩))
      (if owned then s₁.free ⟨vtable, .provider, ctx⟩ else s₁) := by
    cases owned with
    | true => exact hgiven.free Kind.noConfusion
    | false => exact hgiven
  cases made with
  | none =>
    cases hrest
    exact hfreed.settled hbefore
  | some tracer =>
    have hs' := congrArg Prod.fst (Option.some.inj hrest)
    subst hs'
    exact During.intoRaw hfreed hbefore rfl

theorem Settled.getTracer (h : Settled s) {provider : Ptr} {retained made : Option Nat}
    (hs : s.getTracer provider retained made = some (s', result)) : Settled s' := by
  rw [State.getTracer] at hs
  split at hs
  · cases hs
    exact h
  · obtain ⟨⟨s₁, r⟩, hretain, hrest⟩ := Option.bind_eq_some_iff.mp hs
    have hduring := h.retainGlobal hretain
    cases r with
    | noProvider =>
      have hs' := congrArg Prod.fst (Option.some.inj hrest)
      subst hs'
      exact During.intoRaw hduring h rfl
    | retainFailed =>
      cases hrest
      exact hduring.settled h
    | retained vtable ctx =>
      have hheld : s.contentDuring (some ⟨vtable, .provider, ctx⟩) none .retained =
          some ⟨vtable, .provider, ctx⟩ := rfl
      exact h.getTracerFrom true hduring hheld hrest
  · rename_i vtable ctx hprovider
    obtain ⟨x, -, hhandle⟩ := asProvider_live hprovider
    exact h.getTracerFrom false h.during (content_handle hhandle none none) hs

/-- A span from a tracer that a handle holds, below a parent that some handle holds. -/
theorem Settled.startSpanFrom (h : Settled s) {vtable : Vtable} {tracer x : Nat}
    {parent : Option Ref} {made : Option Nat}
    (hhandle : s.handles x = some (.tracer (some (vtable, tracer))))
    (hparent : ∀ ref, parent = some ref → ∃ holder, s.content holder = some ref)
    (hs : s.startSpanFrom vtable tracer parent made = some (s', result)) : Settled s' := by
  obtain ⟨s₁, hreturns, hrest⟩ := Option.bind_eq_some_iff.mp hs
  have hused := h.during.use (content_handle hhandle none none)
  have hboth : During s none none (parent.elim (s.use ⟨vtable, .tracer, tracer⟩)
      (s.use ⟨vtable, .tracer, tracer⟩).use) := by
    cases parent with
    | none => exact hused
    | some ref =>
      obtain ⟨holder, hholder⟩ := hparent ref rfl
      exact hused.use hholder
  have hgiven := hboth.returns hreturns
  cases made with
  | none =>
    cases hrest
    exact hgiven.settled h
  | some span =>
    have hs' := congrArg Prod.fst (Option.some.inj hrest)
    subst hs'
    exact During.intoRaw hgiven h rfl

theorem Settled.startSpan (h : Settled s) {tracer : Ptr} {options : Option Ptr} {made : Option Nat}
    (hs : s.startSpan tracer options made = some (s', result)) : Settled s' := by
  rw [State.startSpan] at hs
  split at hs
  · cases hs
    exact h
  · cases hs
    exact h
  · rename_i vtable ctx htracer
    obtain ⟨x, -, hhandle⟩ := asTracer_live htracer
    split at hs
    · exact h.startSpanFrom hhandle (fun ref href => by cases href) hs
    · split at hs
      · cases hs
        exact h
      · rename_i parent hparent
        refine h.startSpanFrom hhandle (fun ref href => ?_) hs
        subst href
        exact liveParent_content hparent

theorem Settled.startSpanWithContext (h : Settled s) {tracer parent : Ptr} {options : Option Ptr}
    {made : Option Nat}
    (hs : s.startSpanWithContext tracer options parent made = some (s', result)) : Settled s' := by
  rw [State.startSpanWithContext] at hs
  split at hs
  · cases hs
    exact h
  · cases hs
    exact h
  · rename_i backing isValid htracer _
    split at hs
    · cases hs
      exact h
    · split at hs
      · cases hs
        exact h
      · split at hs
        · cases hs
          exact h
        · obtain ⟨x, -, hhandle⟩ := asTracer_live htracer
          split at hs
          · exact h.startSpanFrom hhandle (fun ref href => by cases href) hs
          · cases hs
            exact h

theorem Settled.startSpanEx (h : Settled s) {tracer : Ptr} {options : Option SpanStartOptionsEx}
    {made : Option Nat} (hs : s.startSpanEx tracer options made = some (s', result)) :
    Settled s' := by
  unfold State.startSpanEx at hs
  split at hs
  · cases hs
    exact h
  · cases hs
    exact h
  · rename_i backing options htracer
    split at hs
    · cases hs
      exact h
    · cases hs
      exact h
    · rename_i options vtable ctx _
      obtain ⟨x, -, hhandle⟩ := asTracer_live htracer
      split at hs
      · cases hs
        exact h
      · split at hs
        · cases hs
          exact h
        · cases hs
          exact h
        · rename_i parent hparent _
          split at hs
          · cases hs
            exact h
          · refine h.startSpanFrom hhandle (fun ref href => ?_) hs
            subst href
            exact parentEx_content hparent

/-! ### Ending and destroying -/

/-- Only handles that were given out are in the table. -/
theorem Settled.fresh_setHandle (h : Settled s) {x : Nat} {old : Handle}
    (hold : s.handles x = some old) (handle : Option Handle) :
    ∀ y, s.next ≤ y → (s.setHandle x handle).handles y = none := by
  intro y hy
  have hne : y ≠ x := by
    rintro rfl
    cases (h.fresh y hy).symm.trans hold
  show Function.update s.handles x handle y = none
  rw [Function.update_of_ne hne]
  exact h.fresh y hy

theorem Settled.endSpan (h : Settled s) {x : Nat} {vtable : Vtable} {ctx : Nat} {ended : Bool}
    (hhandle : s.handles x = some (.span vtable ctx ended)) :
    Settled (s.endSpan x vtable ctx ended) ∧
      (s.endSpan x vtable ctx ended).handles x = some (.span vtable ctx true) := by
  cases ended with
  | true => exact ⟨h, hhandle⟩
  | false =>
    have hcontent := content_handle hhandle none none
    have hended := h.owned.spanEnd (.span vtable ctx true) hcontent hhandle rfl rfl
    refine ⟨⟨?_, h.fresh_setHandle hhandle _⟩, Function.update_self _ _ _⟩
    show Owned (s.setHandle x (some (.span vtable ctx true))).content _
    have hsame : Function.update s.content (.handle x) (some ⟨vtable, .span, ctx⟩) = s.content := by
      rw [← show s.content (.handle x) = some ⟨vtable, .span, ctx⟩ from hcontent]
      exact Function.update_eq_self _ _
    rw [content_setHandle]
    show Owned (Function.update s.content (.handle x) (some ⟨vtable, .span, ctx⟩)) _
    rw [hsame]
    exact hended

theorem Settled.destroyHandle (h : Settled s) {x : Nat} {handle : Handle}
    (hhandle : s.handles x = some handle) (hended : handle.isSpan → handle.isEnded) :
    Settled (s.destroyHandle x handle) := by
  have hdestroyed := h.owned.destroyHandle (content_handle hhandle none none) hhandle hended
  have hcontent : (s.destroyHandle x handle).content = (s.setHandle x none).content := by
    rw [State.destroyHandle]
    cases handle.ref with
    | _ => rfl
  have hnext : (s.destroyHandle x handle).next = s.next ∧
      (s.destroyHandle x handle).handles = (s.setHandle x none).handles := by
    rw [State.destroyHandle]
    cases handle.ref with
    | _ => exact ⟨rfl, rfl⟩
  refine ⟨?_, ?_⟩
  · rw [hcontent, content_setHandle]
    exact hdestroyed
  · rw [hnext.1, hnext.2]
    exact h.fresh_setHandle hhandle none

theorem destroyed_eq_some {isKind : Handle → Bool} {p : Ptr} {x : Nat} {handle : Handle}
    (h : s.destroyed isKind p = some (x, handle)) :
    s.handles x = some handle ∧ isKind handle := by
  cases p with
  | handle y =>
    obtain ⟨found, hfound, hpair⟩ := Option.map_eq_some_iff.mp h
    cases hpair
    exact Option.filter_eq_some_iff.mp hfound
  | _ => cases h

/-- A handle of another kind than a span. -/
theorem Settled.destroy (h : Settled s) {isKind : Handle → Bool}
    (hkind : ∀ handle, isKind handle → handle.isSpan = false) (p : Ptr) :
    Settled (s.destroy isKind p) := by
  rw [State.destroy]
  split
  · exact h
  · rename_i x handle hdestroyed
    obtain ⟨hhandle, his⟩ := destroyed_eq_some hdestroyed
    refine h.destroyHandle hhandle fun hspan => ?_
    rw [hkind handle his] at hspan
    cases hspan

theorem Settled.spanDestroy (h : Settled s) (p : Ptr) : Settled (s.spanDestroy p) := by
  rw [State.spanDestroy]
  split
  · rename_i x vtable ctx ended hdestroyed
    obtain ⟨hsettled, hhandle⟩ := h.endSpan (destroyed_eq_some hdestroyed).1
    exact hsettled.destroyHandle hhandle fun _ => rfl
  · exact h

theorem Settled.spanEnd (h : Settled s) (p : Ptr) : Settled (s.spanEnd p).1 := by
  rw [State.spanEnd]
  split
  · exact h
  · exact h
  · rename_i x vtable ctx ended hspan
    exact (h.endSpan (asSpan_live hspan).2).1

theorem Settled.dispatchSpan (h : Settled s) (p : Ptr) (answer : Except Fail Unit) :
    Settled (s.dispatchSpan p answer).1 := by
  rw [State.dispatchSpan]
  split
  · exact h
  · exact h
  · rename_i x vtable ctx ended hspan
    have hcontent := content_handle (asSpan_live hspan).2 none none
    exact (h.during.use hcontent).settled h

/-! ### Every sequence of calls -/

theorem Settled.step (h : Settled s) {action : Action} (hs : step s action = some (s', result)) :
    Settled s' := by
  cases action with
  | registerGlobalProvider vtable ctx => exact h.registerGlobalProvider hs
  | providerNew vtable ctx => exact h.providerNew hs
  | globalTracerProvider =>
    have hs' := congrArg Prod.fst (Option.some.inj hs)
    subst hs'
    exact During.intoRaw h.during h rfl
  | spanContextCreate isValid =>
    have hs' := congrArg Prod.fst (Option.some.inj hs)
    subst hs'
    exact During.intoRaw h.during h rfl
  | getTracer provider retained made => exact h.getTracer hs
  | startSpan tracer options made => exact h.startSpan hs
  | startSpanWithContext tracer options parent made => exact h.startSpanWithContext hs
  | startSpanEx tracer options made => exact h.startSpanEx hs
  | dispatchSpan span answer =>
    have hs' := congrArg Prod.fst (Option.some.inj hs)
    subst hs'
    exact h.dispatchSpan span answer
  | spanEnd span =>
    have hs' := congrArg Prod.fst (Option.some.inj hs)
    subst hs'
    exact h.spanEnd span
  | spanDestroy span =>
    cases hs
    exact h.spanDestroy span
  | tracerDestroy tracer =>
    cases hs
    refine h.destroy (fun handle hkind => ?_) tracer
    cases handle with
    | tracer backing => rfl
    | _ => cases hkind
  | tracerProviderDestroy provider =>
    cases hs
    refine h.destroy (fun handle hkind => ?_) provider
    cases handle with
    | provider inner => rfl
    | _ => cases hkind
  | spanContextDestroy context =>
    cases hs
    refine h.destroy (fun handle hkind => ?_) context
    cases handle with
    | spanContext isValid => rfl
    | _ => cases hkind

theorem settled_run {actions : List Action} (hrun : run .initial actions = some s) : Settled s := by
  refine Run.tryRun_invariant (fun s action s' hs hstep => ?_) settled_initial hrun
  obtain ⟨⟨s₁, result⟩, hcall, rfl⟩ := Option.map_eq_some_iff.mp hstep
  exact hs.step hcall

end Calls

end OtelC.Trace.Handles
