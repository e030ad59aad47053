import OtelC.Lib.Run
import OtelC.Sdk.Custody

/-!
# Handing over is atomic

A call that takes a handle over either succeeds, and then what the handle owned has moved to the
builder or handle it was meant for, or fails and has changed nothing, with one exception: the build
of a periodic reader whose asynchronous runtime cannot be constructed drops the exporter that it has
already taken out of the builder.

* `atomic_entry`: every other entry point checks before it takes.
* `hand_over_iff`: a run hands over atomically as long as no such build meets that failure.
-/

namespace OtelC.Sdk.Pipeline

open Commit

/-! ### What a call hands over and drops -/

/-- What a successful call hands over: the content of `source`, to the builder `target`, or to the
handle that the call makes. -/
structure Transfer where
  source : Ptr
  consumed : Bool
  target : Option Ptr

def Transfer.receiver (t : Transfer) (made : Option Nat) : Ptr := t.target.getD made

def Call.transfer : Call → Option Transfer
  | .batchSpanProcessorBuilderSetExporter builder exporter => some ⟨exporter, true, some builder⟩
  | .batchSpanProcessorBuilderBuild builder _ => some ⟨builder, false, none⟩
  | .simpleSpanProcessorCreate exporter _ => some ⟨exporter, true, none⟩
  | .batchLogProcessorBuilderSetExporter builder exporter => some ⟨exporter, true, some builder⟩
  | .batchLogProcessorBuilderBuild builder _ => some ⟨builder, false, none⟩
  | .simpleLogProcessorCreate exporter _ => some ⟨exporter, true, none⟩
  | .periodicMetricReaderBuilderSetExporter builder exporter => some ⟨exporter, true, some builder⟩
  | .periodicMetricReaderBuilderBuild builder _ _ => some ⟨builder, false, none⟩
  | .manualMetricReaderNew exporter _ => some ⟨exporter, true, none⟩
  | .sdkBuilderAddMetricView builder view _ => some ⟨view, true, some builder⟩
  | .sdkBuilderAddMetricReader builder reader _ => some ⟨reader, true, some builder⟩
  | .sdkBuilderAddManualMetricReader builder reader _ => some ⟨reader, true, some builder⟩
  | .sdkBuilderAddSpanProcessor builder processor _ => some ⟨processor, true, some builder⟩
  | .sdkBuilderAddLogProcessor builder processor _ => some ⟨processor, true, some builder⟩
  | .sdkBuild builder _ => some ⟨builder, false, none⟩
  | _ => none

/-- The calls that are meant to drop something: what they destroy, or the exporter they replace. -/
def Call.drops : Call → Bool
  | .destroy _ _ _ => true
  | .batchSpanProcessorBuilderSetExporter _ _ => true
  | .batchLogProcessorBuilderSetExporter _ _ => true
  | _ => false

/-- One call hands over as it should. -/
structure HandedOver (features : Features) (s : State) (call : Call) (s' : State) : Prop where
  failed : ∀ e, call.result features s = .error e → s' = s
  moved : ∀ made t, call.result features s = .ok made → call.transfer = some t →
    ∃ i j, t.source = some i ∧ t.receiver made = some j ∧ Moved t.consumed s s' i j
  kept : call.drops = false → s'.dropped = s.dropped
  oneOwner : s'.Balanced
  dead : StaysDead s s'

/-- The build of a periodic reader gets as far as constructing an asynchronous runtime, and fails
there. -/
def RuntimeFails (features : Features) (s : State) : Call → Prop
  | .periodicMetricReaderBuilderBuild builder outIsNull runtime =>
    outIsNull = false ∧ (∃ error, runtime = .error error) ∧
      ∃ b id, s.arg .periodicMetricReaderBuilder builder = .live b ∧
        b.runtime = readerRuntimeAsync ∧ features.metricsAsyncRuntime = true ∧
          b.exporter = some (.custom id)
  | _ => False

/-! ### Handle plumbing -/

section

variable {s s' : State} {kind : Kind} {content : kind.Content} {p : Ptr}

theorem checkedMut_ok : exec (checkedMut kind p) s = (.ok content, s') ↔
    s.arg kind p = .live content ∧ s' = s := by
  show (checkedRef (s.arg kind p), s) = _ ↔ _
  rw [Prod.mk.injEq, eq_comm (a := s)]
  refine and_congr_left fun _ => ⟨live_of_checkedRef, fun h => ?_⟩
  rw [h]
  rfl

theorem take_ok : exec (take kind p) s = (.ok content, s') ↔
    s.arg kind p = .live content ∧ s' = s.setHandle p none := by
  simp only [take, bind_eq_ok, checkedMut_ok, exec_update, exec_pure, Prod.mk.injEq,
    Except.ok.injEq]
  constructor
  · rintro ⟨x, s₁, ⟨hx, rfl⟩, u, s₂, ⟨-, rfl⟩, rfl, rfl⟩
    exact ⟨hx, rfl⟩
  · rintro ⟨hx, rfl⟩
    exact ⟨content, s, ⟨hx, rfl⟩, (), _, ⟨trivial, rfl⟩, rfl, rfl⟩

theorem readOnly_checkedMut : ReadOnly (checkedMut kind p) := fun _ => rfl

theorem readOnly_checkOut (outIsNull : Bool) (name : String) : ReadOnly (checkOut outIsNull name) :=
  readOnly_ofExcept _

theorem neverFails_store : NeverFails (store kind p content) := neverFails_update _

theorem neverFails_drop (items : List Item) : NeverFails (drop items) := neverFails_update _

theorem neverFails_intoRaw : NeverFails (intoRaw kind content) := fun _ => ⟨_, _, rfl⟩

theorem neverFails_mint : NeverFails mint := fun _ => ⟨_, _, rfl⟩

theorem atomic_take : Atomic (take kind p) :=
  readOnly_checkedMut.bind fun _ =>
    ((neverFails_update _).bind fun _ => neverFails_pure _).atomic

theorem atomic_withConfig (f : kind.Content → Except Fail kind.Content) :
    Atomic (withConfig kind p f) :=
  readOnly_checkedMut.bind fun _ => (readOnly_ofExcept _).bind fun _ => neverFails_store.atomic

theorem atomic_make (built : Except Fail (Item → kind.Content)) : Atomic (make kind built) :=
  (readOnly_ofExcept _).bind fun _ =>
    (neverFails_mint.bind fun _ => neverFails_intoRaw).atomic

theorem atomic_destroy : Atomic (destroy kind p) := by
  refine readOnly_state.bind fun s => ?_
  split
  · exact ((neverFails_update _).bind fun _ => neverFails_drop _).atomic
  · exact (readOnly_pure _).atomic

theorem atomic_status {entry : Entry Unit} (h : Atomic entry) : Atomic (status entry) :=
  h.bind fun _ => neverFails_pure _

theorem atomic_made {entry : Entry Nat} (h : Atomic entry) : Atomic (made entry) :=
  h.bind fun _ => neverFails_pure _

/-! ### A failed call changes nothing -/

theorem atomic_handleDestroy (kind : Kind) (p : Ptr) (current : Bool) :
    Atomic (handleDestroy kind p current) := by
  unfold handleDestroy
  split
  · refine readOnly_state.bind fun s => ?_
    split
    · exact (readOnly_ofExcept _).atomic
    · exact atomic_take.bind fun _ => neverFails_drop _
  · exact atomic_take.bind fun _ => neverFails_drop _
  · refine readOnly_state.bind fun s => ?_
    split
    · split
      · exact (readOnly_ofExcept _).atomic
      · exact atomic_destroy
    · exact atomic_destroy
  · exact atomic_destroy

/-- Whatever is taken last, after every check, and then only stored. -/
theorem atomic_take_store {kind' : Kind} (f : kind.Content → kind'.Content) (p' : Ptr) :
    Atomic (do let owned ← take kind p; store kind' p' (f owned)) :=
  atomic_take.bind fun _ => neverFails_store

theorem atomic_sdkBuilderAdd (kind : Kind) (count : SdkBuilder → Nat) (limit : Nat) (what : String)
    (push : SdkBuilder → kind.Content → SdkBuilder) (builder p : Ptr) (reserved : Bool) :
    Atomic (sdkBuilderAdd kind count limit what push builder p reserved) :=
  readOnly_checkedMut.bind fun _ => (readOnly_ofExcept _).bind fun _ =>
    (readOnly_ofExcept _).bind fun _ => atomic_take_store _ _

theorem atomic_wrap (kind kind' : Kind) (p : Ptr) (outIsNull : Bool)
    (f : kind.Content → kind'.Content) :
    Atomic (do
      checkOut outIsNull "out"
      let owned ← take kind p
      intoRaw kind' (f owned)) :=
  (readOnly_checkOut _ _).bind fun _ => atomic_take.bind fun _ => neverFails_intoRaw

theorem atomic_make_from (kind kind' : Kind) (p : Ptr) (outIsNull : Bool)
    (built : Except Fail (Item → kind'.Content)) :
    Atomic (do
      checkOut outIsNull "out"
      let _ ← checkedMut kind p
      make kind' built) :=
  (readOnly_checkOut _ _).bind fun _ => readOnly_checkedMut.bind fun _ => atomic_make _

theorem atomic_batchSpanProcessorBuilderBuild (builder : Ptr) (outIsNull : Bool) :
    Atomic (batchSpanProcessorBuilderBuild builder outIsNull) := by
  refine (readOnly_checkOut _ _).bind fun _ => readOnly_checkedMut.bind fun b => ?_
  split
  · exact (readOnly_ofExcept _).atomic
  · exact (neverFails_store.bind fun _ => neverFails_intoRaw).atomic

theorem atomic_batchLogProcessorBuilderBuild (builder : Ptr) (outIsNull : Bool) :
    Atomic (batchLogProcessorBuilderBuild builder outIsNull) := by
  refine (readOnly_checkOut _ _).bind fun _ => readOnly_checkedMut.bind fun b =>
    (readOnly_ofExcept _).bind fun _ => ?_
  split
  · exact (readOnly_ofExcept _).atomic
  · exact (neverFails_store.bind fun _ => neverFails_intoRaw).atomic

/-- **Every entry point but one checks before it takes.** -/
theorem atomic_entry (features : Features) {call : Call}
    (h : ∀ builder outIsNull runtime,
      call ≠ .periodicMetricReaderBuilderBuild builder outIsNull runtime) :
    Atomic (call.entry features) := by
  cases call with
  | builderNew builder => exact atomic_made neverFails_intoRaw.atomic
  | set kind p result => exact atomic_status (atomic_withConfig _)
  | destroy kind p current => exact atomic_status (atomic_handleDestroy _ _ _)
  | customTraceExporterNew out checked =>
    exact atomic_made ((readOnly_checkOut _ _).bind fun _ => atomic_make _)
  | customLogExporterNew out checked =>
    exact atomic_made ((readOnly_checkOut _ _).bind fun _ => atomic_make _)
  | customMetricExporterNew out checked =>
    exact atomic_made ((readOnly_checkOut _ _).bind fun _ => atomic_make _)
  | otlpTraceExporterBuilderBuild b out built =>
    exact atomic_made (atomic_make_from .otlpTraceExporterBuilder .traceExporter _ _ _)
  | otlpLogExporterBuilderBuild b out built =>
    exact atomic_made (atomic_make_from .otlpLogExporterBuilder .logExporter _ _ _)
  | otlpMetricExporterBuilderBuild b out built =>
    exact atomic_made (atomic_make_from .otlpMetricExporterBuilder .metricExporter _ _ _)
  | metricViewBuilderBuild b out checked =>
    exact atomic_made (atomic_make_from .metricViewBuilder .metricView _ _ _)
  | batchSpanProcessorBuilderSetExporter b e =>
    exact atomic_status (readOnly_checkedMut.bind fun _ => atomic_take.bind fun _ =>
      neverFails_store.bind fun _ => neverFails_drop _)
  | batchSpanProcessorBuilderSet b setting => exact atomic_status (atomic_withConfig _)
  | batchSpanProcessorBuilderBuild b out =>
    exact atomic_made (atomic_batchSpanProcessorBuilderBuild _ _)
  | simpleSpanProcessorCreate e out =>
    exact atomic_made (atomic_wrap .traceExporter .spanProcessor _ _ .simple)
  | batchLogProcessorBuilderSetExporter b e =>
    exact atomic_status (readOnly_checkedMut.bind fun _ => atomic_take.bind fun _ =>
      neverFails_store.bind fun _ => neverFails_drop _)
  | batchLogProcessorBuilderSet b setting => exact atomic_status (atomic_withConfig _)
  | batchLogProcessorBuilderBuild b out =>
    exact atomic_made (atomic_batchLogProcessorBuilderBuild _ _)
  | simpleLogProcessorCreate e out =>
    exact atomic_made (atomic_wrap .logExporter .logProcessor _ _ .simple)
  | periodicMetricReaderBuilderSetRuntime b runtime => exact atomic_status (atomic_withConfig _)
  | periodicMetricReaderBuilderSetIntervalMillis b millis =>
    exact atomic_status (atomic_withConfig _)
  | periodicMetricReaderBuilderSetTimeoutMillis b millis =>
    exact atomic_status (atomic_withConfig _)
  | periodicMetricReaderBuilderSetExporter b e =>
    exact atomic_status (readOnly_checkedMut.bind fun _ => (readOnly_ofExcept _).bind fun _ =>
      atomic_take_store _ _)
  | periodicMetricReaderBuilderBuild b out runtime => exact absurd rfl (h b out runtime)
  | manualMetricReaderNew e out =>
    exact atomic_made (atomic_wrap .metricExporter .manualMetricReader _ _ .mk)
  | sdkBuilderAddMetricView b p reserved => exact atomic_status (atomic_sdkBuilderAdd _ _ _ _ _ _ _ _)
  | sdkBuilderAddMetricReader b p reserved =>
    exact atomic_status (atomic_sdkBuilderAdd _ _ _ _ _ _ _ _)
  | sdkBuilderAddManualMetricReader b p reserved =>
    exact atomic_status (atomic_sdkBuilderAdd _ _ _ _ _ _ _ _)
  | sdkBuilderAddSpanProcessor b p reserved =>
    exact atomic_status (atomic_sdkBuilderAdd _ _ _ _ _ _ _ _)
  | sdkBuilderAddLogProcessor b p reserved =>
    exact atomic_status (atomic_sdkBuilderAdd _ _ _ _ _ _ _ _)
  | sdkBuild b out =>
    exact atomic_made ((readOnly_checkOut _ _).bind fun _ => readOnly_checkedMut.bind fun _ =>
      (neverFails_store.bind fun _ => neverFails_intoRaw).atomic)

/-! ### What a successful step has done -/

theorem ofExcept_ok {α : Type} {r : Except Fail α} {a : α} :
    exec (ofExcept r) s = (.ok a, s') ↔ r = .ok a ∧ s' = s := by
  rw [exec_ofExcept, Prod.mk.injEq, eq_comm (a := s)]

theorem checkOut_ok {outIsNull : Bool} {name : String} {u : Unit} :
    exec (checkOut outIsNull name) s = (.ok u, s') ↔ outIsNull = false ∧ s' = s := by
  rw [checkOut, ofExcept_ok]
  cases outIsNull <;> simp [fail]

theorem store_ok {u : Unit} : exec (store kind p content) s = (.ok u, s') ↔
    s' = s.setHandle p (some ⟨kind, content⟩) := by
  rw [store, exec_update, Prod.mk.injEq, eq_comm (b := s')]
  exact and_iff_right rfl

theorem drop_ok {items : List Item} {u : Unit} :
    exec (drop items) s = (.ok u, s') ↔ s' = s.drop items := by
  rw [drop, exec_update, Prod.mk.injEq, eq_comm (b := s')]
  exact and_iff_right rfl

theorem intoRaw_ok {h : Nat} : exec (intoRaw kind content) s = (.ok h, s') ↔
    h = s.handles.length ∧ s' = s.alloc ⟨kind, content⟩ := by
  show (Except.ok s.handles.length, s.alloc ⟨kind, content⟩) = _ ↔ _
  rw [Prod.mk.injEq, Except.ok.injEq, eq_comm (a := s.handles.length), eq_comm (b := s')]

theorem mint_ok {id : Item} : exec mint s = (.ok id, s') ↔ id = s.minted ∧ s' = s.mint := by
  show (Except.ok s.minted, s.mint) = _ ↔ _
  rw [Prod.mk.injEq, Except.ok.injEq, eq_comm (a := s.minted), eq_comm (b := s')]

theorem status_ok {entry : Entry Unit} {r : Option Nat} :
    exec (status entry) s = (.ok r, s') ↔ r = none ∧ exec entry s = (.ok (), s') := by
  rw [status, bind_eq_ok]
  constructor
  · rintro ⟨u, s₁, hentry, hpure⟩
    cases hpure
    exact ⟨rfl, hentry⟩
  · rintro ⟨rfl, hentry⟩
    exact ⟨(), s', hentry, rfl⟩

theorem made_ok {entry : Entry Nat} {r : Option Nat} :
    exec (made entry) s = (.ok r, s') ↔ ∃ h, r = some h ∧ exec entry s = (.ok h, s') := by
  rw [made, bind_eq_ok]
  constructor
  · rintro ⟨h, s₁, hentry, hpure⟩
    cases hpure
    exact ⟨h, rfl, hentry⟩
  · rintro ⟨h, rfl, hentry⟩
    exact ⟨h, s', hentry, rfl⟩

/-- What a successful call has done. -/
structure Succeeded (call : Call) (s : State) (made : Option Nat) (s' : State) : Prop where
  moved : ∀ t, call.transfer = some t →
    ∃ i j, t.source = some i ∧ t.receiver made = some j ∧ Moved t.consumed s s' i j
  kept : call.drops = false → s'.dropped = s.dropped
  oneOwner : s'.Balanced
  dead : StaysDead s s'

variable {call : Call} {made : Option Nat}

/-- A call that transfers nothing. -/
theorem Succeeded.of_accounted (h : Accounted s s') (hs : s.Balanced) (hcall : call.transfer = none)
    (hkept : call.drops = false → s'.dropped = s.dropped) : Succeeded call s made s' :=
  ⟨fun _ ht => absurd (hcall.symm.trans ht) nofun, hkept, h.balanced hs, h.dead⟩

/-- A transfer. -/
theorem Succeeded.of_moved {t : Transfer} {i j : Nat} (h : Accounted s s') (hs : s.Balanced)
    (hcall : call.transfer = some t) (hkept : call.drops = false → s'.dropped = s.dropped)
    (hi : t.source = some i) (hj : t.receiver made = some j) (hmoved : Moved t.consumed s s' i j) :
    Succeeded call s made s' := by
  refine ⟨fun t' ht => ?_, hkept, h.balanced hs, h.dead⟩
  obtain rfl := Option.some.inj (hcall.symm.trans ht)
  exact ⟨i, j, hi, hj, hmoved⟩

theorem ne_of_kind {kind' : Kind} {content' : kind'.Content} {i j : Nat}
    (hi : s.handles[i]? = some (some ⟨kind, content⟩))
    (hj : s.handles[j]? = some (some ⟨kind', content'⟩)) (hne : kind ≠ kind') : i ≠ j := by
  rintro rfl
  have heq := Option.some.inj (Option.some.inj (hi.symm.trans hj))
  exact hne (congrArg Sigma.fst heq)

theorem drop_nil (s : State) : s.drop [] = s := by
  show { s with dropped := s.dropped ++ [] } = s
  rw [List.append_nil]

/-- A transfer into a builder, which may replace what the builder had. -/
theorem Succeeded.into {kind' : Kind} {content' content'' : kind'.Content} {replaced : List Item}
    {p p' : Ptr} (hs : s.Balanced) (hcall : call.transfer = some ⟨p, true, some p'⟩)
    (hkept : call.drops = false → replaced = []) (hsource : s.arg kind p = .live content)
    (htarget : s.arg kind' p' = .live content') (hne : kind ≠ kind')
    (hall : (kind.items content : Multiset Item) ≤ kind'.items content'')
    (hitems : (kind'.items content'' + replaced : Multiset Item) =
      kind'.items content' + kind.items content) :
    Succeeded call s made
      (((s.setHandle p none).setHandle p' (some ⟨kind', content''⟩)).drop replaced) := by
  obtain ⟨i, rfl, hi⟩ := arg_eq_live.mp hsource
  obtain ⟨j, rfl, hj⟩ := arg_eq_live.mp htarget
  have hij := ne_of_kind hi hj hne
  refine .of_moved (.into hi hj hij hitems) hs hcall (fun h => ?_) rfl rfl
    (.into hi hj hij hall hitems)
  rw [hkept h]
  exact List.append_nil _

/-- A handle turned into a new one. -/
theorem Succeeded.wrapped {kind' : Kind} {content' : kind'.Content} {p : Ptr} (hs : s.Balanced)
    (hcall : call.transfer = some ⟨p, true, none⟩) (hsource : s.arg kind p = .live content)
    (hitems : kind'.items content' = kind.items content) :
    Succeeded call s (some s.handles.length)
      ((s.setHandle p none).alloc ⟨kind', content'⟩) := by
  obtain ⟨i, rfl, hi⟩ := arg_eq_live.mp hsource
  exact .of_moved (.wrapped hi hitems) hs hcall (fun _ => rfl) rfl rfl (.wrapped hi hitems)

/-- A builder's content turned into a new handle. -/
theorem Succeeded.built {kind' : Kind} {content' : kind'.Content} {rest : kind.Content} {p : Ptr}
    (hs : s.Balanced) (hcall : call.transfer = some ⟨p, false, none⟩)
    (hsource : s.arg kind p = .live content) (hrest : kind.items rest = [])
    (hitems : kind'.items content' = kind.items content) :
    Succeeded call s (some s.handles.length)
      ((s.setHandle p (some ⟨kind, rest⟩)).alloc ⟨kind', content'⟩) := by
  obtain ⟨i, rfl, hi⟩ := arg_eq_live.mp hsource
  exact .of_moved (.built hi hrest hitems) hs hcall (fun _ => rfl) rfl rfl
    (.built hi hrest hitems)

theorem Succeeded.withConfig {p : Ptr} {f : kind.Content → Except Fail kind.Content} {u : Unit}
    (hs : s.Balanced) (hcall : call.transfer = none)
    (hitems : ∀ x x', f x = .ok x' → kind.items x' = kind.items x)
    (h : exec (withConfig kind p f) s = (.ok u, s')) : Succeeded call s made s' := by
  obtain ⟨x, s₁, hchecked, h₁⟩ := bind_eq_ok.mp h
  obtain ⟨hx, rfl⟩ := checkedMut_ok.mp hchecked
  obtain ⟨x', s₂, hset, h₂⟩ := bind_eq_ok.mp h₁
  obtain ⟨hf, rfl⟩ := ofExcept_ok.mp hset
  obtain rfl := store_ok.mp h₂
  obtain ⟨i, rfl, hi⟩ := arg_eq_live.mp hx
  have hsame : (kind.items x' : Multiset Item) = kind.items x := by rw [hitems x x' hf]
  exact .of_accounted (.store hi hsame) hs hcall fun _ => rfl

theorem Succeeded.make {built : Except Fail (Item → kind.Content)} {h : Nat} (hs : s.Balanced)
    (hcall : call.transfer = none) (hitems : ∀ f id, built = .ok f → kind.items (f id) = [id])
    (hexec : exec (make kind built) s = (.ok h, s')) : Succeeded call s made s' := by
  obtain ⟨f, s₁, hbuilt, h₁⟩ := bind_eq_ok.mp hexec
  obtain ⟨hf, rfl⟩ := ofExcept_ok.mp hbuilt
  obtain ⟨id, s₂, hmint, h₂⟩ := bind_eq_ok.mp h₁
  obtain ⟨rfl, rfl⟩ := mint_ok.mp hmint
  obtain ⟨-, rfl⟩ := intoRaw_ok.mp h₂
  refine ⟨fun t ht => absurd (hcall.symm.trans ht) nofun, fun _ => rfl, ?_, staysDead_alloc _⟩
  exact hs.mint rfl (hitems f _ hf)

/-! ### Each call -/

theorem exec_destroy_ok {u : Unit} (h : exec (destroy kind p) s = (.ok u, s')) :
    s' = s ∨ ∃ x, s.arg kind p = .live x ∧ s' = (s.setHandle p none).drop (kind.items x) := by
  obtain ⟨s₀, s₁, hstate, h₁⟩ := bind_eq_ok.mp h
  cases hstate
  split at h₁
  · rename_i x hx
    obtain ⟨u', s₂, hupdate, h₂⟩ := bind_eq_ok.mp h₁
    cases hupdate
    exact .inr ⟨x, hx, drop_ok.mp h₂⟩
  · cases h₁
    exact .inl rfl

theorem exec_take_drop_ok {items : kind.Content → List Item} {u : Unit}
    (h : exec (do let x ← take kind p; drop (items x)) s = (.ok u, s')) :
    ∃ x, s.arg kind p = .live x ∧ s' = (s.setHandle p none).drop (items x) := by
  obtain ⟨x, s₁, htake, h₁⟩ := bind_eq_ok.mp h
  obtain ⟨hx, rfl⟩ := take_ok.mp htake
  exact ⟨x, hx, drop_ok.mp h₁⟩

theorem exec_handleDestroy_ok {current : Bool} {u : Unit}
    (h : exec (handleDestroy kind p current) s = (.ok u, s')) :
    s' = s ∨ ∃ x, s.arg kind p = .live x ∧ s' = (s.setHandle p none).drop (kind.items x) := by
  unfold handleDestroy at h
  split at h
  · obtain ⟨s₀, s₁, hstate, h₁⟩ := bind_eq_ok.mp h
    cases hstate
    split at h₁
    · cases h₁
    · exact .inr (exec_take_drop_ok h₁)
  · exact .inr (exec_take_drop_ok h)
  · obtain ⟨s₀, s₁, hstate, h₁⟩ := bind_eq_ok.mp h
    cases hstate
    split at h₁
    · split at h₁
      · cases h₁
      · exact exec_destroy_ok h₁
    · exact exec_destroy_ok h₁
  · exact exec_destroy_ok h

theorem Succeeded.destroy {current : Bool} {u : Unit} (hs : s.Balanced)
    (h : exec (handleDestroy kind p current) s = (.ok u, s')) :
    Succeeded (.destroy kind p current) s made s' := by
  rcases exec_handleDestroy_ok h with rfl | ⟨x, hx, rfl⟩
  · exact .of_accounted (.refl _) hs rfl fun _ => rfl
  · obtain ⟨i, rfl, hi⟩ := arg_eq_live.mp hx
    exact .of_accounted (.destroy hi) hs rfl nofun

theorem Succeeded.builderNew {builder : Builder} {h : Nat} (hs : s.Balanced)
    (hexec : exec (intoRaw builder.kind builder.fresh) s = (.ok h, s')) :
    Succeeded (.builderNew builder) s made s' := by
  obtain ⟨-, rfl⟩ := intoRaw_ok.mp hexec
  have hempty : builder.kind.items builder.fresh = [] := by
    cases builder <;> rfl
  exact .of_accounted (.alloc hempty) hs rfl fun _ => rfl

theorem Succeeded.makeFrom {kind' : Kind} {outIsNull : Bool} {h : Nat}
    {built : Except Fail (Item → kind'.Content)} (hs : s.Balanced) (hcall : call.transfer = none)
    (hitems : ∀ f id, built = .ok f → kind'.items (f id) = [id])
    (hexec : exec (do
      checkOut outIsNull "out"
      let _ ← checkedMut kind p
      Pipeline.make kind' built) s = (.ok h, s')) : Succeeded call s made s' := by
  obtain ⟨u, s₁, hout, h₁⟩ := bind_eq_ok.mp hexec
  obtain ⟨-, rfl⟩ := checkOut_ok.mp hout
  obtain ⟨x, s₂, hchecked, h₂⟩ := bind_eq_ok.mp h₁
  obtain ⟨-, rfl⟩ := checkedMut_ok.mp hchecked
  exact .make hs hcall hitems h₂

theorem Succeeded.makeNew {outIsNull : Bool} {h : Nat} {built : Except Fail (Item → kind.Content)}
    (hs : s.Balanced) (hcall : call.transfer = none)
    (hitems : ∀ f id, built = .ok f → kind.items (f id) = [id])
    (hexec : exec (do
      checkOut outIsNull "out"
      Pipeline.make kind built) s = (.ok h, s')) : Succeeded call s made s' := by
  obtain ⟨u, s₁, hout, h₁⟩ := bind_eq_ok.mp hexec
  obtain ⟨-, rfl⟩ := checkOut_ok.mp hout
  exact .make hs hcall hitems h₁

/-- What was made of accepted settings is the exporter or view that they describe. -/
theorem items_of_map {α : Type} {r : Except Fail α} {g : α → Item → kind.Content}
    (hg : ∀ x id, kind.items (g x id) = [id]) (f : Item → kind.Content) (id : Item)
    (h : r.map g = .ok f) : kind.items (f id) = [id] := by
  cases r with
  | error e => cases h
  | ok x =>
    obtain rfl := Except.ok.inj h
    exact hg x id

theorem Succeeded.wrap (kind kind' : Kind) (f : kind.Content → kind'.Content) {outIsNull : Bool}
    {h : Nat} (hs : s.Balanced) (hcall : call.transfer = some ⟨p, true, none⟩)
    (hitems : ∀ x, kind'.items (f x) = kind.items x)
    (hexec : exec (do
      checkOut outIsNull "out"
      let owned ← take kind p
      intoRaw kind' (f owned)) s = (.ok h, s')) : Succeeded call s (some h) s' := by
  obtain ⟨u, s₁, hout, h₁⟩ := bind_eq_ok.mp hexec
  obtain ⟨-, rfl⟩ := checkOut_ok.mp hout
  obtain ⟨x, s₂, htake, h₂⟩ := bind_eq_ok.mp h₁
  obtain ⟨hx, rfl⟩ := take_ok.mp htake
  obtain ⟨rfl, rfl⟩ := intoRaw_ok.mp h₂
  rw [length_setHandle]
  exact .wrapped hs hcall hx (hitems x)

/-- The last step of a build that took the content of its builder. -/
theorem Succeeded.rebuilt {kind' : Kind} {content' : kind'.Content} {rest : kind.Content} {h : Nat}
    (hs : s.Balanced) (hcall : call.transfer = some ⟨p, false, none⟩)
    (hsource : s.arg kind p = .live content) (hrest : kind.items rest = [])
    (hitems : kind'.items content' = kind.items content)
    (hexec : exec (intoRaw kind' content') (s.setHandle p (some ⟨kind, rest⟩)) = (.ok h, s')) :
    Succeeded call s (some h) s' := by
  obtain ⟨rfl, rfl⟩ := intoRaw_ok.mp hexec
  rw [length_setHandle]
  exact .built hs hcall hsource hrest hitems

theorem Succeeded.batchSpanProcessorBuilderBuild {builder : Ptr} {outIsNull : Bool} {h : Nat}
    (hs : s.Balanced)
    (hexec : exec (Pipeline.batchSpanProcessorBuilderBuild builder outIsNull) s = (.ok h, s')) :
    Succeeded (.batchSpanProcessorBuilderBuild builder outIsNull) s (some h) s' := by
  obtain ⟨u, s₁, hout, h₁⟩ := bind_eq_ok.mp hexec
  obtain ⟨-, rfl⟩ := checkOut_ok.mp hout
  obtain ⟨b, s₂, hchecked, h₂⟩ := bind_eq_ok.mp h₁
  obtain ⟨hb, rfl⟩ := checkedMut_ok.mp hchecked
  split at h₂
  · cases h₂
  · rename_i exporter hexporter
    obtain ⟨u', s₃, hstore, h₃⟩ := bind_eq_ok.mp h₂
    obtain rfl := store_ok.mp hstore
    apply Succeeded.rebuilt hs rfl hb rfl ?_ h₃
    show [exporter.id] = (b.exporter.map (·.id)).toList
    rw [hexporter]
    rfl

theorem Succeeded.batchLogProcessorBuilderBuild {builder : Ptr} {outIsNull : Bool} {h : Nat}
    (hs : s.Balanced)
    (hexec : exec (Pipeline.batchLogProcessorBuilderBuild builder outIsNull) s = (.ok h, s')) :
    Succeeded (.batchLogProcessorBuilderBuild builder outIsNull) s (some h) s' := by
  obtain ⟨u, s₁, hout, h₁⟩ := bind_eq_ok.mp hexec
  obtain ⟨-, rfl⟩ := checkOut_ok.mp hout
  obtain ⟨b, s₂, hchecked, h₂⟩ := bind_eq_ok.mp h₁
  obtain ⟨hb, rfl⟩ := checkedMut_ok.mp hchecked
  obtain ⟨u', s₃, hsizes, h₃⟩ := bind_eq_ok.mp h₂
  obtain ⟨-, rfl⟩ := ofExcept_ok.mp hsizes
  split at h₃
  · cases h₃
  · rename_i exporter hexporter
    obtain ⟨u'', s₄, hstore, h₄⟩ := bind_eq_ok.mp h₃
    obtain rfl := store_ok.mp hstore
    apply Succeeded.rebuilt hs rfl hb rfl ?_ h₄
    show [exporter.id] = (b.exporter.map (·.id)).toList
    rw [hexporter]
    rfl

theorem Succeeded.sdkBuild {builder : Ptr} {outIsNull : Bool} {h : Nat} (hs : s.Balanced)
    (hexec : exec (Pipeline.sdkBuild builder outIsNull) s = (.ok h, s')) :
    Succeeded (.sdkBuild builder outIsNull) s (some h) s' := by
  obtain ⟨u, s₁, hout, h₁⟩ := bind_eq_ok.mp hexec
  obtain ⟨-, rfl⟩ := checkOut_ok.mp hout
  obtain ⟨b, s₂, hchecked, h₂⟩ := bind_eq_ok.mp h₁
  obtain ⟨hb, rfl⟩ := checkedMut_ok.mp hchecked
  obtain ⟨u', s₃, hstore, h₃⟩ := bind_eq_ok.mp h₂
  obtain rfl := store_ok.mp hstore
  refine Succeeded.rebuilt hs rfl hb ?_ ?_ h₃
  · rfl
  · rfl

theorem buildAsyncReader_ok {exporter : MetricExporterImpl} {interval timeout : Option Nat}
    {runtime : Except String Unit} {reader : PeriodicMetricReaderImpl} :
    exec (buildAsyncReader exporter interval timeout runtime) s = (.ok reader, s') →
      reader = .async exporter interval timeout ∧ s' = s := by
  intro h
  unfold buildAsyncReader at h
  split at h
  · cases h
  · cases h
    exact ⟨rfl, rfl⟩

theorem Succeeded.periodicMetricReaderBuilderBuild {features : Features} {builder : Ptr}
    {outIsNull : Bool} {runtime : Except String Unit} {h : Nat} (hs : s.Balanced)
    (hexec : exec (Pipeline.periodicMetricReaderBuilderBuild features builder outIsNull runtime) s =
      (.ok h, s')) :
    Succeeded (.periodicMetricReaderBuilderBuild builder outIsNull runtime) s (some h) s' := by
  obtain ⟨u, s₁, hout, h₁⟩ := bind_eq_ok.mp hexec
  obtain ⟨-, rfl⟩ := checkOut_ok.mp hout
  obtain ⟨b, s₂, hchecked, h₂⟩ := bind_eq_ok.mp h₁
  obtain ⟨hb, rfl⟩ := checkedMut_ok.mp hchecked
  obtain ⟨u', s₃, hcheck, h₃⟩ := bind_eq_ok.mp h₂
  obtain ⟨-, rfl⟩ := ofExcept_ok.mp hcheck
  split at h₃
  · cases h₃
  · rename_i exporter hexporter
    obtain ⟨u'', s₄, hstore, h₄⟩ := bind_eq_ok.mp h₃
    obtain rfl := store_ok.mp hstore
    have hitems : (b.exporter.map (·.id)).toList = [exporter.id] := by
      rw [hexporter]
      rfl
    split at h₄
    · obtain ⟨reader, s₅, hreader, h₅⟩ := bind_eq_ok.mp h₄
      obtain ⟨rfl, rfl⟩ := buildAsyncReader_ok hreader
      refine Succeeded.rebuilt hs rfl hb ?_ ?_ h₅
      · rfl
      · exact hitems.symm
    · refine Succeeded.rebuilt hs rfl hb ?_ ?_ h₄
      · rfl
      · exact hitems.symm

theorem Succeeded.batchSpanProcessorBuilderSetExporter {builder exporter : Ptr} {u : Unit}
    (hs : s.Balanced)
    (hexec : exec (Pipeline.batchSpanProcessorBuilderSetExporter builder exporter) s = (.ok u, s')) :
    Succeeded (.batchSpanProcessorBuilderSetExporter builder exporter) s made s' := by
  obtain ⟨b, s₁, hchecked, h₁⟩ := bind_eq_ok.mp hexec
  obtain ⟨hb, rfl⟩ := checkedMut_ok.mp hchecked
  obtain ⟨owned, s₂, htake, h₂⟩ := bind_eq_ok.mp h₁
  obtain ⟨howned, rfl⟩ := take_ok.mp htake
  obtain ⟨u', s₃, hstore, h₃⟩ := bind_eq_ok.mp h₂
  obtain rfl := store_ok.mp hstore
  obtain rfl := drop_ok.mp h₃
  exact .into hs rfl nofun howned hb nofun (le_refl _) (add_comm _ _)

theorem Succeeded.batchLogProcessorBuilderSetExporter {builder exporter : Ptr} {u : Unit}
    (hs : s.Balanced)
    (hexec : exec (Pipeline.batchLogProcessorBuilderSetExporter builder exporter) s = (.ok u, s')) :
    Succeeded (.batchLogProcessorBuilderSetExporter builder exporter) s made s' := by
  obtain ⟨b, s₁, hchecked, h₁⟩ := bind_eq_ok.mp hexec
  obtain ⟨hb, rfl⟩ := checkedMut_ok.mp hchecked
  obtain ⟨owned, s₂, htake, h₂⟩ := bind_eq_ok.mp h₁
  obtain ⟨howned, rfl⟩ := take_ok.mp htake
  obtain ⟨u', s₃, hstore, h₃⟩ := bind_eq_ok.mp h₂
  obtain rfl := store_ok.mp hstore
  obtain rfl := drop_ok.mp h₃
  exact .into hs rfl nofun howned hb nofun (le_refl _) (add_comm _ _)

/-- The last two steps of a transfer into a builder that replaces nothing. -/
theorem Succeeded.takeStore (kind kind' : Kind) (f : kind.Content → kind'.Content)
    {content' : kind'.Content} {p' : Ptr} {u : Unit} (hs : s.Balanced)
    (hcall : call.transfer = some ⟨p, true, some p'⟩) (htarget : s.arg kind' p' = .live content')
    (hne : kind ≠ kind')
    (hitems : ∀ x, (kind'.items (f x) : Multiset Item) = kind'.items content' + kind.items x)
    (hexec : exec (do
      let owned ← take kind p
      store kind' p' (f owned)) s = (.ok u, s')) : Succeeded call s made s' := by
  obtain ⟨x, s₁, htake, h₁⟩ := bind_eq_ok.mp hexec
  obtain ⟨hx, rfl⟩ := take_ok.mp htake
  obtain rfl := store_ok.mp h₁
  rw [← drop_nil (State.setHandle _ _ _)]
  apply Succeeded.into hs hcall (fun _ => rfl) hx htarget hne
  · rw [hitems x]
    exact Multiset.le_add_left _ _
  · rw [← hitems x]
    exact add_zero _

theorem Succeeded.periodicMetricReaderBuilderSetExporter {builder exporter : Ptr} {u : Unit}
    (hs : s.Balanced)
    (hexec : exec (Pipeline.periodicMetricReaderBuilderSetExporter builder exporter) s =
      (.ok u, s')) :
    Succeeded (.periodicMetricReaderBuilderSetExporter builder exporter) s made s' := by
  obtain ⟨b, s₁, hchecked, h₁⟩ := bind_eq_ok.mp hexec
  obtain ⟨hb, rfl⟩ := checkedMut_ok.mp hchecked
  obtain ⟨u', s₂, hfree, h₂⟩ := bind_eq_ok.mp h₁
  obtain ⟨hfree, rfl⟩ := ofExcept_ok.mp hfree
  have hnone : b.exporter = none := by
    cases hexporter : b.exporter with
    | none => rfl
    | some e =>
      rw [hexporter] at hfree
      cases hfree
  refine Succeeded.takeStore .metricExporter .periodicMetricReaderBuilder
    (fun owned => { b with exporter := some owned }) hs rfl hb nofun (fun e => ?_) h₂
  show (([e.id] : List Item) : Multiset Item) = ((b.exporter.map (·.id)).toList : Multiset Item) + _
  rw [hnone]
  exact (zero_add _).symm

theorem Succeeded.sdkBuilderAdd (kind : Kind) (push : SdkBuilder → kind.Content → SdkBuilder)
    {count : SdkBuilder → Nat} {limit : Nat} {what : String} {builder : Ptr} {reserved : Bool} {u : Unit}
    (hs : s.Balanced) (hcall : call.transfer = some ⟨p, true, some builder⟩)
    (hne : kind ≠ .sdkBuilder)
    (hpush : ∀ b x, (Kind.items .sdkBuilder (push b x) : Multiset Item) =
      Kind.items .sdkBuilder b + kind.items x)
    (hexec : exec (Pipeline.sdkBuilderAdd kind count limit what push builder p reserved) s =
      (.ok u, s')) : Succeeded call s made s' := by
  obtain ⟨b, s₁, hchecked, h₁⟩ := bind_eq_ok.mp hexec
  obtain ⟨hb, rfl⟩ := checkedMut_ok.mp hchecked
  obtain ⟨u', s₂, hlimit, h₂⟩ := bind_eq_ok.mp h₁
  obtain ⟨-, rfl⟩ := ofExcept_ok.mp hlimit
  obtain ⟨u'', s₃, hreserve, h₃⟩ := bind_eq_ok.mp h₂
  obtain ⟨-, rfl⟩ := ofExcept_ok.mp hreserve
  exact .takeStore kind .sdkBuilder (push b) hs hcall hb hne (hpush b) h₃

/-- A list that grew by one at its end, among others. -/
theorem coe_append_concat (xs ys zs : List Item) (id : Item) :
    ((xs ++ (ys ++ [id]) ++ zs : List Item) : Multiset Item) =
      ((xs ++ ys ++ zs : List Item) : Multiset Item) + ([id] : List Item) := by
  rw [Multiset.coe_add, Multiset.coe_eq_coe, ← List.append_assoc, List.append_assoc,
    List.append_assoc _ zs]
  exact List.perm_append_comm.append_left _

theorem items_pushProcessor (b : SdkBuilder) (x : SpanProcessorImpl) :
    (Kind.items .sdkBuilder (b.pushProcessor x) : Multiset Item) =
      Kind.items .sdkBuilder b + Kind.items .spanProcessor x := by
  have h := coe_append_concat [] (b.processors.map (·.exporter.id))
    (b.metricReaders.map (·.exporter.id) ++ b.metricViews.map (·.id) ++
      b.logProcessors.map (·.exporter.id)) x.exporter.id
  simp only [Kind.items, pipelineItems, SdkBuilder.pushProcessor, List.map_append, List.map_cons,
    List.map_nil, List.nil_append, List.append_assoc] at h ⊢
  exact h

theorem items_pushReader (b : SdkBuilder) (x : MetricReaderImpl) :
    (Kind.items .sdkBuilder (b.pushReader x) : Multiset Item) =
      Kind.items .sdkBuilder b + ([x.exporter.id] : List Item) := by
  have h := coe_append_concat (b.processors.map (·.exporter.id))
    (b.metricReaders.map (·.exporter.id))
    (b.metricViews.map (·.id) ++ b.logProcessors.map (·.exporter.id)) x.exporter.id
  simp only [Kind.items, pipelineItems, SdkBuilder.pushReader, List.map_append, List.map_cons,
    List.map_nil, List.append_assoc] at h ⊢
  exact h

theorem items_pushView (b : SdkBuilder) (x : MetricViewConfig) :
    (Kind.items .sdkBuilder (b.pushView x) : Multiset Item) =
      Kind.items .sdkBuilder b + Kind.items .metricView x := by
  have h := coe_append_concat
    (b.processors.map (·.exporter.id) ++ b.metricReaders.map (·.exporter.id))
    (b.metricViews.map (·.id)) (b.logProcessors.map (·.exporter.id)) x.id
  simp only [Kind.items, pipelineItems, SdkBuilder.pushView, List.map_append, List.map_cons,
    List.map_nil, List.append_assoc] at h ⊢
  exact h

theorem items_pushLogProcessor (b : SdkBuilder) (x : LogProcessorImpl) :
    (Kind.items .sdkBuilder (b.pushLogProcessor x) : Multiset Item) =
      Kind.items .sdkBuilder b + Kind.items .logProcessor x := by
  have h := coe_append_concat
    (b.processors.map (·.exporter.id) ++ b.metricReaders.map (·.exporter.id) ++
      b.metricViews.map (·.id)) (b.logProcessors.map (·.exporter.id)) [] x.exporter.id
  simp only [Kind.items, pipelineItems, SdkBuilder.pushLogProcessor, List.map_append,
    List.map_cons, List.map_nil, List.append_nil, List.append_assoc] at h ⊢
  exact h

theorem Succeeded.set {result : Except Fail Unit} {u : Unit} (hs : s.Balanced)
    (hexec : exec (Pipeline.withConfig kind p fun x => result.map fun _ => x) s = (.ok u, s')) :
    Succeeded (.set kind p result) s made s' := by
  refine Succeeded.withConfig hs rfl (fun x x' hx => ?_) hexec
  cases result with
  | error e => cases hx
  | ok v =>
    cases hx
    rfl

theorem Succeeded.batchSpanProcessorBuilderSet {builder : Ptr} {setting : BatchSetting} {u : Unit}
    (hs : s.Balanced)
    (hexec : exec (Pipeline.batchSpanProcessorBuilderSet builder setting) s = (.ok u, s')) :
    Succeeded (.batchSpanProcessorBuilderSet builder setting) s made s' := by
  refine Succeeded.withConfig hs rfl (fun b b' hb => ?_) hexec
  obtain ⟨config, -, hconfig⟩ := Checked.bind_eq_ok.mp hb
  cases hconfig
  rfl

theorem Succeeded.periodicMetricReaderBuilderSetRuntime {builder : Ptr} {runtime : UInt32} {u : Unit}
    (hs : s.Balanced)
    (hexec : exec (Pipeline.periodicMetricReaderBuilderSetRuntime builder runtime) s =
      (.ok u, s')) :
    Succeeded (.periodicMetricReaderBuilderSetRuntime builder runtime) s made s' := by
  refine Succeeded.withConfig hs rfl (fun b b' hb => ?_) hexec
  split at hb
  · cases hb
  · cases hb
    rfl

/-- **A successful call moves what it was given, and drops only what it is meant to.** -/
theorem succeeded_entry (features : Features) (hs : s.Balanced)
    (h : exec (call.entry features) s = (.ok made, s')) : Succeeded call s made s' := by
  cases call with
  | builderNew builder =>
    obtain ⟨h', rfl, hexec⟩ := made_ok.mp h
    exact .builderNew hs hexec
  | set kind p result =>
    obtain ⟨rfl, hexec⟩ := status_ok.mp h
    exact .set hs hexec
  | destroy kind p current =>
    obtain ⟨rfl, hexec⟩ := status_ok.mp h
    exact .destroy hs hexec
  | customTraceExporterNew out checked =>
    obtain ⟨h', rfl, hexec⟩ := made_ok.mp h
    exact .makeNew hs rfl (items_of_map fun _ _ => rfl) hexec
  | customLogExporterNew out checked =>
    obtain ⟨h', rfl, hexec⟩ := made_ok.mp h
    exact .makeNew hs rfl (items_of_map fun _ _ => rfl) hexec
  | customMetricExporterNew out checked =>
    obtain ⟨h', rfl, hexec⟩ := made_ok.mp h
    exact .makeNew hs rfl (items_of_map fun _ _ => rfl) hexec
  | otlpTraceExporterBuilderBuild b out built =>
    obtain ⟨h', rfl, hexec⟩ := made_ok.mp h
    exact .makeFrom hs rfl (items_of_map fun _ _ => rfl) hexec
  | otlpLogExporterBuilderBuild b out built =>
    obtain ⟨h', rfl, hexec⟩ := made_ok.mp h
    exact .makeFrom hs rfl (items_of_map fun _ _ => rfl) hexec
  | otlpMetricExporterBuilderBuild b out built =>
    obtain ⟨h', rfl, hexec⟩ := made_ok.mp h
    refine .makeFrom hs rfl (items_of_map fun transport _ => ?_) hexec
    cases transport <;> rfl
  | metricViewBuilderBuild b out checked =>
    obtain ⟨h', rfl, hexec⟩ := made_ok.mp h
    exact .makeFrom hs rfl (items_of_map fun _ _ => rfl) hexec
  | batchSpanProcessorBuilderSetExporter b e =>
    obtain ⟨rfl, hexec⟩ := status_ok.mp h
    exact .batchSpanProcessorBuilderSetExporter hs hexec
  | batchSpanProcessorBuilderSet b setting =>
    obtain ⟨rfl, hexec⟩ := status_ok.mp h
    exact .batchSpanProcessorBuilderSet hs hexec
  | batchSpanProcessorBuilderBuild b out =>
    obtain ⟨h', rfl, hexec⟩ := made_ok.mp h
    exact .batchSpanProcessorBuilderBuild hs hexec
  | simpleSpanProcessorCreate e out =>
    obtain ⟨h', rfl, hexec⟩ := made_ok.mp h
    exact Succeeded.wrap .traceExporter .spanProcessor .simple hs rfl (fun _ => rfl) hexec
  | batchLogProcessorBuilderSetExporter b e =>
    obtain ⟨rfl, hexec⟩ := status_ok.mp h
    exact .batchLogProcessorBuilderSetExporter hs hexec
  | batchLogProcessorBuilderSet b setting =>
    obtain ⟨rfl, hexec⟩ := status_ok.mp h
    refine Succeeded.withConfig hs rfl (fun b b' hb => ?_) hexec
    cases hb
    cases setting <;> rfl
  | batchLogProcessorBuilderBuild b out =>
    obtain ⟨h', rfl, hexec⟩ := made_ok.mp h
    exact .batchLogProcessorBuilderBuild hs hexec
  | simpleLogProcessorCreate e out =>
    obtain ⟨h', rfl, hexec⟩ := made_ok.mp h
    exact Succeeded.wrap .logExporter .logProcessor .simple hs rfl (fun _ => rfl) hexec
  | periodicMetricReaderBuilderSetRuntime b runtime =>
    obtain ⟨rfl, hexec⟩ := status_ok.mp h
    exact .periodicMetricReaderBuilderSetRuntime hs hexec
  | periodicMetricReaderBuilderSetIntervalMillis b millis =>
    obtain ⟨rfl, hexec⟩ := status_ok.mp h
    refine Succeeded.withConfig hs rfl (fun b b' hb => ?_) hexec
    cases hb
    rfl
  | periodicMetricReaderBuilderSetTimeoutMillis b millis =>
    obtain ⟨rfl, hexec⟩ := status_ok.mp h
    refine Succeeded.withConfig hs rfl (fun b b' hb => ?_) hexec
    cases hb
    rfl
  | periodicMetricReaderBuilderSetExporter b e =>
    obtain ⟨rfl, hexec⟩ := status_ok.mp h
    exact .periodicMetricReaderBuilderSetExporter hs hexec
  | periodicMetricReaderBuilderBuild b out runtime =>
    obtain ⟨h', rfl, hexec⟩ := made_ok.mp h
    exact .periodicMetricReaderBuilderBuild hs hexec
  | manualMetricReaderNew e out =>
    obtain ⟨h', rfl, hexec⟩ := made_ok.mp h
    exact Succeeded.wrap .metricExporter .manualMetricReader .mk hs rfl (fun _ => rfl) hexec
  | sdkBuilderAddMetricView b p reserved =>
    obtain ⟨rfl, hexec⟩ := status_ok.mp h
    exact Succeeded.sdkBuilderAdd .metricView .pushView hs rfl nofun items_pushView hexec
  | sdkBuilderAddMetricReader b p reserved =>
    obtain ⟨rfl, hexec⟩ := status_ok.mp h
    exact Succeeded.sdkBuilderAdd .periodicMetricReader (fun b x => b.pushReader (.periodic x)) hs rfl
      nofun (fun b x => items_pushReader b (.periodic x)) hexec
  | sdkBuilderAddManualMetricReader b p reserved =>
    obtain ⟨rfl, hexec⟩ := status_ok.mp h
    exact Succeeded.sdkBuilderAdd .manualMetricReader (fun b x => b.pushReader (.manual x)) hs rfl
      nofun (fun b x => items_pushReader b (.manual x)) hexec
  | sdkBuilderAddSpanProcessor b p reserved =>
    obtain ⟨rfl, hexec⟩ := status_ok.mp h
    exact Succeeded.sdkBuilderAdd .spanProcessor .pushProcessor hs rfl nofun items_pushProcessor hexec
  | sdkBuilderAddLogProcessor b p reserved =>
    obtain ⟨rfl, hexec⟩ := status_ok.mp h
    exact Succeeded.sdkBuilderAdd .logProcessor .pushLogProcessor hs rfl nofun items_pushLogProcessor
      hexec
  | sdkBuild b out =>
    obtain ⟨h', rfl, hexec⟩ := made_ok.mp h
    exact .sdkBuild hs hexec

end

/-! ### The build of an asynchronous reader -/

section

variable {features : Features} {s s' : State} {builder : Ptr} {outIsNull : Bool}
  {runtime : Except String Unit}

/-- A builder that passes the checks for the asynchronous runtime has an exporter for it. -/
theorem custom_of_check {b : PeriodicMetricReaderBuilder} {exporter : MetricExporterImpl} {u : Unit}
    (h : b.check features = .ok u) (hruntime : b.runtime = readerRuntimeAsync)
    (hexporter : b.exporter = some exporter) :
    features.metricsAsyncRuntime = true ∧ ∃ id, exporter = .custom id := by
  have hblocking : ¬(b.runtime = readerRuntimeBlocking ∧ b.timeout.isSome) := by
    rw [hruntime]
    exact fun hb => absurd hb.1 (by decide)
  rw [PeriodicMetricReaderBuilder.check, if_neg hblocking, if_pos hruntime, hexporter] at h
  split at h
  · rename_i hfeature
    cases exporter with
    | otlpHttp id => cases h
    | otlpGrpc id => cases h
    | custom id => exact ⟨hfeature, id, rfl⟩
  · cases h

theorem check_of_custom {b : PeriodicMetricReaderBuilder} {id : Item}
    (hfeature : features.metricsAsyncRuntime = true) (hruntime : b.runtime = readerRuntimeAsync)
    (hexporter : b.exporter = some (.custom id)) : b.check features = .ok () := by
  have hblocking : ¬(b.runtime = readerRuntimeBlocking ∧ b.timeout.isSome) := by
    rw [hruntime]
    exact fun hb => absurd hb.1 (by decide)
  rw [PeriodicMetricReaderBuilder.check, if_neg hblocking, if_pos hruntime, if_pos hfeature,
    hexporter]
  rfl

/-- The only failure that comes after the exporter was taken is tokio's. -/
theorem unchanged_or_runtimeFails {e : Fail}
    (h : exec (periodicMetricReaderBuilderBuild features builder outIsNull runtime) s =
      (.error e, s')) :
    s' = s ∨ RuntimeFails features s (.periodicMetricReaderBuilderBuild builder outIsNull runtime) := by
  rcases bind_eq_error.mp h with hout | ⟨u, s₁, hout, h₁⟩
  · exact .inl ((readOnly_checkOut _ _).eq hout)
  obtain ⟨houtIsNull, rfl⟩ := checkOut_ok.mp hout
  rcases bind_eq_error.mp h₁ with hchecked | ⟨b, s₂, hchecked, h₂⟩
  · exact .inl (readOnly_checkedMut.eq hchecked)
  obtain ⟨hb, rfl⟩ := checkedMut_ok.mp hchecked
  rcases bind_eq_error.mp h₂ with hrefused | ⟨u', s₃, haccepted, h₃⟩
  · exact .inl ((readOnly_ofExcept _).eq hrefused)
  obtain ⟨hcheck, rfl⟩ := ofExcept_ok.mp haccepted
  split at h₃
  · exact .inl ((readOnly_ofExcept _).eq h₃)
  rename_i exporter hexporter
  split at h₃
  · rename_i hruntime
    obtain ⟨hfeature, id, rfl⟩ := custom_of_check hcheck hruntime hexporter
    cases runtime with
    | error error => exact .inr ⟨houtIsNull, ⟨error, rfl⟩, b, id, hb, hruntime, hfeature, hexporter⟩
    | ok v =>
      cases h₃
  · have hnever : NeverFails (do
        store .periodicMetricReaderBuilder builder { b with exporter := none }
        intoRaw .periodicMetricReader (buildReader exporter b.interval)) :=
      neverFails_store.bind fun _ => neverFails_intoRaw
    exact .inl (hnever.atomic _ _ _ h₃)

/-- It drops the exporter. -/
theorem dropped_of_runtimeFails
    (h : RuntimeFails features s (.periodicMetricReaderBuilderBuild builder outIsNull runtime)) :
    ∃ e id s', exec (periodicMetricReaderBuilderBuild features builder outIsNull runtime) s =
      (.error e, s') ∧ s'.dropped = s.dropped ++ [id] := by
  obtain ⟨rfl, ⟨error, rfl⟩, b, id, hb, hruntime, hfeature, hexporter⟩ := h
  have hcheck := check_of_custom hfeature hruntime hexporter
  refine ⟨⟨.internalError, s!"failed to build async Metrics runtime: {error}"⟩, id,
    (s.setHandle builder
      (some ⟨.periodicMetricReaderBuilder, { b with exporter := none }⟩)).drop [id], ?_, ?_⟩
  · have hout : exec (checkOut false "out") s = (.ok (), s) := rfl
    have hfound := checkedMut_ok.mpr ⟨hb, rfl⟩
    have haccepted : exec (ofExcept (b.check features)) s = (.ok (), s) :=
      ofExcept_ok.mpr ⟨hcheck, rfl⟩
    rw [periodicMetricReaderBuilderBuild, exec_bind_of_ok hout, exec_bind_of_ok hfound,
      exec_bind_of_ok haccepted, hexporter]
    show exec (do
      store .periodicMetricReaderBuilder builder { b with exporter := none }
      if b.runtime = readerRuntimeAsync then do
        let reader ← buildAsyncReader (.custom id) b.interval b.timeout (.error error)
        intoRaw .periodicMetricReader reader
      else intoRaw .periodicMetricReader (buildReader (.custom id) b.interval)) s = _
    have hstored : exec (store .periodicMetricReaderBuilder builder { b with exporter := none }) s =
      (.ok (), _) := store_ok.mpr rfl
    rw [exec_bind_of_ok hstored, if_pos hruntime]
    exact exec_bind_of_error rfl
  · cases builder <;> rfl

end

/-! ### Runs -/

section

variable {features : Features} {s : State} {call : Call}

theorem handedOver_of_atomic (hs : s.Balanced)
    (hatomic : ∀ e, call.result features s = .error e → call.after features s = s) :
    HandedOver features s call (call.after features s) := by
  cases hresult : call.result features s with
  | error e =>
    have hsame := hatomic e hresult
    refine ⟨fun _ _ => hsame, fun made t hok => ?_, fun _ => ?_, ?_, ?_⟩
    · rw [hresult] at hok
      cases hok
    · rw [hsame]
    · rw [hsame]
      exact hs
    · rw [hsame]
      exact fun _ hi => hi
  | ok made =>
    have hexec : exec (call.entry features) s = (.ok made, call.after features s) :=
      Prod.ext hresult rfl
    have hdone := succeeded_entry features hs hexec
    refine ⟨fun e herror => ?_, fun made' t hok ht => ?_, hdone.kept, hdone.oneOwner, hdone.dead⟩
    · rw [hresult] at herror
      cases herror
    · rw [hresult] at hok
      cases hok
      exact hdone.moved t ht

/-- A call that fails has changed nothing unless tokio failed it. -/
theorem unchanged_of_failed (hruntime : ¬RuntimeFails features s call) {e : Fail}
    (h : call.result features s = .error e) : call.after features s = s := by
  have hexec : exec (call.entry features) s = (.error e, call.after features s) :=
    Prod.ext h rfl
  by_cases hbuild : ∃ builder outIsNull runtime,
      call = .periodicMetricReaderBuilderBuild builder outIsNull runtime
  · obtain ⟨builder, outIsNull, runtime, rfl⟩ := hbuild
    rcases bind_eq_error.mp hexec with hfailed | ⟨_, _, _, hpure⟩
    · exact (unchanged_or_runtimeFails hfailed).resolve_right hruntime
    · cases hpure
  · apply atomic_entry features (fun builder outIsNull runtime heq => ?_) _ _ _ hexec
    exact hbuild ⟨builder, outIsNull, runtime, heq⟩

theorem handedOver_iff (hs : s.Balanced) :
    HandedOver features s call (call.after features s) ↔ ¬RuntimeFails features s call := by
  constructor
  · intro h hruntime
    cases call with
    | periodicMetricReaderBuilderBuild builder outIsNull runtime =>
      obtain ⟨e, id, s', hexec, hdropped⟩ := dropped_of_runtimeFails hruntime
      have hcall : exec (made (periodicMetricReaderBuilderBuild features builder outIsNull runtime))
          s = (.error e, s') := exec_bind_of_error hexec
      have hsame := h.failed e (congrArg Prod.fst hcall)
      have hafter : s' = s := (congrArg Prod.snd hcall).symm.trans hsame
      rw [hafter] at hdropped
      exact absurd hdropped (by simp)
    | _ => exact hruntime
  · intro hruntime
    exact handedOver_of_atomic hs fun e h => unchanged_of_failed hruntime h

end

/-- **A run hands over atomically exactly when no build of a periodic reader meets a failure of
tokio's runtime builder.** -/
theorem hand_over_iff (features : Features) (calls : List Call) :
    Run.AllSteps (attempt features) (HandedOver features) .initial calls ↔
      Run.AllSteps (attempt features) (fun s call _ => ¬RuntimeFails features s call) .initial
        calls := by
  have hsame : ∀ s call s', s.Balanced → attempt features s call = some s' →
      (HandedOver features s call s' ↔ ¬RuntimeFails features s call) := by
    intro s call s' hs hstep
    obtain rfl := Option.some.inj hstep
    exact handedOver_iff hs
  exact Run.allSteps_iff hsame
    (fun s call s' hs hstep h => ((hsame s call s' hs hstep).mpr h).oneOwner) balanced_initial

/-- A custom exporter in the builder of an asynchronous reader. -/
def readyToBuild : List Call :=
  [.customMetricExporterNew false (.ok ()), .builderNew .periodicMetricReader,
    .periodicMetricReaderBuilderSetRuntime (some 1) 1,
    .periodicMetricReaderBuilderSetExporter (some 1) (some 0)]

def failingBuild : Call :=
  .periodicMetricReaderBuilderBuild (some 1) false (.error "out of threads")

/-- **The failed build drops the exporter**, and no handle has it any more. -/
theorem failed_build_loses_exporter :
    (∃ s s', Run.tryRun (attempt ⟨true⟩) .initial readyToBuild = some s ∧
      attempt ⟨true⟩ s failingBuild = some s' ∧ s.itemsAt 1 = {0} ∧ s.dropped = [] ∧
        (∃ e, failingBuild.result ⟨true⟩ s = .error e) ∧ s'.held = 0 ∧ s'.dropped = [0]) ∧
      ¬Run.AllSteps (attempt ⟨true⟩) (HandedOver ⟨true⟩) .initial (readyToBuild ++ [failingBuild])
    := by
  refine ⟨⟨_, _, rfl, rfl, rfl, rfl, ⟨_, rfl⟩, rfl, rfl⟩, fun h => ?_⟩
  have hlast := ((((h _ rfl).2 _ rfl).2 _ rfl).2 _ rfl).2 _ rfl
  have hdropped := congrArg State.dropped (hlast.1.failed _ rfl)
  cases hdropped

end OtelC.Sdk.Pipeline
