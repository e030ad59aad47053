import OtelC.Trace.StartSpan
import OtelC.Trace.Tracestate

/-!
# The two readers of a trace state

Extraction admits white space around the members of a trace state and blank members, as the W3C
grammar does, and stores the header as it came.  The SDK parses that text again when a span is
started, and its parser trims nothing.  Of that parser only what `TraceStateParser` lists is assumed.

* `start_refused_iff`: an entry refuses a context for its trace state exactly when the parser does.
* `extracted_context_accepted_iff`: which extracted contexts the entries accept.
-/

namespace OtelC.Trace

open OtelC.Sdk

variable {TraceState : Type} {fromStr : Str → Option TraceState}

/-- What is known of the SDK's parser: it goes through the pieces between commas, without the empty
one behind a final comma and without trimming; a piece needs a `=` behind a key of key bytes; and a
member with a simple key and a value of the W3C grammar is accepted. -/
structure TraceStateParser (fromStr : Str → Option TraceState) : Prop where
  splits : ∀ s, (fromStr s).isSome = true ↔
    ∀ piece ∈ Text.splitTerminator ',' s, piece ≠ [] ∧ (fromStr piece).isSome = true
  rejects : ∀ piece, ',' ∉ piece → piece ≠ [] → (fromStr piece).isSome = true →
    ∃ key value, piece = key ++ '=' :: value ∧ '=' ∉ key ∧ ∀ b ∈ Utf8.encode key, IsKeyByte b
  accepts : ∀ key value, isKeyPart isLowercase 256 (Utf8.encode key) = true →
    isValidTracestateValue value = true → (fromStr (key ++ '=' :: value)).isSome = true

/-! ### Refusals -/

theorem asStr_error {view : OtelStringView} {e : Fail} (h : asStr view = .error e) :
    e.status ≠ .invalidConfig := by
  rw [asStr] at h
  rcases Checked.bind_eq_error.mp h with h | ⟨bytes, -, h⟩
  · unfold asBytes at h
    simp only [fail] at h
    split_ifs at h <;> simp only [Except.error.injEq] at h
    · simp [← h]
    · simp [← h]
  · split at h
    · simp at h
    · simp only [fail, Except.error.injEq] at h
      simp [← h]

theorem toKeyValue_error {kv : OtelKeyValue} {e : Fail} (h : toKeyValue kv = .error e) :
    e.status ≠ .invalidConfig := by
  rcases Checked.bind_eq_error.mp h with h | ⟨key, -, h⟩
  · exact asStr_error h
  · simp only [fail] at h
    rcases Checked.guard_eq_error.mp h with ⟨-, rfl⟩ | ⟨-, h⟩
    · simp
    · split at h
      · rcases Checked.bind_eq_error.mp h with h | ⟨s, -, h⟩
        · exact asStr_error h
        · simp at h
      · simp at h
      · simp at h
      · simp at h
      · simp only [Except.error.injEq] at h
        simp [← h]

theorem collectKeyValues_error {attributes : CSlice OtelKeyValue} {e : Fail}
    (h : collectKeyValues attributes = .error e) : e.status ≠ .invalidConfig := by
  unfold collectKeyValues at h
  simp only [fail] at h
  split_ifs at h
  · simp only [Except.error.injEq] at h
    simp [← h]
  · simp only [Except.error.injEq] at h
    simp [← h]
  · simp only [Except.error.injEq] at h
    simp [← h]
  · obtain ⟨kv, -, hkv⟩ := Checked.mapM_eq_error h
    exact toKeyValue_error hkv

theorem isValid_sdk {context : SpanContextData} (h : context.isValid = true) (ts : TraceState) :
    (SdkSpanContext.mk context.traceId context.spanId context.traceFlags context.isRemote
      ts).isValid = true := h

/-- The SDK's context from the view of an API context: the parser decides. -/
theorem validContextFromView_view {context : SpanContextData} (hvalid : context.isValid = true)
    (hlen : context.traceState.len ≤ isizeMax) (message : String) :
    validContextFromView fromStr context.view message =
      match fromStr context.traceState with
      | some ts => .ok ⟨context.traceId, context.spanId, context.traceFlags, context.isRemote, ts⟩
      | none => .error traceStateInvalid := by
  have hremote : (context.view.isRemote ≠ 0) = (context.isRemote = true) := by
    cases hr : context.isRemote <;> simp [SpanContextData.view, hr]
  have hstate : asStr context.view.traceState = .ok context.traceState := asStr_viewOf hlen
  have hreserved : context.view.reserved = Bytes.zero 3 := rfl
  rw [validContextFromView, spanContextFromView, if_neg (by simp [hreserved]), hstate]
  simp only [Except.toOption, Option.bind_some]
  cases fromStr context.traceState with
  | none => rfl
  | some ts =>
    simp only [Checked.ok_bind, hremote, Bool.decide_eq_true]
    exact if_pos (isValid_sdk hvalid ts)

/-- The only contexts a span start mentions are this one: as its parent, or in its links. -/
def UsesOnly (context : SpanContextData) (config : OtelSpanStartConfig TraceState) : Prop :=
  (config.parentContext = none ∨ config.parentContext = some context.view) ∧
    ∀ link ∈ config.links.read, link.context = context.view

/-- No entry refuses this context for its trace state, neither as a parent nor as a link nor as the
ambient context. -/
def AcceptedByEntries (fromStr : Str → Option TraceState) (context : SpanContextData) : Prop :=
  (∀ ctxIsNull name kind,
    vtTracerStartSpanWithContext fromStr ctxIsNull name kind (some context.view) ≠
      some (.error traceStateInvalid)) ∧
  (∀ ctxIsNull name config, UsesOnly context config →
    vtTracerStartSpanEx fromStr ctxIsNull name (some config) ≠ .error traceStateInvalid) ∧
  ∀ ctxIsNull name config structSize flags reserved, UsesOnly context config →
    vtTracerStartSpanExWithContext fromStr ctxIsNull name (some config)
      (some ⟨structSize, some context.view, flags, reserved⟩) ≠ .error traceStateInvalid

section Entries

variable {context : SpanContextData} (hvalid : context.isValid = true)
  (hlen : context.traceState.len ≤ isizeMax)

include hvalid hlen

theorem validContextFromView_ne {ts : TraceState} (hts : fromStr context.traceState = some ts)
    (message : String) {e : Fail} :
    validContextFromView fromStr context.view message ≠ .error e := by
  rw [validContextFromView_view hvalid hlen, hts]
  simp

theorem convertLinks_ne {ts : TraceState} (hts : fromStr context.traceState = some ts)
    {links : CSlice OtelSpanLinkView} (hlinks : ∀ link ∈ links.read, link.context = context.view) :
    convertLinks fromStr links ≠ .error traceStateInvalid := by
  intro h
  unfold convertLinks at h
  simp only [fail] at h
  split_ifs at h
  · simp [traceStateInvalid] at h
  · obtain ⟨link, hmem, hlink⟩ := Checked.mapM_eq_error h
    rw [convertLink, hlinks link hmem] at hlink
    rcases Checked.bind_eq_error.mp hlink with hlink | ⟨_, -, hlink⟩
    · exact validContextFromView_ne hvalid hlen hts _ hlink
    · rcases Checked.bind_eq_error.mp hlink with hlink | ⟨_, -, hlink⟩
      · exact collectKeyValues_error hlink rfl
      · simp at hlink

theorem startSpanEx_ne {ts : TraceState} (hts : fromStr context.traceState = some ts)
    (ctxIsNull : Bool) (name : OtelStringView) {config : OtelSpanStartConfig TraceState}
    (huses : UsesOnly context config) :
    vtTracerStartSpanEx fromStr ctxIsNull name (some config) ≠ .error traceStateInvalid := by
  intro h
  unfold vtTracerStartSpanEx at h
  split at h
  · rename_i config' heq
    obtain rfl := Option.some.inj heq
    simp only [fail] at h
    rcases Checked.guard_eq_error.mp h with ⟨-, h⟩ | ⟨-, h⟩
    · simp [traceStateInvalid] at h
    rcases Checked.guard_eq_error.mp h with ⟨-, h⟩ | ⟨-, h⟩
    · simp [traceStateInvalid] at h
    rcases Checked.bind_eq_error.mp h with h | ⟨_, -, h⟩
    · exact asStr_error h rfl
    rcases Checked.bind_eq_error.mp h with h | ⟨_, -, h⟩
    · exact collectKeyValues_error h rfl
    rcases Checked.bind_eq_error.mp h with h | ⟨_, -, h⟩
    · exact convertLinks_ne hvalid hlen hts huses.2 h
    rcases Checked.bind_eq_error.mp h with h | ⟨_, -, h⟩
    · unfold resolveParent at h
      split at h
      · simp at h
      · rename_i view _ hparent
        obtain rfl : context.view = view := by
          rcases huses.1 with hnone | hsome
          · simp [hnone] at hparent
          · exact Option.some.inj (hsome.symm.trans hparent)
        rcases Checked.bind_eq_error.mp h with h | ⟨_, -, h⟩
        · exact validContextFromView_ne hvalid hlen hts _ h
        · simp at h
      · simp at h
    · simp at h
  · simp [fail, traceStateInvalid] at h

/-- **An entry refuses a context for its trace state exactly when the parser rejects it.** -/
theorem start_refused_iff :
    AcceptedByEntries fromStr context ↔ (fromStr context.traceState).isSome = true := by
  constructor
  · intro haccepted
    by_contra hnone
    rw [Option.not_isSome_iff_eq_none] at hnone
    refine haccepted.1 false (viewOf []) 0 ?_
    simp only [vtTracerStartSpanWithContext, validContextFromView_view hvalid hlen, hnone,
      Checked.error_bind]
  · intro hsome
    obtain ⟨ts, hts⟩ := Option.isSome_iff_exists.mp hsome
    refine ⟨fun ctxIsNull name kind h => ?_,
      fun ctxIsNull name config => startSpanEx_ne hvalid hlen hts ctxIsNull name,
      fun ctxIsNull name config structSize flags reserved huses h => ?_⟩
    · cases ctxIsNull with
      | true => simp [vtTracerStartSpanWithContext] at h
      | false =>
        rcases Checked.bind_eq_error.mp (Option.some.inj h) with h | ⟨_, -, h⟩
        · exact validContextFromView_ne hvalid hlen hts _ h
        · rcases Checked.bind_eq_error.mp h with h | ⟨_, -, h⟩
          · exact asStr_error h rfl
          · simp at h
    · unfold vtTracerStartSpanExWithContext at h
      simp only [fail] at h
      rcases Checked.guard_eq_error.mp h with ⟨-, h⟩ | ⟨-, h⟩
      · simp [traceStateInvalid] at h
      rcases Checked.guard_eq_error.mp h with ⟨-, h⟩ | ⟨-, h⟩
      · simp [traceStateInvalid] at h
      rcases Checked.guard_eq_error.mp h with ⟨-, h⟩ | ⟨-, h⟩
      · simp [traceStateInvalid] at h
      · have huses' : UsesOnly context { config with parentContext := some context.view } :=
          ⟨.inr rfl, huses.2⟩
        exact startSpanEx_ne hvalid hlen hts ctxIsNull name huses' h

end Entries

/-! ### Pieces of a stored trace state -/

def LeadsWithOws (piece : Str) : Prop := ∃ c ∈ piece.head?, isOws c = true

def EndsWithOws (piece : Str) : Prop := ∃ c ∈ piece.getLast?, isOws c = true

/-- A member with a multi-tenant key. -/
def IsMultiTenant (piece : Str) : Prop :=
  ∃ key value, piece = key ++ '=' :: value ∧ '=' ∉ key ∧ '@' ∈ key

/-- Every piece of the stored text, but for the empty one behind a final comma, holds a member and
starts with it; where white space or a tenant makes the piece more than a simple member, the
parser takes it as it is. -/
def StoredPlainly (fromStr : Str → Option TraceState) (s : Str) : Prop :=
  ∀ piece ∈ Text.splitTerminator ',' s, piece ≠ [] ∧ ¬LeadsWithOws piece ∧
    (EndsWithOws piece ∨ IsMultiTenant piece → (fromStr piece).isSome = true)

theorem isOws_notKeyByte {c : Char} (h : isOws c = true) :
    c.toNat < 0x80 ∧ ¬IsKeyByte (UInt8.ofNat c.toNat) := by
  simp only [isOws, Bool.or_eq_true, decide_eq_true_eq] at h
  rcases h with rfl | rfl
  · exact ⟨by decide, fun hkey => absurd hkey.range (by decide)⟩
  · exact ⟨by decide, fun hkey => absurd hkey.range (by decide)⟩

/-- The parser rejects a piece that starts with white space. -/
theorem not_leadsWithOws_of_accepted (hparser : TraceStateParser fromStr) {piece : Str}
    (hcomma : ',' ∉ piece) (hne : piece ≠ []) (h : (fromStr piece).isSome = true) :
    ¬LeadsWithOws piece := by
  rintro ⟨c, hc, hows⟩
  obtain ⟨key, value, rfl, -, hbytes⟩ := hparser.rejects piece hcomma hne h
  cases key with
  | nil =>
    obtain rfl : '=' = c := by simpa using hc
    simp [isOws] at hows
  | cons k key =>
    obtain rfl : k = c := by simpa using hc
    obtain ⟨hlt, hnot⟩ := isOws_notKeyByte hows
    exact hnot (hbytes _ (Utf8.mem_encode_of_ascii (by simp) hlt))

/-- A plain piece of an accepted trace state is a simple member. -/
theorem simple_of_plain {piece key value : Str} (hlead : ¬LeadsWithOws piece)
    (hend : ¬EndsWithOws piece) (htenant : ¬IsMultiTenant piece)
    (htrim : Text.trimBy isOws piece = key ++ '=' :: value)
    (hkey : isValidTracestateKey key = true) :
    piece = key ++ '=' :: value ∧ isKeyPart isLowercase 256 (Utf8.encode key) = true := by
  have hself : Text.trimBy isOws piece = piece := by
    refine Text.trimBy_eq_self (fun c hc => ?_) fun c hc => ?_
    · by_contra hows
      exact hlead ⟨c, hc, by simpa using hows⟩
    · by_contra hows
      exact hend ⟨c, hc, by simpa using hows⟩
  rw [hself] at htrim
  refine ⟨htrim, ?_⟩
  have hkey' := hkey
  unfold isValidTracestateKey at hkey
  split at hkey
  · rename_i tenant system hsplit
    have hat : (0x40 : UInt8) ∈ Utf8.encode key := by
      rw [(Text.splitOnce_eq_some hsplit).1]
      simp
    have heq : '=' ∉ key := by
      intro hmem
      have hbyte : (0x3D : UInt8) ∈ Utf8.encode key := Utf8.mem_encode_of_ascii hmem (by decide)
      exact (isValidTracestateKey_bytes hkey' _ hbyte).range.2.2.2 rfl
    exact absurd ⟨key, value, htrim, heq, Utf8.mem_of_mem_encode_ascii hat (by decide)⟩ htenant
  · exact hkey

theorem fromStr_isSome_iff (hparser : TraceStateParser fromStr) {s : Str}
    (hvalid : validateTracestate s = true) :
    (fromStr s).isSome = true ↔ StoredPlainly fromStr s := by
  rw [hparser.splits, StoredPlainly]
  refine forall₂_congr fun piece hpiece => ?_
  have hmem := Text.splitTerminator_subset ',' s piece hpiece
  have hcomma : ',' ∉ piece := fun hc => (Text.mem_of_mem_splitOn hmem _ hc).2 rfl
  constructor
  · rintro ⟨hne, hsome⟩
    exact ⟨hne, not_leadsWithOws_of_accepted hparser hcomma hne hsome, fun _ => hsome⟩
  · rintro ⟨hne, hlead, hparsed⟩
    refine ⟨hne, ?_⟩
    by_cases hplain : EndsWithOws piece ∨ IsMultiTenant piece
    · exact hparsed hplain
    · rw [not_or] at hplain
      have hnotnil : s ≠ [] := by
        rintro rfl
        simp [Text.splitTerminator] at hpiece
      have hmembers : validateMembers (s.splitOn ',') 0 [] = true := by
        unfold validateTracestate at hvalid
        rw [if_neg (by simpa using hnotnil)] at hvalid
        split at hvalid
        · simp at hvalid
        · exact hvalid
      rcases validateMembers_mem hmembers piece hmem with hblank | ⟨key, value, htrim, hkey, hvalue⟩
      · -- a blank piece starts with the white space it consists of
        obtain ⟨c, rest, rfl⟩ := List.exists_cons_of_ne_nil hne
        refine absurd ⟨c, rfl, ?_⟩ hlead
        rcases Text.mem_trimBy_or (p := isOws) (show c ∈ c :: rest by simp) with hc | hc
        · rw [hblank] at hc
          simp at hc
        · exact hc
      · obtain ⟨rfl, hsimple⟩ := simple_of_plain hlead hplain.1 hplain.2 htrim hkey
        exact hparser.accepts key value hsimple hvalue

/-- **Which extracted contexts the SDK's span-start entries accept.**  For every header pair, an
extracted context is never refused for its trace state exactly when the stored text is plain. -/
theorem extracted_context_accepted_iff (fromStr : Str → Option TraceState)
    (hparser : TraceStateParser fromStr) (traceparent tracestate : OtelStringView)
    (context : SpanContextData)
    (h : (otelTracePropagationExtract traceparent tracestate false).out = some (some context)) :
    AcceptedByEntries fromStr context ↔ StoredPlainly fromStr context.traceState := by
  have hbody : extractBody traceparent tracestate = .ok context := withOut_out h
  have hobtained : Obtained context := .extracted hbody
  rw [start_refused_iff hobtained.isValid (hobtained.traceState_len.trans (by decide)),
    fromStr_isSome_iff hparser (validateTracestate_of_extracted hbody)]

/-! ### A parser with these laws -/

/-- Key bytes in front of the first `=`. -/
def isListMember (piece : Str) : Bool :=
  match Text.splitOnce '=' piece with
  | some (key, _) => (Utf8.encode key).all fun b => isTracestateKeyChar b || b = 0x40
  | none => false

def parseListMembers (s : Str) : Option Str :=
  if (Text.splitTerminator ',' s).all isListMember then some s else none

theorem parseListMembers_isSome {s : Str} :
    (parseListMembers s).isSome = true ↔ ∀ piece ∈ Text.splitTerminator ',' s,
      isListMember piece = true := by
  rw [parseListMembers]
  split
  · rename_i h
    simpa using List.all_eq_true.mp h
  · rename_i h
    simpa using h

theorem parseListMembers_piece {piece : Str} (hcomma : ',' ∉ piece) (hne : piece ≠ []) :
    (parseListMembers piece).isSome = true ↔ isListMember piece = true := by
  rw [parseListMembers_isSome, Text.splitTerminator_of_notMem hcomma hne]
  simp

theorem isListMember_eq_true {piece : Str} (h : isListMember piece = true) :
    ∃ key value, piece = key ++ '=' :: value ∧ '=' ∉ key ∧ ∀ b ∈ Utf8.encode key, IsKeyByte b := by
  unfold isListMember at h
  split at h
  · rename_i key value hsplit
    obtain ⟨rfl, hkey⟩ := Text.splitOnce_eq_some hsplit
    refine ⟨key, value, rfl, hkey, fun b hb => ?_⟩
    have hbyte := List.all_eq_true.mp h b hb
    simpa [IsKeyByte] using hbyte
  · simp at h

theorem isListMember_simple {key value : Str} (hkey : ∀ b ∈ Utf8.encode key, IsKeyByte b) :
    isListMember (key ++ '=' :: value) = true := by
  have heq : '=' ∉ key := by
    intro hmem
    have hbyte : (0x3D : UInt8) ∈ Utf8.encode key := Utf8.mem_encode_of_ascii hmem (by decide)
    exact (hkey _ hbyte).range.2.2.2 rfl
  unfold isListMember
  rw [Text.splitOnce_append heq]
  refine List.all_eq_true.mpr fun b hb => ?_
  simpa [IsKeyByte] using hkey b hb

theorem traceStateParser_parseListMembers : TraceStateParser parseListMembers where
  splits := by
    intro s
    rw [parseListMembers_isSome]
    refine forall₂_congr fun piece hpiece => ?_
    have hcomma : ',' ∉ piece := fun hc =>
      (Text.mem_of_mem_splitOn (Text.splitTerminator_subset ',' s piece hpiece) _ hc).2 rfl
    constructor
    · intro h
      have hne : piece ≠ [] := by
        rintro rfl
        exact absurd h (by decide)
      exact ⟨hne, (parseListMembers_piece hcomma hne).mpr h⟩
    · rintro ⟨hne, h⟩
      exact (parseListMembers_piece hcomma hne).mp h
  rejects := fun piece hcomma hne h =>
    isListMember_eq_true ((parseListMembers_piece hcomma hne).mp h)
  accepts := by
    intro key value hkey hvalue
    have hbytes := isKeyPart_bytes (fun _ => isKeyByte_of_isLowercase) hkey
    have hcomma : ',' ∉ key ++ '=' :: value := by
      intro hmem
      rcases List.mem_append.mp hmem with hmem | hmem
      · have hbyte : (0x2C : UInt8) ∈ Utf8.encode key := Utf8.mem_encode_of_ascii hmem (by decide)
        exact (hbytes _ hbyte).range.2.2.1 rfl
      · rcases List.mem_cons.mp hmem with heq | hmem
        · exact absurd heq (by decide)
        · have hbyte : (0x2C : UInt8) ∈ Utf8.encode value :=
            Utf8.mem_encode_of_ascii hmem (by decide)
          exact isValidTracestateValue_notComma hvalue hbyte
    rw [parseListMembers_piece hcomma (by simp)]
    exact isListMember_simple hbytes

/-- The context that is extracted from a traceparent of ones and twos. -/
def plainContext (traceState : Str) : SpanContextData where
  traceId := Bytes.replicate 16 0x11
  spanId := Bytes.replicate 8 0x22
  traceFlags := 1
  isRemote := true
  traceState := traceState

def plainTraceparent : OtelStringView :=
  viewOf (lit "00-11111111111111111111111111111111-2222222222222222-01")

theorem extracted_context_accepted_plain :
    AcceptedByEntries parseListMembers (plainContext (lit "a=1,b=2,")) :=
  (extracted_context_accepted_iff parseListMembers traceStateParser_parseListMembers
    plainTraceparent (viewOf (lit "a=1,b=2,")) (plainContext (lit "a=1,b=2,")) (by rfl)).mpr <| by
    have hpieces : Text.splitTerminator ',' (plainContext (lit "a=1,b=2,")).traceState =
        [lit "a=1", lit "b=2"] := by decide
    intro piece hpiece
    rw [hpieces] at hpiece
    rcases List.mem_pair.mp hpiece with rfl | rfl
    · exact ⟨by decide, by simp [LeadsWithOws, lit, isOws], fun _ => by decide⟩
    · exact ⟨by decide, by simp [LeadsWithOws, lit, isOws], fun _ => by decide⟩

/-- A space behind the comma, and the context starts no span. -/
theorem extracted_context_refused :
    ¬∀ {TraceState : Type} (fromStr : Str → Option TraceState), TraceStateParser fromStr →
      ∀ traceparent tracestate context,
      (otelTracePropagationExtract traceparent tracestate false).out = some (some context) →
      AcceptedByEntries fromStr context := by
  intro h
  have haccepted := h parseListMembers traceStateParser_parseListMembers plainTraceparent
    (viewOf (lit "a=1, b=2")) (plainContext (lit "a=1, b=2")) (by rfl)
  exact haccepted.1 false (viewOf []) 0 (by rfl)

end OtelC.Trace
