import OtelC.Trace.Traceparent

/-!
# The tracestate header

A trace state is stored as it was given and written as it is stored.  Extraction stores only what
`validateTracestate` accepts, which is printable ASCII and tabs (`validateTracestate_chars`); raw
construction stores any UTF-8 text within its length.  So a context that leaves the process always
comes back with its ids and flags, and with its trace state exactly when that is in the grammar
(`context_comes_back`).
-/

namespace OtelC.Trace

/-! ### Characters of an accepted trace state -/

/-- A character a trace state may put in a header. -/
def IsTracestateChar (c : Char) : Prop := 0x20 ≤ c.toNat ∧ c.toNat ≤ 0x7E ∨ c.toNat = 0x09

/-- A byte of a key: a key character or the `@` of a multi-tenant key. -/
def IsKeyByte (b : UInt8) : Prop := isTracestateKeyChar b = true ∨ b = 0x40

theorem isKeyByte_of_isLowercase {b : UInt8} (h : isLowercase b = true) : IsKeyByte b := by
  simp [IsKeyByte, isTracestateKeyChar, h]

theorem isKeyByte_of_isDigit {b : UInt8} (h : isDigit b = true) : IsKeyByte b := by
  simp [IsKeyByte, isTracestateKeyChar, h]

theorem IsKeyByte.range {b : UInt8} (h : IsKeyByte b) :
    0x21 ≤ b.toNat ∧ b.toNat ≤ 0x7E ∧ b.toNat ≠ 0x2C ∧ b.toNat ≠ 0x3D := by
  rcases h with h | rfl
  · simp only [isTracestateKeyChar, isLowercase, isDigit, Bool.or_eq_true, Bool.and_eq_true,
      decide_eq_true_eq, List.mem_cons, List.not_mem_nil, or_false] at h
    rcases h with (h | h) | h
    · omega
    · omega
    · rcases h with rfl | rfl | rfl | rfl <;> decide
  · decide

theorem isKeyPart_bytes {first : UInt8 → Bool} (hfirst : ∀ b, first b = true → IsKeyByte b)
    {maxLen : Nat} {part : List UInt8} (h : isKeyPart first maxLen part = true) :
    ∀ b ∈ part, IsKeyByte b := by
  cases part with
  | nil => simp
  | cons a rest =>
    simp only [isKeyPart, Bool.and_eq_true, List.all_eq_true] at h
    intro b hb
    rcases List.mem_cons.mp hb with rfl | hb
    · exact hfirst b h.1.2
    · exact .inl (h.2 b hb)

theorem isValidTracestateKey_bytes {key : Str} (h : isValidTracestateKey key = true) :
    ∀ b ∈ Utf8.encode key, IsKeyByte b := by
  unfold isValidTracestateKey at h
  split at h
  · rename_i tenant system hsplit
    split at h
    · simp at h
    · simp only [Bool.and_eq_true] at h
      have htenant : ∀ b, (isLowercase b || isDigit b) = true → IsKeyByte b := by
        intro b hb
        rcases Bool.or_eq_true_iff.mp hb with hb | hb
        · exact isKeyByte_of_isLowercase hb
        · exact isKeyByte_of_isDigit hb
      rw [(Text.splitOnce_eq_some hsplit).1]
      intro b hb
      rcases List.mem_append.mp hb with hb | hb
      · exact isKeyPart_bytes htenant h.1 b hb
      · rcases List.mem_cons.mp hb with rfl | hb
        · exact .inr rfl
        · exact isKeyPart_bytes (fun _ => isKeyByte_of_isLowercase) h.2 b hb
  · exact isKeyPart_bytes (fun _ => isKeyByte_of_isLowercase) h

theorem isValidTracestateValue_bytes {value : Str} (h : isValidTracestateValue value = true) :
    ∀ b ∈ Utf8.encode value, 0x20 ≤ b.toNat ∧ b.toNat ≤ 0x7E := by
  unfold isValidTracestateValue at h
  dsimp only at h
  split at h
  · simp at h
  · split at h
    · simp at h
    · intro b hb
      have := List.all_eq_true.mp h b hb
      simp only [Bool.or_eq_true, Bool.and_eq_true, decide_eq_true_eq] at this
      rcases this with rfl | this
      · decide
      · omega

theorem isValidTracestateValue_notComma {value : Str} (h : isValidTracestateValue value = true) :
    (0x2C : UInt8) ∉ Utf8.encode value := by
  unfold isValidTracestateValue at h
  dsimp only at h
  split at h
  · simp at h
  · split at h
    · simp at h
    · intro hmem
      exact absurd (List.all_eq_true.mp h _ hmem) (by decide)

/-- A member the loop accepted: blank, or a key and a value around the first `=`. -/
theorem validateMembers_mem {raws : List Str} {members : Nat} {seen : List Str}
    (h : validateMembers raws members seen = true) :
    ∀ raw ∈ raws, Text.trimBy isOws raw = [] ∨ ∃ key value,
      Text.trimBy isOws raw = key ++ '=' :: value ∧
      isValidTracestateKey key = true ∧ isValidTracestateValue value = true := by
  induction raws generalizing members seen with
  | nil => simp
  | cons raw rest ih =>
    rw [validateMembers] at h
    intro raw' hmem
    split at h
    · rename_i hblank
      rcases List.mem_cons.mp hmem with rfl | hmem
      · exact .inl (List.isEmpty_iff.mp hblank)
      · exact ih h raw' hmem
    · split at h
      · simp at h
      · split at h
        · simp at h
        · rename_i key value hsplit
          split at h
          · simp at h
          · rename_i hvalid
            split at h
            · simp at h
            · rcases List.mem_cons.mp hmem with rfl | hmem
              · simp only [Bool.or_eq_true, Bool.not_eq_true', not_or, Bool.not_eq_false] at hvalid
                exact .inr ⟨key, value, (Text.splitOnce_eq_some hsplit).1, hvalid.1, hvalid.2⟩
              · exact ih h raw' hmem

theorem isTracestateChar_of_bytes {s : Str}
    (h : ∀ b ∈ Utf8.encode s, 0x20 ≤ b.toNat ∧ b.toNat ≤ 0x7E) : ∀ c ∈ s, IsTracestateChar c := by
  intro c hc
  obtain ⟨hlt, hrange⟩ := (Utf8.forall_encode_iff
    (p := fun b => 0x20 ≤ b.toNat ∧ b.toNat ≤ 0x7E) (fun b hb => by omega) s).mp h c hc
  have hof : (UInt8.ofNat c.toNat).toNat = c.toNat := by
    rw [UInt8.toNat_ofNat']
    omega
  rw [hof] at hrange
  exact .inl hrange

/-- An accepted trace state is short and holds printable ASCII and tabs only. -/
theorem validateTracestate_chars {value : Str} (h : validateTracestate value = true) :
    value.len ≤ maxTracestateLen ∧ ∀ c ∈ value, IsTracestateChar c := by
  unfold validateTracestate at h
  split at h
  · rename_i hnil
    rw [List.isEmpty_iff.mp hnil]
    simp
  · split at h
    · simp at h
    · rename_i hlen
      refine ⟨Nat.le_of_not_gt hlen, fun c hc => ?_⟩
      rw [show value = List.intercalate [','] (value.splitOn ',') from
        (List.intercalate_splitOn ',').symm] at hc
      rcases Text.mem_intercalate hc with rfl | ⟨raw, hraw, hc⟩
      · exact .inl ⟨by decide, by decide⟩
      · rcases Text.mem_trimBy_or (p := isOws) hc with hc | hc
        · rcases validateMembers_mem h raw hraw with hblank | ⟨k, v, hkv, hk, hv⟩
          · rw [hblank] at hc
            simp at hc
          · have hkey := isTracestateChar_of_bytes (s := k) fun b hb => by
              have := (isValidTracestateKey_bytes hk b hb).range
              omega
            have hvalue := isTracestateChar_of_bytes (isValidTracestateValue_bytes hv)
            rw [hkv] at hc
            rcases List.mem_append.mp hc with hc | hc
            · exact hkey c hc
            · rcases List.mem_cons.mp hc with rfl | hc
              · exact .inl ⟨by decide, by decide⟩
              · exact hvalue c hc
        · simp only [isOws, Bool.or_eq_true, decide_eq_true_eq] at hc
          rcases hc with rfl | rfl
          · exact .inl ⟨by decide, by decide⟩
          · exact .inr (by decide)

theorem validateTracestate_nil : validateTracestate [] = true := rfl

/-! ### Contexts that leave the process -/

/-- A context from one of the two constructors. -/
inductive Obtained : SpanContextData → Prop
  | created {traceId : Option (Bytes 16)} {spanId : Option (Bytes 8)} {traceFlags : UInt8}
      {isRemote : UInt32} {traceState : OtelStringView} {context : SpanContextData}
      (h : otelSpanContextCreate traceId spanId traceFlags isRemote traceState = .ok context) :
      Obtained context
  | extracted {traceparent tracestate : OtelStringView} {context : SpanContextData}
      (h : extractBody traceparent tracestate = .ok context) : Obtained context

theorem Obtained.isValid {context : SpanContextData} (h : Obtained context) :
    context.isValid = true := by
  cases h with
  | created h => exact (otelSpanContextCreate_ok h).2.2.1
  | extracted h =>
    obtain ⟨_, _, _, _, -, -, hspells, -⟩ := extractBody_ok h
    exact isValid_of_spells hspells

/-- What was extracted is in the grammar. -/
theorem validateTracestate_of_extracted {traceparent tracestate : OtelStringView}
    {context : SpanContextData} (h : extractBody traceparent tracestate = .ok context) :
    validateTracestate context.traceState = true := by
  obtain ⟨_, ts, _, _, -, -, -, -, hstate⟩ := extractBody_ok h
  rw [hstate]
  split
  · assumption
  · exact validateTracestate_nil

theorem Obtained.traceState_len {context : SpanContextData} (h : Obtained context) :
    context.traceState.len ≤ maxSpanContextTraceState := by
  cases h with
  | created h => exact (otelSpanContextCreate_ok h).2.2.2.2.2
  | extracted h =>
    have := (validateTracestate_chars (validateTracestate_of_extracted h)).1
    exact this.trans (by decide)

theorem inject_tracestate {context : SpanContextData} (h : Obtained context) :
    otelTracePropagationInjectTracestate (.live context) false maxSpanContextTraceState false =
      ⟨.ok, none, some context.traceState.len, some (Utf8.encode context.traceState)⟩ := by
  have hlen := h.traceState_len
  have hrender : renderTracestate context = .ok context.traceState :=
    asStr_viewOf (hlen.trans (by decide))
  rw [otelTracePropagationInjectTracestate, inject_live h.isValid hrender hlen]

/-- **A context that leaves the process comes back.**  Whichever constructor it came from, the two
headers written for it are read back as a remote context with the same ids and flags; its trace
state comes back exactly when it is in the grammar, which it always is after an extraction, and then
only printable ASCII and tabs were written. -/
theorem context_comes_back (context : SpanContextData) (h : Obtained context) :
    ∃ traceparent : Str,
      otelTracePropagationInjectTraceparent (.live context) false traceparentLen false =
        ⟨.ok, none, some traceparentLen, some (Utf8.encode traceparent)⟩ ∧
      otelTracePropagationInjectTracestate (.live context) false maxSpanContextTraceState false =
        ⟨.ok, none, some context.traceState.len, some (Utf8.encode context.traceState)⟩ ∧
      ∃ back, otelTracePropagationExtract (viewOf traceparent) (viewOf context.traceState) false =
        ⟨.ok, none, some (some back)⟩ ∧
        back.traceId = context.traceId ∧ back.spanId = context.spanId ∧
        back.traceFlags = context.traceFlags ∧
        (back.traceState = context.traceState ↔ validateTracestate context.traceState = true) ∧
        (validateTracestate context.traceState = true →
          ∀ b ∈ Utf8.encode context.traceState, 0x20 ≤ b.toNat ∧ b.toNat ≤ 0x7E ∨ b.toNat = 0x09) ∧
        (∀ traceparent tracestate, extractBody traceparent tracestate = .ok context →
          validateTracestate context.traceState = true) := by
  obtain ⟨text, hrender, hlen, -⟩ := renderTraceparent_ok context
  have hview : asStr (viewOf text) = .ok text := asStr_viewOf (by rw [hlen]; decide)
  have hstate : asStr (viewOf context.traceState) = .ok context.traceState :=
    asStr_viewOf (h.traceState_len.trans (by decide))
  refine ⟨text, ?_, inject_tracestate h, ⟨context.traceId, context.spanId, context.traceFlags, true,
    if validateTracestate context.traceState then context.traceState else []⟩, ?_, rfl, rfl, rfl,
    ?_, fun hvalid => ?_, fun _ _ => validateTracestate_of_extracted⟩
  · rw [otelTracePropagationInjectTraceparent, inject_live h.isValid hrender hlen.le, hlen]
  · rw [otelTracePropagationExtract, extractBody_eq hview hstate,
      parseTraceparent_render h.isValid hrender]
    rfl
  · by_cases hvalid : validateTracestate context.traceState = true
    · simp [hvalid]
    · simp only [hvalid, Bool.false_eq_true, if_false, iff_false]
      intro hnil
      rw [← hnil] at hvalid
      exact hvalid validateTracestate_nil
  · refine (Utf8.forall_encode_iff
      (p := fun b => 0x20 ≤ b.toNat ∧ b.toNat ≤ 0x7E ∨ b.toNat = 0x09) (fun b hb => by omega) _).mpr
      fun c hc => ?_
    have hchar := (validateTracestate_chars hvalid).2 c hc
    unfold IsTracestateChar at hchar
    have hof : (UInt8.ofNat c.toNat).toNat = c.toNat := by
      rw [UInt8.toNat_ofNat']
      omega
    rw [hof]
    exact ⟨by omega, hchar⟩

/-- A context whose trace state is in the grammar. -/
theorem context_comes_back_created :
    ∃ traceparent : Str, ∃ back : SpanContextData,
      otelTracePropagationExtract (viewOf traceparent) (viewOf (lit "a=1, b=2")) false =
        ⟨.ok, none, some (some back)⟩ ∧ back.traceState = lit "a=1, b=2" := by
  obtain ⟨traceparent, -, -, back, hback, -, -, -, hstate, -, -⟩ := context_comes_back
    ⟨Bytes.replicate 16 1, Bytes.replicate 8 2, 1, false, lit "a=1, b=2"⟩
    (.created (show otelSpanContextCreate (some (Bytes.replicate 16 1))
      (some (Bytes.replicate 8 2)) 1 0 (viewOf (lit "a=1, b=2")) = .ok _ from rfl))
  exact ⟨traceparent, back, hback, hstate.mpr (by decide)⟩

/-- A created context with a line break in its trace state. -/
def brokenContext : SpanContextData where
  traceId := Bytes.replicate 16 1
  spanId := Bytes.replicate 8 2
  traceFlags := 1
  isRemote := false
  traceState := lit "a=1\r\nX: y"

theorem obtained_brokenContext : Obtained brokenContext :=
  .created (show otelSpanContextCreate (some (Bytes.replicate 16 1))
    (some (Bytes.replicate 8 2)) 1 0 (viewOf (lit "a=1\r\nX: y")) = .ok brokenContext from rfl)

/-- Its line break is written to the header, and its trace state is dropped on the way back. -/
theorem broken_context_does_not_come_back :
    (¬∀ context, Obtained context → ∀ bytes,
      (otelTracePropagationInjectTracestate (.live context) false maxSpanContextTraceState
        false).written = some bytes → ∀ b ∈ bytes, b ≠ 0x0D) ∧
    ¬∀ context, Obtained context → ∀ traceparent back,
      otelTracePropagationInjectTraceparent (.live context) false traceparentLen false =
        ⟨.ok, none, some traceparentLen, some (Utf8.encode traceparent)⟩ →
      otelTracePropagationExtract (viewOf traceparent) (viewOf context.traceState) false =
        ⟨.ok, none, some (some back)⟩ → back.traceState = context.traceState := by
  constructor
  · intro h
    have hwritten := inject_tracestate obtained_brokenContext
    exact h brokenContext obtained_brokenContext _ (congrArg InjectCall.written hwritten) 0x0D
      (by decide) rfl
  · intro h
    obtain ⟨text, hrender, hlen, -⟩ := renderTraceparent_ok brokenContext
    have hview : asStr (viewOf text) = .ok text := asStr_viewOf (by rw [hlen]; decide)
    have hstate : asStr (viewOf brokenContext.traceState) = .ok brokenContext.traceState :=
      asStr_viewOf (by decide)
    have hinvalid : validateTracestate brokenContext.traceState = false := by decide
    have hback := h brokenContext obtained_brokenContext text ⟨brokenContext.traceId,
      brokenContext.spanId, brokenContext.traceFlags, true, []⟩ ?_ ?_
    · exact absurd hback (by decide)
    · rw [otelTracePropagationInjectTraceparent,
        inject_live obtained_brokenContext.isValid hrender hlen.le, hlen]
    · rw [otelTracePropagationExtract, extractBody_eq hview hstate,
        parseTraceparent_render obtained_brokenContext.isValid hrender, hinvalid]
      rfl

end OtelC.Trace
