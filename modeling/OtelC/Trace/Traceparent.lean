import OtelC.Trace.Propagation

/-!
# The traceparent header

The reader of `traceparent` accepts a grammar (`Spells`): a version, a trace id, a parent id and
flags in lowercase hexadecimal, with nothing behind version 00 and a `-` before whatever a later
version appends.  Reader and grammar are compared through what stands at an offset: each check of
the reader says how the bytes from its offset on begin (`expectDash_ok`, `hexField_ok`).

* `parseTraceparent_ok_iff`: the reader accepts exactly the grammar.
* `parseTraceparent_error`: it refuses with a message of its own, never by an index out of range.
* `traceparent_codec`: reading and writing are inverse to each other.
-/

namespace OtelC.Trace

/-! ### The grammar -/

/-- What `t` spells as a `traceparent`: `rest` is what stands behind the flags. -/
structure Spells (t : List UInt8) (version : UInt8) (fields : Traceparent) (rest : List UInt8) :
    Prop where
  eq : t = Hex.encode [version] ++ 0x2D :: (Hex.encode fields.traceId.val ++
    0x2D :: (Hex.encode fields.spanId.val ++ 0x2D :: (Hex.encode [fields.traceFlags] ++ rest)))
  version_ne : version ≠ 0xFF
  traceId_ne : fields.traceId ≠ Bytes.zero 16
  spanId_ne : fields.spanId ≠ Bytes.zero 8
  rest_of_zero : version = 0x00 → rest = []
  rest_dash : rest = [] ∨ ∃ tail, rest = 0x2D :: tail

theorem Spells.length_eq {t : List UInt8} {version : UInt8} {fields : Traceparent}
    {rest : List UInt8} (h : Spells t version fields rest) : t.length = 55 + rest.length := by
  have htrace := fields.traceId.property
  have hspan := fields.spanId.property
  rw [h.eq]
  simp only [List.length_append, List.length_cons, List.length_nil, Hex.length_encode, htrace,
    hspan]
  omega

/-! ### One check at a time -/

theorem expectDash_ok {t : List UInt8} {i : Nat} {message : String} {u : Unit} :
    expectDash t i message = .ok u ↔ t.drop i = 0x2D :: t.drop (i + 1) := by
  rw [expectDash, Checked.bind_eq_ok]
  constructor
  · rintro ⟨b, hb, h⟩
    simp only [fail] at h
    obtain ⟨hdash, -⟩ := Checked.guard_eq_ok.mp h
    rw [not_not] at hdash
    subst hdash
    unfold index at hb
    split at hb
    · rename_i b' hget
      obtain ⟨hi, hget⟩ := List.getElem?_eq_some_iff.mp hget
      rw [List.drop_eq_getElem_cons hi, hget, Except.ok.inj hb]
    · simp at hb
  · intro h
    have hi : i < t.length := by
      by_contra hnot
      rw [List.drop_eq_nil_of_le (by omega)] at h
      simp at h
    rw [List.drop_eq_getElem_cons hi, List.cons.injEq] at h
    exact ⟨t[i], index_of_lt hi, by simp [h.1]⟩

theorem expectDash_error {t : List UInt8} {i : Nat} {message : String} {e : Fail}
    (hi : i < t.length) (h : expectDash t i message = .error e) :
    e = ⟨.invalidArgument, message⟩ := by
  rw [expectDash, index_of_lt hi, Checked.ok_bind] at h
  simp only [fail] at h
  rcases Checked.guard_eq_error.mp h with ⟨-, h⟩ | ⟨-, h⟩
  · exact h.symm
  · simp at h

theorem decodeHex_eq_some {n : Nat} {input : List UInt8} {bytes : Bytes n} :
    decodeHex n input = some bytes ↔ input = Hex.encode bytes.val := by
  unfold decodeHex
  constructor
  · intro h
    split at h
    · simp at h
    · obtain ⟨out, hout, h⟩ := Option.bind_eq_some_iff.mp h
      split at h
      · obtain rfl := Option.some.inj h
        exact Hex.decode_eq_some.mp hout
      · simp at h
  · rintro rfl
    simp [Hex.length_encode, bytes.property, Hex.decode_encode]

theorem hexField_ok {n : Nat} (hn : 0 < n) {t : List UInt8} {start stop : Nat} {message : String}
    (hstop : stop = start + 2 * n) {bytes : Bytes n} :
    hexField n t start stop message = .ok bytes ↔
      t.drop start = Hex.encode bytes.val ++ t.drop stop := by
  have hlen : (Hex.encode bytes.val).length = 2 * n := by
    rw [Hex.length_encode, bytes.property]
  have htake : (t.take stop).drop start = (t.drop start).take (2 * n) := by
    rw [List.drop_take]
    congr 1
    omega
  have hdrop : t.drop stop = (t.drop start).drop (2 * n) := by
    rw [List.drop_drop, hstop]
  rw [hexField, Checked.bind_eq_ok]
  constructor
  · rintro ⟨field, hfield, h⟩
    split at h
    · rename_i bytes' hdec
      obtain rfl := Except.ok.inj h
      unfold slice at hfield
      split at hfield
      · rename_i hbounds
        rw [← decodeHex_eq_some.mp hdec, ← Except.ok.inj hfield, htake, hdrop,
          List.take_append_drop]
      · simp at hfield
    · simp [fail] at h
  · intro h
    have hle : stop ≤ t.length := by
      have := congrArg List.length h
      rw [List.length_append, hlen, List.length_drop, List.length_drop] at this
      omega
    refine ⟨Hex.encode bytes.val, ?_, ?_⟩
    · rw [slice_of_le (by omega) hle, htake, h, List.take_left' hlen]
    · rw [decodeHex_eq_some.mpr rfl]

theorem hexField_error {n : Nat} {t : List UInt8} {start stop : Nat} {message : String} {e : Fail}
    (hle : start ≤ stop) (hstop : stop ≤ t.length)
    (h : hexField n t start stop message = .error e) :
    e = ⟨.invalidArgument, message⟩ := by
  rw [hexField, slice_of_le hle hstop, Checked.ok_bind] at h
  split at h
  · simp at h
  · exact (Except.error.inj h).symm

/-- A one-byte field has a first byte. -/
theorem index_one (field : Bytes 1) : ∃ b, field.val = [b] ∧ index field.val 0 = .ok b := by
  obtain ⟨b, hb⟩ := List.length_eq_one_iff.mp field.property
  exact ⟨b, hb, by rw [hb]; rfl⟩

theorem checkTrailing_ok {t : List UInt8} {u : Unit} :
    checkTrailing t = .ok u ↔
      t.drop traceparentLen = [] ∨ ∃ tail, t.drop traceparentLen = 0x2D :: tail := by
  unfold checkTrailing
  by_cases h : t.length > traceparentLen
  · rw [if_pos h, expectDash_ok]
    have hne : t.drop traceparentLen ≠ [] := by
      rw [Ne, List.drop_eq_nil_iff]
      omega
    constructor
    · exact fun heq => .inr ⟨_, heq⟩
    · rintro (heq | ⟨tail, heq⟩)
      · exact absurd heq hne
      · have := List.drop_drop (i := 1) (j := traceparentLen) (l := t)
        rw [heq] at this
        rw [heq, ← this]
        rfl
  · rw [if_neg h]
    simp [List.drop_eq_nil_of_le (Nat.le_of_not_gt h)]

/-! ### The whole reader -/

/-- **The reader accepts exactly the grammar.** -/
theorem parseTraceparent_ok_iff {t : List UInt8} {fields : Traceparent} :
    parseTraceparent t = .ok fields ↔ ∃ version rest, Spells t version fields rest := by
  constructor
  · intro h
    unfold parseTraceparent at h
    simp only [fail] at h
    obtain ⟨hlen, h⟩ := Checked.guard_eq_ok.mp h
    obtain ⟨_, h2, h⟩ := Checked.bind_eq_ok.mp h
    obtain ⟨_, h35, h⟩ := Checked.bind_eq_ok.mp h
    obtain ⟨_, h52, h⟩ := Checked.bind_eq_ok.mp h
    obtain ⟨versionField, hversion, h⟩ := Checked.bind_eq_ok.mp h
    obtain ⟨version, hv, hindex⟩ := index_one versionField
    rw [hindex, Checked.ok_bind] at h
    obtain ⟨hff, h⟩ := Checked.guard_eq_ok.mp h
    obtain ⟨hzero, h⟩ := Checked.guard_eq_ok.mp h
    obtain ⟨_, htrailing, h⟩ := Checked.bind_eq_ok.mp h
    obtain ⟨traceId, htrace, h⟩ := Checked.bind_eq_ok.mp h
    obtain ⟨spanId, hspan, h⟩ := Checked.bind_eq_ok.mp h
    obtain ⟨flagsField, hflags, h⟩ := Checked.bind_eq_ok.mp h
    obtain ⟨flags, hf, hindexf⟩ := index_one flagsField
    rw [hindexf, Checked.ok_bind] at h
    obtain ⟨htraceNe, h⟩ := Checked.guard_eq_ok.mp h
    obtain ⟨hspanNe, h⟩ := Checked.guard_eq_ok.mp h
    obtain rfl := Except.ok.inj h
    rw [hexField_ok (by omega) (by omega)] at hversion htrace hspan hflags
    rw [expectDash_ok] at h2 h35 h52
    rw [checkTrailing_ok] at htrailing
    rw [hv] at hversion
    rw [hf] at hflags
    refine ⟨version, t.drop traceparentLen, ⟨?_, hff, htraceNe, hspanNe, fun hv0 => ?_, htrailing⟩⟩
    · calc t = t.drop 0 := rfl
        _ = _ := by rw [hversion, h2, htrace, h35, hspan, h52, hflags]; rfl
    · rw [List.drop_eq_nil_iff]
      have : t.length = traceparentLen := by
        by_contra hne
        exact hzero ⟨hv0, hne⟩
      omega
  · rintro ⟨version, rest, h⟩
    have hlen := h.length_eq
    have htraceLen : (Hex.encode fields.traceId.val).length = 32 := by
      rw [Hex.length_encode, fields.traceId.property]
    have hspanLen : (Hex.encode fields.spanId.val).length = 16 := by
      rw [Hex.length_encode, fields.spanId.property]
    -- what stands at each offset, from the front to the back
    have d2 : t.drop 2 = 0x2D :: (Hex.encode fields.traceId.val ++ 0x2D ::
        (Hex.encode fields.spanId.val ++ 0x2D :: (Hex.encode [fields.traceFlags] ++ rest))) := by
      rw [h.eq]
      exact List.drop_left' (by simp)
    have d3 : t.drop 3 = Hex.encode fields.traceId.val ++ 0x2D ::
        (Hex.encode fields.spanId.val ++ 0x2D :: (Hex.encode [fields.traceFlags] ++ rest)) := by
      rw [← List.drop_drop (i := 1) (j := 2), d2]
      rfl
    have d35 : t.drop 35 =
        0x2D :: (Hex.encode fields.spanId.val ++ 0x2D :: (Hex.encode [fields.traceFlags] ++ rest)) := by
      rw [← List.drop_drop (i := 32) (j := 3), d3]
      exact List.drop_left' htraceLen
    have d36 : t.drop 36 =
        Hex.encode fields.spanId.val ++ 0x2D :: (Hex.encode [fields.traceFlags] ++ rest) := by
      rw [← List.drop_drop (i := 1) (j := 35), d35]
      rfl
    have d52 : t.drop 52 = 0x2D :: (Hex.encode [fields.traceFlags] ++ rest) := by
      rw [← List.drop_drop (i := 16) (j := 36), d36]
      exact List.drop_left' hspanLen
    have d53 : t.drop 53 = Hex.encode [fields.traceFlags] ++ rest := by
      rw [← List.drop_drop (i := 1) (j := 52), d52]
      rfl
    have d55 : t.drop traceparentLen = rest := by
      rw [traceparentLen, ← List.drop_drop (i := 2) (j := 53), d53]
      exact List.drop_left' (by simp)
    have hversion : hexField 1 t 0 2 "traceparent version is not hex" = .ok ⟨[version], rfl⟩ := by
      rw [hexField_ok (by omega) (by omega), d2]
      exact h.eq
    have htrace : hexField 16 t 3 35 "trace-id is not lowercase hex" = .ok fields.traceId := by
      rw [hexField_ok (by omega) (by omega), d3, d35]
    have hspan : hexField 8 t 36 52 "parent-id is not lowercase hex" = .ok fields.spanId := by
      rw [hexField_ok (by omega) (by omega), d36, d52]
    have hflags : hexField 1 t 53 55 "trace-flags is not hex" = .ok ⟨[fields.traceFlags], rfl⟩ := by
      rw [hexField_ok (by omega) (by omega), d53, ← traceparentLen, d55]
    have hdash2 : expectDash t 2 "traceparent has malformed separators" = .ok () := by
      rw [expectDash_ok, d2, d3]
    have hdash35 : expectDash t 35 "traceparent has malformed separators" = .ok () := by
      rw [expectDash_ok, d35, d36]
    have hdash52 : expectDash t 52 "traceparent has malformed separators" = .ok () := by
      rw [expectDash_ok, d52, d53]
    have htrailing : checkTrailing t = .ok () := by
      rw [checkTrailing_ok, d55]
      exact h.rest_dash
    have hindex : index [version] 0 = .ok version := rfl
    have hindexf : index [fields.traceFlags] 0 = .ok fields.traceFlags := rfl
    have hzero : ¬(version = 0x00 ∧ t.length ≠ traceparentLen) := by
      rintro ⟨hv0, hne⟩
      rw [h.rest_of_zero hv0] at hlen
      exact hne hlen
    unfold parseTraceparent
    simp only [hdash2, hdash35, hdash52, hversion, hindex, htrailing, htrace, hspan, hflags,
      hindexf, Checked.ok_bind]
    rw [if_neg (by rw [traceparentLen]; omega), if_neg h.version_ne, if_neg hzero,
      if_neg h.traceId_ne, if_neg h.spanId_ne]

/-- A refusal names what is wrong; no index is ever out of range. -/
theorem parseTraceparent_error {t : List UInt8} {e : Fail} (h : parseTraceparent t = .error e) :
    e.status = .invalidArgument := by
  unfold parseTraceparent at h
  simp only [fail] at h
  rcases Checked.guard_eq_error.mp h with ⟨-, rfl⟩ | ⟨hlen, h⟩
  · rfl
  rw [Nat.not_lt, traceparentLen] at hlen
  rcases Checked.bind_eq_error.mp h with h | ⟨_, -, h⟩
  · rw [expectDash_error (by omega) h]
  rcases Checked.bind_eq_error.mp h with h | ⟨_, -, h⟩
  · rw [expectDash_error (by omega) h]
  rcases Checked.bind_eq_error.mp h with h | ⟨_, -, h⟩
  · rw [expectDash_error (by omega) h]
  rcases Checked.bind_eq_error.mp h with h | ⟨versionField, -, h⟩
  · rw [hexField_error (by omega) (by omega) h]
  obtain ⟨version, -, hindex⟩ := index_one versionField
  rw [hindex, Checked.ok_bind] at h
  rcases Checked.guard_eq_error.mp h with ⟨-, rfl⟩ | ⟨-, h⟩
  · rfl
  rcases Checked.guard_eq_error.mp h with ⟨-, rfl⟩ | ⟨-, h⟩
  · rfl
  rcases Checked.bind_eq_error.mp h with h | ⟨_, -, h⟩
  · unfold checkTrailing at h
    split at h
    · rename_i hlong
      rw [expectDash_error (by omega) h]
    · simp at h
  rcases Checked.bind_eq_error.mp h with h | ⟨_, -, h⟩
  · rw [hexField_error (by omega) (by omega) h]
  rcases Checked.bind_eq_error.mp h with h | ⟨_, -, h⟩
  · rw [hexField_error (by omega) (by omega) h]
  rcases Checked.bind_eq_error.mp h with h | ⟨flagsField, -, h⟩
  · rw [hexField_error (by omega) (by omega) h]
  obtain ⟨flags, -, hindexf⟩ := index_one flagsField
  rw [hindexf, Checked.ok_bind] at h
  rcases Checked.guard_eq_error.mp h with ⟨-, rfl⟩ | ⟨-, h⟩
  · rfl
  rcases Checked.guard_eq_error.mp h with ⟨-, rfl⟩ | ⟨-, h⟩
  · rfl
  simp at h

/-! ### Reading and writing -/

theorem len_encodeHex (bytes : List UInt8) : (encodeHex bytes).len = 2 * bytes.length := by
  rw [Str.len, encode_encodeHex, Hex.length_encode]

/-- The bytes a context is written as. -/
theorem renderTraceparent_ok (context : SpanContextData) :
    ∃ text : Str, renderTraceparent context = .ok text ∧ text.len = traceparentLen ∧
      Utf8.encode text = Hex.encode [0x00] ++ 0x2D :: (Hex.encode context.traceId.val ++
        0x2D :: (Hex.encode context.spanId.val ++ 0x2D :: Hex.encode [context.traceFlags])) := by
  refine ⟨_, rfl, ?_, ?_⟩
  · have htrace := context.traceId.property
    have hspan := context.spanId.property
    have hfront : (lit "00-").len = 3 := rfl
    have hdash : (lit "-").len = 1 := rfl
    simp only [SpanContextData.view, Str.len_append, len_encodeHex, htrace, hspan, hfront, hdash,
      List.length_singleton, traceparentLen]
  · simp only [SpanContextData.view, Utf8.encode_append, encode_encodeHex, List.append_assoc]
    rfl

/-- What is written for a context with ids spells its ids and flags under version 00. -/
theorem spells_render {context : SpanContextData} (h : context.isValid = true) {text : Str}
    (htext : renderTraceparent context = .ok text) :
    Spells (Utf8.encode text) 0x00 ⟨context.traceId, context.spanId, context.traceFlags⟩ [] := by
  obtain ⟨text', hrender, -, hbytes⟩ := renderTraceparent_ok context
  rw [htext] at hrender
  obtain rfl := Except.ok.inj hrender
  simp only [SpanContextData.isValid, Bool.and_eq_true, decide_eq_true_eq] at h
  exact ⟨by rw [hbytes, List.append_nil], by decide, h.1, h.2, fun _ => rfl, .inl rfl⟩

theorem parseTraceparent_render {context : SpanContextData} (h : context.isValid = true) {text : Str}
    (htext : renderTraceparent context = .ok text) :
    parseTraceparent (Utf8.encode text) =
      .ok ⟨context.traceId, context.spanId, context.traceFlags⟩ :=
  parseTraceparent_ok_iff.mpr ⟨_, _, spells_render h htext⟩

theorem extractBody_eq {traceparent tracestate : OtelStringView} {t ts : Str}
    (ht : asStr traceparent = .ok t) (hts : asStr tracestate = .ok ts) :
    extractBody traceparent tracestate = (do
      let tp ← parseTraceparent (Utf8.encode t)
      .ok ⟨tp.traceId, tp.spanId, tp.traceFlags, true, if validateTracestate ts then ts else []⟩) := by
  rw [extractBody, ht, Checked.ok_bind]
  cases parseTraceparent (Utf8.encode t) with
  | error e => rfl
  | ok tp => rw [Checked.ok_bind, Checked.ok_bind, hts, Checked.ok_bind]

/-- What was extracted spells a traceparent, so its ids are non-zero. -/
theorem extractBody_ok {traceparent tracestate : OtelStringView} {context : SpanContextData}
    (h : extractBody traceparent tracestate = .ok context) :
    ∃ t ts version rest, asStr traceparent = .ok t ∧ asStr tracestate = .ok ts ∧
      Spells (Utf8.encode t) version ⟨context.traceId, context.spanId, context.traceFlags⟩ rest ∧
      context.isRemote = true ∧
      context.traceState = if validateTracestate ts then ts else [] := by
  obtain ⟨t, ht, h⟩ := Checked.bind_eq_ok.mp h
  obtain ⟨tp, htp, h⟩ := Checked.bind_eq_ok.mp h
  obtain ⟨ts, hts, h⟩ := Checked.bind_eq_ok.mp h
  obtain rfl := Except.ok.inj h
  obtain ⟨version, rest, hspells⟩ := parseTraceparent_ok_iff.mp htp
  exact ⟨t, ts, version, rest, ht, hts, hspells, rfl, rfl⟩

theorem isValid_of_spells {context : SpanContextData} {t : List UInt8} {version : UInt8}
    {rest : List UInt8}
    (h : Spells t version ⟨context.traceId, context.spanId, context.traceFlags⟩ rest) :
    context.isValid = true := by
  have htrace : context.traceId ≠ Bytes.zero 16 := h.traceId_ne
  have hspan : context.spanId ≠ Bytes.zero 8 := h.spanId_ne
  simp [SpanContextData.isValid, htrace, hspan]

/-- **Reading and writing a traceparent are inverse to each other.**  For every text `t` and every
acceptable trace state: extraction succeeds exactly when `t` is in the grammar; a failed extraction
leaves NULL and is never a panic; a context read from version 00 is written as `t` again; and every
context with ids is written as a text that is read back with the same ids and flags. -/
theorem traceparent_codec (traceparent tracestate : OtelStringView) (t ts : Str)
    (ht : asStr traceparent = .ok t) (hts : asStr tracestate = .ok ts) :
    ((otelTracePropagationExtract traceparent tracestate false).status = .ok ↔
      ∃ version fields rest, Spells (Utf8.encode t) version fields rest) ∧
    (∀ tp' ts', (otelTracePropagationExtract tp' ts' false).status ≠ .ok →
      (otelTracePropagationExtract tp' ts' false).out = some none) ∧
    (otelTracePropagationExtract traceparent tracestate false).status ≠ .internalError ∧
    (∀ context,
      (otelTracePropagationExtract traceparent tracestate false).out = some (some context) →
      (∃ rest, Spells (Utf8.encode t) 0x00
        ⟨context.traceId, context.spanId, context.traceFlags⟩ rest) →
      otelTracePropagationInjectTraceparent (.live context) false traceparentLen false =
        ⟨.ok, none, some traceparentLen, some (Utf8.encode t)⟩) ∧
    ∀ context : SpanContextData, context.isValid = true → ∃ text context',
      otelTracePropagationInjectTraceparent (.live context) false traceparentLen false =
        ⟨.ok, none, some traceparentLen, some (Utf8.encode text)⟩ ∧
      (otelTracePropagationExtract (viewOf text) tracestate false).out = some (some context') ∧
      context'.traceId = context.traceId ∧ context'.spanId = context.spanId ∧
      context'.traceFlags = context.traceFlags := by
  refine ⟨?_, fun _ _ => out_of_status_ne_ok, ?_, ?_, ?_⟩
  · rw [otelTracePropagationExtract, extractBody_eq ht hts]
    constructor
    · intro h
      cases htp : parseTraceparent (Utf8.encode t) with
      | error e =>
        rw [htp, Checked.error_bind, withOut_error] at h
        have := parseTraceparent_error htp
        rw [this] at h
        simp at h
      | ok tp =>
        obtain ⟨version, rest, hspells⟩ := parseTraceparent_ok_iff.mp htp
        exact ⟨version, tp, rest, hspells⟩
    · rintro ⟨version, fields, rest, hspells⟩
      rw [parseTraceparent_ok_iff.mpr ⟨version, rest, hspells⟩]
      rfl
  · rw [otelTracePropagationExtract, extractBody_eq ht hts]
    cases htp : parseTraceparent (Utf8.encode t) with
    | error e =>
      rw [Checked.error_bind, withOut_error]
      have := parseTraceparent_error htp
      simp [this]
    | ok tp => simp [withOut]
  · rintro context hout ⟨rest, hspells⟩
    obtain ⟨text, hrender, hlen, hbytes⟩ := renderTraceparent_ok context
    have hwritten : Utf8.encode text = Utf8.encode t := by
      rw [hbytes, hspells.eq, hspells.rest_of_zero rfl, List.append_nil]
    rw [otelTracePropagationInjectTraceparent,
      inject_live (isValid_of_spells hspells) hrender hlen.le, hlen, hwritten]
  · intro context hvalid
    obtain ⟨text, hrender, hlen, -⟩ := renderTraceparent_ok context
    have hview : asStr (viewOf text) = .ok text := asStr_viewOf (by rw [hlen]; decide)
    refine ⟨text, ⟨context.traceId, context.spanId, context.traceFlags, true,
      if validateTracestate ts then ts else []⟩, ?_, ?_, rfl, rfl, rfl⟩
    · rw [otelTracePropagationInjectTraceparent, inject_live hvalid hrender hlen.le, hlen]
    · rw [otelTracePropagationExtract, extractBody_eq hview hts,
        parseTraceparent_render hvalid hrender]
      rfl

/-- A version-00 header is accepted, one with uppercase digits is not. -/
theorem traceparent_codec_example :
    ((otelTracePropagationExtract
      (viewOf (lit "00-0af7651916cd43dd8448eb211c80319c-b7ad6b7169203331-01")) (viewOf [])
      false).status = .ok ↔ ∃ version fields rest, Spells
        (Utf8.encode (lit "00-0af7651916cd43dd8448eb211c80319c-b7ad6b7169203331-01"))
        version fields rest) ∧
    ((otelTracePropagationExtract
      (viewOf (lit "00-0AF7651916cd43dd8448eb211c80319c-b7ad6b7169203331-01")) (viewOf [])
      false).status = .ok ↔ ∃ version fields rest, Spells
        (Utf8.encode (lit "00-0AF7651916cd43dd8448eb211c80319c-b7ad6b7169203331-01"))
        version fields rest) :=
  ⟨(traceparent_codec _ _ _ _ (asStr_viewOf (by decide)) (asStr_viewOf (by decide))).1,
    (traceparent_codec _ _ _ _ (asStr_viewOf (by decide)) (asStr_viewOf (by decide))).1⟩

end OtelC.Trace
