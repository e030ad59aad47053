import OtelC.Lib.Hex

/-!
# Percent encoding

A byte is written as itself when `literal` admits it and as `%HH` otherwise; the reader takes
`%HH` in either case and every other byte as itself.  `validEscapes` checks the escapes without
decoding.

* `decode_encode`: what was written is read back, whenever `%` itself is never literal.
-/

namespace Percent

/-- Write one byte. -/
def encodeByte (literal : UInt8 → Bool) (b : UInt8) : List UInt8 :=
  if literal b then [b]
  else [0x25, Hex.upper (b.toNat / 16), Hex.upper (b.toNat % 16)]

def encode (literal : UInt8 → Bool) (bytes : List UInt8) : List UInt8 :=
  bytes.flatMap (encodeByte literal)

/-- Read a byte list; `none` at a `%` that two hexadecimal digits do not follow. -/
def decode : List UInt8 → Option (List UInt8)
  | [] => some []
  | b :: rest =>
    if b = 0x25 then
      match rest with
      | hi :: lo :: rest => do
        let h ← Hex.value? hi
        let l ← Hex.value? lo
        let bytes ← decode rest
        some (Hex.byte h l :: bytes)
      | _ => none
    else (decode rest).map (b :: ·)

/-- Every `%` is followed by two hexadecimal digits. -/
def validEscapes : List UInt8 → Bool
  | [] => true
  | b :: rest =>
    if b = 0x25 then
      match rest with
      | hi :: lo :: rest => (Hex.value? hi).isSome && (Hex.value? lo).isSome && validEscapes rest
      | _ => false
    else validEscapes rest

variable {literal : UInt8 → Bool}

@[simp] theorem encode_nil : encode literal [] = [] := rfl

@[simp] theorem encode_cons (b : UInt8) (bytes : List UInt8) :
    encode literal (b :: bytes) = encodeByte literal b ++ encode literal bytes := rfl

theorem decode_literal {b : UInt8} (h : b ≠ 0x25) (rest : List UInt8) :
    decode (b :: rest) = (decode rest).map (b :: ·) := by
  conv_lhs => unfold decode
  rw [if_neg h]

theorem decode_escape (hi lo : UInt8) (rest : List UInt8) :
    decode (0x25 :: hi :: lo :: rest) =
      (Hex.value? hi).bind fun h => (Hex.value? lo).bind fun l =>
        (decode rest).bind fun bytes => some (Hex.byte h l :: bytes) := by
  rw [decode, if_pos rfl]
  rfl

theorem validEscapes_literal {b : UInt8} (h : b ≠ 0x25) (rest : List UInt8) :
    validEscapes (b :: rest) = validEscapes rest := by
  conv_lhs => unfold validEscapes
  rw [if_neg h]

theorem validEscapes_escape (hi lo : UInt8) (rest : List UInt8) :
    validEscapes (0x25 :: hi :: lo :: rest) =
      ((Hex.value? hi).isSome && (Hex.value? lo).isSome && validEscapes rest) := by
  rw [validEscapes, if_pos rfl]

/-- The escapes are in order just when they can be decoded. -/
theorem isSome_decode (l : List UInt8) : (decode l).isSome = validEscapes l := by
  induction l using validEscapes.induct with
  | case1 => rfl
  | case2 hi lo rest ih =>
    rw [decode_escape, validEscapes_escape, ← ih]
    cases Hex.value? hi with
    | none => rfl
    | some h =>
      cases Hex.value? lo with
      | none => rfl
      | some l => cases decode rest <;> rfl
  | case3 rest hshort =>
    rw [decode.eq_def, validEscapes.eq_def]
    match rest, hshort with
    | [], _ => rfl
    | [_], _ => rfl
    | hi :: lo :: rest, hshort => exact absurd rfl (hshort hi lo rest)
  | case4 b rest h ih =>
    rw [decode_literal h, validEscapes_literal h, Option.isSome_map, ih]

theorem decode_encode (hpct : literal 0x25 = false) (bytes : List UInt8) :
    decode (encode literal bytes) = some bytes := by
  induction bytes with
  | nil => rfl
  | cons b bytes ih =>
    rw [encode_cons, encodeByte]
    split
    · rename_i hb
      have hne : b ≠ 0x25 := by
        rintro rfl
        simp [hpct] at hb
      rw [List.singleton_append, decode_literal hne, ih]
      rfl
    · rw [List.cons_append, List.cons_append, List.singleton_append, decode_escape,
        Hex.value?_upper (Hex.div_lt b), Hex.value?_upper (Hex.mod_lt b), ih]
      simp

/-- A written byte is literal, `%`, or a hexadecimal digit. -/
theorem mem_encode {b : UInt8} {bytes : List UInt8} (h : b ∈ encode literal bytes) :
    literal b = true ∨ b = 0x25 ∨ ∃ n < 16, b = Hex.upper n := by
  obtain ⟨a, -, hb⟩ := List.mem_flatMap.mp h
  rw [encodeByte] at hb
  split at hb
  · rename_i ha
    obtain rfl : b = a := by simpa using hb
    exact .inl ha
  · simp only [List.mem_cons, List.not_mem_nil, or_false] at hb
    rcases hb with rfl | rfl | rfl
    · exact .inr (.inl rfl)
    · exact .inr (.inr ⟨_, Hex.div_lt a, rfl⟩)
    · exact .inr (.inr ⟨_, Hex.mod_lt a, rfl⟩)

/-- Decoded bytes weigh no more than the bytes they were read from, when a byte that stood for itself
weighs one at most and any other three. -/
theorem sum_le_of_decode {w : UInt8 → Nat} (hw : ∀ b, w b ≤ 3) {l bytes : List UInt8}
    (h : decode l = some bytes) (hlit : ∀ b ∈ l, b ≠ 0x25 → w b ≤ 1) :
    (bytes.map w).sum ≤ l.length := by
  induction l using decode.induct generalizing bytes with
  | case1 =>
    obtain rfl : bytes = [] := by simpa [decode, eq_comm] using h
    simp
  | case2 hi lo rest ih =>
    rw [decode_escape] at h
    simp only [Option.bind_eq_some_iff, Option.some.injEq] at h
    obtain ⟨a, -, b, -, tail, htail, rfl⟩ := h
    have hih := ih htail (fun c hc => hlit c (by simp [hc]))
    have := hw (Hex.byte a b)
    simp only [List.map_cons, List.sum_cons, List.length_cons]
    omega
  | case3 rest hshort =>
    rw [decode, if_pos rfl] at h
    · simp at h
    · exact hshort
  | case4 b rest hne ih =>
    rw [decode_literal hne] at h
    obtain ⟨tail, htail, rfl⟩ := Option.map_eq_some_iff.mp h
    have hih := ih htail (fun c hc => hlit c (by simp [hc]))
    have hb := hlit b (by simp) hne
    simp only [List.map_cons, List.sum_cons, List.length_cons]
    omega

end Percent
