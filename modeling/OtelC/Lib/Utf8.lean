import Mathlib.Data.List.Basic
import Mathlib.Tactic.Linarith

/-!
# UTF-8

Texts are lists of scalar values and their encodings are lists of bytes.  `next` reads one
scalar value off a byte list, or the longest prefix that a well-formed sequence could start with;
`decode` repeats it.  From `decode` come the strict reading `fromUtf8` and the lossy one
`fromUtf8Lossy`, which puts U+FFFD in the place of every ill-formed prefix.

* `fromUtf8_eq_some`: the strict reading accepts exactly the encodings.
* `fromUtf8Lossy_encode`: the lossy reading changes no well-formed text.
* `forall_encode_iff`: a predicate that only ASCII bytes satisfy, read on bytes and on characters.
-/

namespace Utf8

/-! ### Encoding -/

/-- The UTF-8 bytes of a text. -/
def encode (s : List Char) : List UInt8 :=
  s.flatMap String.utf8EncodeChar

@[simp] theorem encode_nil : encode [] = [] := rfl

@[simp] theorem encode_cons (c : Char) (s : List Char) :
    encode (c :: s) = String.utf8EncodeChar c ++ encode s := rfl

@[simp] theorem encode_append (s t : List Char) : encode (s ++ t) = encode s ++ encode t := by
  simp [encode]

theorem utf8EncodeChar_ne_nil (c : Char) : String.utf8EncodeChar c ≠ [] := by
  intro h
  have := String.length_utf8EncodeChar c
  rw [h] at this
  exact absurd this.symm (Char.utf8Size_pos c).ne'

@[simp] theorem encode_eq_nil {s : List Char} : encode s = [] ↔ s = [] := by
  cases s with
  | nil => simp
  | cons c s => simp

theorem isValidChar_toNat (c : Char) :
    c.toNat < 0xD800 ∨ 0xDFFF < c.toNat ∧ c.toNat < 0x110000 :=
  c.valid

theorem utf8EncodeChar_eq (c : Char) :
    String.utf8EncodeChar c =
      if c.toNat ≤ 0x7F then [UInt8.ofNat c.toNat]
      else if c.toNat ≤ 0x7FF then
        [UInt8.ofNat (c.toNat / 64 % 32 + 0xC0), UInt8.ofNat (c.toNat % 64 + 0x80)]
      else if c.toNat ≤ 0xFFFF then
        [UInt8.ofNat (c.toNat / 4096 % 16 + 0xE0), UInt8.ofNat (c.toNat / 64 % 64 + 0x80),
          UInt8.ofNat (c.toNat % 64 + 0x80)]
      else
        [UInt8.ofNat (c.toNat / 262144 % 8 + 0xF0), UInt8.ofNat (c.toNat / 4096 % 64 + 0x80),
          UInt8.ofNat (c.toNat / 64 % 64 + 0x80), UInt8.ofNat (c.toNat % 64 + 0x80)] :=
  rfl

theorem utf8EncodeChar_ascii {c : Char} (h : c.toNat < 0x80) :
    String.utf8EncodeChar c = [UInt8.ofNat c.toNat] := by
  rw [utf8EncodeChar_eq, if_pos (by omega)]

/-- A character beyond ASCII has no ASCII byte. -/
theorem utf8EncodeChar_high {c : Char} (h : 0x80 ≤ c.toNat) :
    ∀ b ∈ String.utf8EncodeChar c, 0x80 ≤ b.toNat := by
  intro b hb
  rw [utf8EncodeChar_eq, if_neg (by omega)] at hb
  split at hb
  · simp only [List.mem_cons, List.not_mem_nil, or_false] at hb
    rcases hb with rfl | rfl <;> simp only [UInt8.toNat_ofNat'] <;> omega
  · split at hb
    · simp only [List.mem_cons, List.not_mem_nil, or_false] at hb
      rcases hb with rfl | rfl | rfl <;> simp only [UInt8.toNat_ofNat'] <;> omega
    · simp only [List.mem_cons, List.not_mem_nil, or_false] at hb
      rcases hb with rfl | rfl | rfl | rfl <;> simp only [UInt8.toNat_ofNat'] <;> omega

/-- A predicate that only ASCII bytes satisfy holds of all bytes of a text just when the text is
ASCII and the predicate holds of its characters. -/
theorem forall_encode_iff {p : UInt8 → Prop} (hp : ∀ b, p b → b.toNat < 0x80) (s : List Char) :
    (∀ b ∈ encode s, p b) ↔ ∀ c ∈ s, c.toNat < 0x80 ∧ p (UInt8.ofNat c.toNat) := by
  induction s with
  | nil => simp
  | cons c s ih =>
    rw [encode_cons, List.forall_mem_append, List.forall_mem_cons, ih]
    refine and_congr_left fun _ => ?_
    by_cases h : c.toNat < 0x80
    · simp [utf8EncodeChar_ascii h, h]
    · refine iff_of_false (fun hall => ?_) (fun hc => h hc.1)
      obtain ⟨b, hb⟩ := List.exists_mem_of_ne_nil _ (utf8EncodeChar_ne_nil c)
      have := utf8EncodeChar_high (by omega) b hb
      have := hp b (hall b hb)
      omega

/-- An ASCII text has one byte for each character. -/
theorem length_encode_of_ascii {s : List Char} (h : ∀ c ∈ s, c.toNat < 0x80) :
    (encode s).length = s.length := by
  induction s with
  | nil => rfl
  | cons c s ih =>
    obtain ⟨hc, hs⟩ := List.forall_mem_cons.mp h
    rw [encode_cons, List.length_append, utf8EncodeChar_ascii hc, ih hs, List.length_singleton,
      List.length_cons, Nat.add_comm]

/-- An ASCII character's byte is a byte of the text. -/
theorem mem_encode_of_ascii {s : List Char} {c : Char} (hc : c ∈ s) (h : c.toNat < 0x80) :
    UInt8.ofNat c.toNat ∈ encode s := by
  rw [encode, List.mem_flatMap]
  exact ⟨c, hc, by simp [utf8EncodeChar_ascii h]⟩

/-- An ASCII byte of a text is one of its characters. -/
theorem mem_of_mem_encode_ascii {s : List Char} {b : UInt8} (hb : b ∈ encode s)
    (h : b.toNat < 0x80) : Char.ofNat b.toNat ∈ s := by
  obtain ⟨c, hc, hb⟩ := List.mem_flatMap.mp hb
  by_cases hlt : c.toNat < 0x80
  · rw [utf8EncodeChar_ascii hlt, List.mem_singleton] at hb
    have hbc : b.toNat = c.toNat := by
      rw [hb, UInt8.toNat_ofNat']
      omega
    rwa [hbc, Char.ofNat_toNat]
  · have := utf8EncodeChar_high (by omega) b hb
    omega

/-- How long a sequence a lead byte beyond ASCII opens; `0` when it opens none. -/
def width (b : UInt8) : Nat :=
  if 0xC2 ≤ b.toNat ∧ b.toNat ≤ 0xDF then 2
  else if 0xE0 ≤ b.toNat ∧ b.toNat ≤ 0xEF then 3
  else if 0xF0 ≤ b.toNat ∧ b.toNat ≤ 0xF4 then 4
  else 0

def isCont (b : UInt8) : Bool :=
  0x80 ≤ b.toNat && b.toNat ≤ 0xBF

/-- The second byte a lead byte admits: no overlong form, no surrogate, nothing past U+10FFFF. -/
def secondOk (b0 b1 : UInt8) : Bool :=
  if b0.toNat = 0xE0 then 0xA0 ≤ b1.toNat && b1.toNat ≤ 0xBF
  else if b0.toNat = 0xED then 0x80 ≤ b1.toNat && b1.toNat ≤ 0x9F
  else if b0.toNat = 0xF0 then 0x90 ≤ b1.toNat && b1.toNat ≤ 0xBF
  else if b0.toNat = 0xF4 then 0x80 ≤ b1.toNat && b1.toNat ≤ 0x8F
  else isCont b1

def next2 (b0 : UInt8) : List UInt8 → Option Char × Nat
  | b1 :: _ =>
    if isCont b1 then (some (Char.ofNat ((b0.toNat - 0xC0) * 64 + (b1.toNat - 0x80))), 2)
    else (none, 1)
  | [] => (none, 1)

def next3 (b0 : UInt8) : List UInt8 → Option Char × Nat
  | b1 :: b2 :: _ =>
    if secondOk b0 b1 then
      if isCont b2 then
        (some (Char.ofNat
          ((b0.toNat - 0xE0) * 4096 + (b1.toNat - 0x80) * 64 + (b2.toNat - 0x80))), 3)
      else (none, 2)
    else (none, 1)
  | [b1] => if secondOk b0 b1 then (none, 2) else (none, 1)
  | [] => (none, 1)

def next4 (b0 : UInt8) : List UInt8 → Option Char × Nat
  | b1 :: b2 :: b3 :: _ =>
    if secondOk b0 b1 then
      if isCont b2 then
        if isCont b3 then
          (some (Char.ofNat ((b0.toNat - 0xF0) * 262144 + (b1.toNat - 0x80) * 4096 +
            (b2.toNat - 0x80) * 64 + (b3.toNat - 0x80))), 4)
        else (none, 3)
      else (none, 2)
    else (none, 1)
  | [b1, b2] => if secondOk b0 b1 then if isCont b2 then (none, 3) else (none, 2) else (none, 1)
  | [b1] => if secondOk b0 b1 then (none, 2) else (none, 1)
  | [] => (none, 1)

/-- Read one scalar value and the number of bytes it took; with `none`, the number of bytes of
an ill-formed prefix. -/
def next : List UInt8 → Option Char × Nat
  | [] => (none, 0)
  | b0 :: rest =>
    if b0.toNat < 0x80 then (some (Char.ofNat b0.toNat), 1)
    else if width b0 = 2 then next2 b0 rest
    else if width b0 = 3 then next3 b0 rest
    else if width b0 = 4 then next4 b0 rest
    else (none, 1)

theorem next_pos {l : List UInt8} (h : l ≠ []) : 0 < (next l).2 := by
  cases l with
  | nil => exact absurd rfl h
  | cons b0 rest =>
    simp only [next]
    split_ifs
    · simp
    · unfold next2
      split <;> try split
      all_goals simp
    · unfold next3
      repeat' split
      all_goals simp
    · unfold next4
      repeat' split
      all_goals simp
    · simp

/-- Reading an encoded character gives the character back, whatever follows it. -/
theorem next_encodeChar (c : Char) (rest : List UInt8) :
    next (String.utf8EncodeChar c ++ rest) = (some c, c.utf8Size) := by
  have hvalid := isValidChar_toNat c
  have hlen := String.length_utf8EncodeChar c
  rw [utf8EncodeChar_eq] at hlen ⊢
  by_cases h1 : c.toNat ≤ 0x7F
  · rw [if_pos h1] at hlen ⊢
    have h0 : (UInt8.ofNat c.toNat).toNat = c.toNat := by
      rw [UInt8.toNat_ofNat']
      omega
    rw [List.singleton_append, next, if_pos (by omega), h0, Char.ofNat_toNat, ← hlen]
    rfl
  rw [if_neg h1] at hlen ⊢
  have hcont : ∀ n, isCont (UInt8.ofNat (n % 64 + 0x80)) = true := by
    intro n
    simp only [isCont, UInt8.toNat_ofNat', Bool.and_eq_true, decide_eq_true_eq]
    omega
  have hc : ∀ n, (UInt8.ofNat (n % 64 + 0x80)).toNat = n % 64 + 0x80 := by
    intro n
    rw [UInt8.toNat_ofNat']
    omega
  by_cases h2 : c.toNat ≤ 0x7FF
  · rw [if_pos h2] at hlen ⊢
    have h0 : (UInt8.ofNat (c.toNat / 64 % 32 + 0xC0)).toNat = c.toNat / 64 % 32 + 0xC0 := by
      rw [UInt8.toNat_ofNat']
      omega
    have hw : width (UInt8.ofNat (c.toNat / 64 % 32 + 0xC0)) = 2 := by
      rw [width, h0, if_pos (by omega)]
    rw [List.cons_append, List.singleton_append, next, if_neg (by omega), if_pos hw, next2,
      if_pos (hcont _), ← hlen, h0, hc,
      show (c.toNat / 64 % 32 + 0xC0 - 0xC0) * 64 + (c.toNat % 64 + 0x80 - 0x80) = c.toNat by omega,
      Char.ofNat_toNat]
    rfl
  rw [if_neg h2] at hlen ⊢
  by_cases h3 : c.toNat ≤ 0xFFFF
  · rw [if_pos h3] at hlen ⊢
    have h0 : (UInt8.ofNat (c.toNat / 4096 % 16 + 0xE0)).toNat = c.toNat / 4096 % 16 + 0xE0 := by
      rw [UInt8.toNat_ofNat']
      omega
    have hw : width (UInt8.ofNat (c.toNat / 4096 % 16 + 0xE0)) = 3 := by
      rw [width, h0, if_neg (by omega), if_pos (by omega)]
    have hsecond : secondOk (UInt8.ofNat (c.toNat / 4096 % 16 + 0xE0))
        (UInt8.ofNat (c.toNat / 64 % 64 + 0x80)) = true := by
      simp only [secondOk, isCont, h0, hc]
      split_ifs <;> simp only [Bool.and_eq_true, decide_eq_true_eq] <;> omega
    rw [List.cons_append, List.cons_append, List.singleton_append, next, if_neg (by omega),
      if_neg (by omega), if_pos hw, next3, if_pos hsecond, if_pos (hcont _), ← hlen, h0, hc, hc,
      show (c.toNat / 4096 % 16 + 0xE0 - 0xE0) * 4096 + (c.toNat / 64 % 64 + 0x80 - 0x80) * 64 +
        (c.toNat % 64 + 0x80 - 0x80) = c.toNat by omega, Char.ofNat_toNat]
    rfl
  · rw [if_neg h3] at hlen ⊢
    have h0 : (UInt8.ofNat (c.toNat / 262144 % 8 + 0xF0)).toNat = c.toNat / 262144 % 8 + 0xF0 := by
      rw [UInt8.toNat_ofNat']
      omega
    have hw : width (UInt8.ofNat (c.toNat / 262144 % 8 + 0xF0)) = 4 := by
      rw [width, h0, if_neg (by omega), if_neg (by omega), if_pos (by omega)]
    have hsecond : secondOk (UInt8.ofNat (c.toNat / 262144 % 8 + 0xF0))
        (UInt8.ofNat (c.toNat / 4096 % 64 + 0x80)) = true := by
      simp only [secondOk, isCont, h0, hc]
      split_ifs <;> simp only [Bool.and_eq_true, decide_eq_true_eq] <;> omega
    rw [List.cons_append, List.cons_append, List.cons_append, List.singleton_append, next,
      if_neg (by omega), if_neg (by omega), if_neg (by omega), if_pos hw, next4, if_pos hsecond,
      if_pos (hcont _), if_pos (hcont _), ← hlen, h0, hc, hc, hc,
      show (c.toNat / 262144 % 8 + 0xF0 - 0xF0) * 262144 +
        (c.toNat / 4096 % 64 + 0x80 - 0x80) * 4096 + (c.toNat / 64 % 64 + 0x80 - 0x80) * 64 +
        (c.toNat % 64 + 0x80 - 0x80) = c.toNat by omega, Char.ofNat_toNat]
    rfl

theorem toNat_charOfNat {n : Nat} (h : n.isValidChar) : (Char.ofNat n).toNat = n := by
  rw [Char.ofNat, dif_pos h]
  rfl

theorem ofNat_eq_byte {b : UInt8} {n : Nat} (h : n = b.toNat) : UInt8.ofNat n = b := by
  rw [h, UInt8.ofNat_toNat]

theorem secondOk_range {b0 b1 : UInt8} (h : secondOk b0 b1 = true) :
    0x80 ≤ b1.toNat ∧ b1.toNat ≤ 0xBF := by
  simp only [secondOk, isCont] at h
  split_ifs at h <;> simp only [Bool.and_eq_true, decide_eq_true_eq] at h <;> omega

/-- The second byte rules out overlong forms, surrogates and values past U+10FFFF. -/
theorem secondOk_scalar {b0 b1 : UInt8} (h : secondOk b0 b1 = true) :
    (b0.toNat = 0xE0 → 0xA0 ≤ b1.toNat) ∧ (b0.toNat = 0xED → b1.toNat ≤ 0x9F) ∧
      (b0.toNat = 0xF0 → 0x90 ≤ b1.toNat) ∧ (b0.toNat = 0xF4 → b1.toNat ≤ 0x8F) := by
  simp only [secondOk, isCont] at h
  split_ifs at h <;> simp only [Bool.and_eq_true, decide_eq_true_eq] at h <;>
    refine ⟨?_, ?_, ?_, ?_⟩ <;> intro _ <;> omega

theorem width_range (b : UInt8) :
    (width b = 2 → 0xC2 ≤ b.toNat ∧ b.toNat ≤ 0xDF) ∧
      (width b = 3 → 0xE0 ≤ b.toNat ∧ b.toNat ≤ 0xEF) ∧
      (width b = 4 → 0xF0 ≤ b.toNat ∧ b.toNat ≤ 0xF4) := by
  unfold width
  split_ifs <;> simp_all

/-- ASCII bytes taken as characters are encoded as themselves. -/
theorem encode_map_ascii {l : List UInt8} (h : ∀ b ∈ l, b.toNat < 0x80) :
    encode (l.map fun b => Char.ofNat b.toNat) = l := by
  induction l with
  | nil => rfl
  | cons b l ih =>
    have hb := h b (by simp)
    have hc : (Char.ofNat b.toNat).toNat = b.toNat := toNat_charOfNat (.inl (by omega))
    rw [List.map_cons, encode_cons, utf8EncodeChar_ascii (by omega), hc, UInt8.ofNat_toNat,
      ih fun b' hb' => h b' (by simp [hb'])]
    rfl

theorem next2_eq_some {b0 : UInt8} {l : List UInt8} {c : Char} {n : Nat}
    (h : next2 b0 l = (some c, n)) : ∃ b1 tail, l = b1 :: tail ∧ isCont b1 = true ∧ n = 2 ∧
      c = Char.ofNat ((b0.toNat - 0xC0) * 64 + (b1.toNat - 0x80)) := by
  unfold next2 at h
  split at h
  · split_ifs at h
    · simp only [Prod.mk.injEq, Option.some.injEq] at h
      exact ⟨_, _, rfl, by assumption, h.2.symm, h.1.symm⟩
    · simp at h
  · simp at h

theorem next3_eq_some {b0 : UInt8} {l : List UInt8} {c : Char} {n : Nat}
    (h : next3 b0 l = (some c, n)) : ∃ b1 b2 tail, l = b1 :: b2 :: tail ∧
      secondOk b0 b1 = true ∧ isCont b2 = true ∧ n = 3 ∧
      c = Char.ofNat
        ((b0.toNat - 0xE0) * 4096 + (b1.toNat - 0x80) * 64 + (b2.toNat - 0x80)) := by
  unfold next3 at h
  split at h <;> try split_ifs at h
  all_goals simp only [Prod.mk.injEq, Option.some.injEq, reduceCtorEq, false_and] at h
  exact ⟨_, _, _, rfl, by assumption, by assumption, h.2.symm, h.1.symm⟩

theorem next4_eq_some {b0 : UInt8} {l : List UInt8} {c : Char} {n : Nat}
    (h : next4 b0 l = (some c, n)) : ∃ b1 b2 b3 tail, l = b1 :: b2 :: b3 :: tail ∧
      secondOk b0 b1 = true ∧ isCont b2 = true ∧ isCont b3 = true ∧ n = 4 ∧
      c = Char.ofNat ((b0.toNat - 0xF0) * 262144 + (b1.toNat - 0x80) * 4096 +
        (b2.toNat - 0x80) * 64 + (b3.toNat - 0x80)) := by
  unfold next4 at h
  split at h <;> try split_ifs at h
  all_goals simp only [Prod.mk.injEq, Option.some.injEq, reduceCtorEq, false_and] at h
  exact ⟨_, _, _, _, rfl, by assumption, by assumption, by assumption, h.2.symm, h.1.symm⟩

/-- What was read as a character is its encoding. -/
theorem eq_encodeChar_of_next {l : List UInt8} {c : Char} {n : Nat} (h : next l = (some c, n)) :
    l = String.utf8EncodeChar c ++ l.drop n := by
  cases l with
  | nil => simp [next] at h
  | cons b0 rest =>
    obtain ⟨hw2, hw3, hw4⟩ := width_range b0
    rw [next] at h
    split_ifs at h with h1 h2 h3 h4
    · simp only [Prod.mk.injEq, Option.some.injEq] at h
      obtain ⟨rfl, rfl⟩ := h
      have hc : (Char.ofNat b0.toNat).toNat = b0.toNat := toNat_charOfNat (.inl (by omega))
      rw [utf8EncodeChar_ascii (by omega), hc, UInt8.ofNat_toNat]
      rfl
    · obtain ⟨b1, tail, rfl, hb1, rfl, hc⟩ := next2_eq_some h
      have hw := hw2 h2
      simp only [isCont, Bool.and_eq_true, decide_eq_true_eq] at hb1
      have hv := congrArg Char.toNat hc
      rw [toNat_charOfNat (.inl (by omega))] at hv
      rw [utf8EncodeChar_eq, if_neg (by omega), if_pos (by omega), hv,
        ofNat_eq_byte (b := b0) (by omega), ofNat_eq_byte (b := b1) (by omega)]
      rfl
    · obtain ⟨b1, b2, tail, rfl, hb1, hb2, rfl, hc⟩ := next3_eq_some h
      have hw := hw3 h3
      have hrange := secondOk_range hb1
      have hscalar := secondOk_scalar hb1
      simp only [isCont, Bool.and_eq_true, decide_eq_true_eq] at hb2
      have hv := congrArg Char.toNat hc
      rw [toNat_charOfNat (by simp only [Nat.isValidChar]; omega)] at hv
      rw [utf8EncodeChar_eq, if_neg (by omega), if_neg (by omega), if_pos (by omega), hv,
        ofNat_eq_byte (b := b0) (by omega), ofNat_eq_byte (b := b1) (by omega),
        ofNat_eq_byte (b := b2) (by omega)]
      rfl
    · obtain ⟨b1, b2, b3, tail, rfl, hb1, hb2, hb3, rfl, hc⟩ := next4_eq_some h
      have hw := hw4 h4
      have hrange := secondOk_range hb1
      have hscalar := secondOk_scalar hb1
      simp only [isCont, Bool.and_eq_true, decide_eq_true_eq] at hb2 hb3
      have hv := congrArg Char.toNat hc
      rw [toNat_charOfNat (by simp only [Nat.isValidChar]; omega)] at hv
      rw [utf8EncodeChar_eq, if_neg (by omega), if_neg (by omega), if_neg (by omega), hv,
        ofNat_eq_byte (b := b0) (by omega), ofNat_eq_byte (b := b1) (by omega),
        ofNat_eq_byte (b := b2) (by omega), ofNat_eq_byte (b := b3) (by omega)]
      rfl
    · simp at h

/-! ### Reading a whole byte list -/

def decodeFuel : Nat → List UInt8 → List (Option Char)
  | 0, _ => []
  | _ + 1, [] => []
  | fuel + 1, b :: l => (next (b :: l)).1 :: decodeFuel fuel ((b :: l).drop (next (b :: l)).2)

/-- The scalar values of a byte list, with `none` for every ill-formed prefix on the way. -/
def decode (l : List UInt8) : List (Option Char) :=
  decodeFuel l.length l

theorem decodeFuel_of_le {fuel : Nat} {l : List UInt8} (h : l.length ≤ fuel) :
    decodeFuel fuel l = decode l := by
  induction fuel using Nat.strongRecOn generalizing l with
  | ind fuel ih =>
    cases l with
    | nil => cases fuel <;> rfl
    | cons b l =>
      cases fuel with
      | zero => simp at h
      | succ fuel =>
        have hpos := next_pos (l := b :: l) (by simp)
        have hdrop : ((b :: l).drop (next (b :: l)).2).length ≤ l.length := by
          simp only [List.length_drop, List.length_cons]
          omega
        simp only [List.length_cons] at h
        rw [decode, List.length_cons, decodeFuel, decodeFuel, ih fuel (by omega) (by omega)]
        by_cases hl : l.length = fuel
        · rw [hl, ih fuel (by omega) (by omega)]
        · rw [ih l.length (by omega) hdrop]

@[simp] theorem decode_nil : decode [] = [] := rfl

theorem decode_of_ne_nil {l : List UInt8} (h : l ≠ []) :
    decode l = (next l).1 :: decode (l.drop (next l).2) := by
  cases l with
  | nil => exact absurd rfl h
  | cons b l =>
    have hpos := next_pos h
    rw [decode, List.length_cons, decodeFuel, decodeFuel_of_le]
    simp only [List.length_drop, List.length_cons]
    omega

/-- Decoding reads the text in front and goes on with what follows it. -/
theorem decode_encode_append (s : List Char) (rest : List UInt8) :
    decode (encode s ++ rest) = s.map some ++ decode rest := by
  induction s with
  | nil => rfl
  | cons c s ih =>
    have hnext := next_encodeChar c (encode s ++ rest)
    rw [encode_cons, List.append_assoc, decode_of_ne_nil (by simp), hnext,
      ← String.length_utf8EncodeChar, List.drop_left, ih]
    rfl

theorem eq_encode_of_decode {s : List Char} {l : List UInt8} (h : decode l = s.map some) :
    l = encode s := by
  induction s generalizing l with
  | nil =>
    by_contra hne
    rw [decode_of_ne_nil hne] at h
    simp at h
  | cons c s ih =>
    have hne : l ≠ [] := by
      rintro rfl
      simp at h
    rw [decode_of_ne_nil hne, List.map_cons, List.cons.injEq] at h
    have hl := eq_encodeChar_of_next (l := l) (c := c) (n := (next l).2) (by rw [← h.1])
    rw [encode_cons, ← ih h.2]
    exact hl

/-! ### The strict and the lossy reading -/

/-- The text a byte list encodes, when it is well formed. -/
def fromUtf8 (l : List UInt8) : Option (List Char) :=
  (decode l).mapM id

/-- The text of a byte list with U+FFFD for every ill-formed prefix. -/
def fromUtf8Lossy (l : List UInt8) : List Char :=
  (decode l).map (·.getD (Char.ofNat 0xFFFD))

theorem mapM_id_eq_some {α : Type*} {l : List (Option α)} {s : List α} :
    l.mapM id = some s ↔ l = s.map some := by
  induction l generalizing s with
  | nil => cases s <;> simp
  | cons a l ih =>
    cases a with
    | none => cases s <;> simp
    | some a =>
      cases s with
      | nil => simp [Option.bind_eq_some_iff]
      | cons b s => simp [Option.bind_eq_some_iff, ih, and_comm]

theorem fromUtf8_eq_some {l : List UInt8} {s : List Char} :
    fromUtf8 l = some s ↔ l = encode s := by
  rw [fromUtf8, mapM_id_eq_some]
  constructor
  · exact eq_encode_of_decode
  · rintro rfl
    simpa using decode_encode_append s []

@[simp] theorem fromUtf8_encode (s : List Char) : fromUtf8 (encode s) = some s :=
  fromUtf8_eq_some.mpr rfl

/-- The bytes that a byte may turn into when it is read lossily. -/
def lossyWeight (b : UInt8) : Nat := if b.toNat < 0x80 then 1 else 3

theorem one_le_lossyWeight (b : UInt8) : 1 ≤ lossyWeight b := by
  rw [lossyWeight]
  split
  · omega
  · omega

theorem length_le_sum_lossyWeight (l : List UInt8) : l.length ≤ (l.map lossyWeight).sum := by
  induction l with
  | nil => rfl
  | cons b l ih =>
    have := one_le_lossyWeight b
    rw [List.length_cons, List.map_cons, List.sum_cons]
    omega

/-- What one step of the reading turns its bytes into weighs no more than they do. -/
theorem length_next_le {l : List UInt8} (h : l ≠ []) :
    (String.utf8EncodeChar ((next l).1.getD (Char.ofNat 0xFFFD))).length ≤
      ((l.take (next l).2).map lossyWeight).sum := by
  cases hc : (next l).1 with
  | some c =>
    have hnext : next l = (some c, (next l).2) := by rw [← hc]
    have hlen := congrArg List.length (eq_encodeChar_of_next hnext)
    rw [List.length_append, List.length_drop] at hlen
    refine le_trans ?_ (length_le_sum_lossyWeight _)
    rw [List.length_take, Option.getD_some]
    omega
  | none =>
    obtain ⟨b, rest, rfl⟩ := List.exists_cons_of_ne_nil h
    have hhigh : ¬b.toNat < 0x80 := by
      intro hlow
      rw [next, if_pos hlow] at hc
      cases hc
    obtain ⟨n, hn⟩ := Nat.exists_eq_succ_of_ne_zero (Nat.ne_of_gt (next_pos h))
    rw [hn, List.take_succ_cons, List.map_cons, List.sum_cons, lossyWeight, if_neg hhigh]
    show 3 ≤ _
    omega

/-- Reading lossily makes ASCII bytes no longer, and every other byte at most three times as long. -/
theorem length_encode_fromUtf8Lossy_le (l : List UInt8) :
    (encode (fromUtf8Lossy l)).length ≤ (l.map lossyWeight).sum := by
  induction hlen : l.length using Nat.strongRecOn generalizing l with
  | ind n ih =>
    by_cases h : l = []
    · subst h
      rfl
    · have hpos := next_pos h
      have hlpos := List.length_pos_iff.mpr h
      have hrest := ih (l.drop (next l).2).length (by rw [List.length_drop]; omega) _ rfl
      have hhead := length_next_le h
      have hsum : (l.map lossyWeight).sum = ((l.take (next l).2).map lossyWeight).sum +
          ((l.drop (next l).2).map lossyWeight).sum := by
        rw [← List.sum_append, ← List.map_append, List.take_append_drop]
      rw [fromUtf8Lossy] at hrest
      rw [fromUtf8Lossy, decode_of_ne_nil h, List.map_cons, encode_cons, List.length_append, hsum]
      exact Nat.add_le_add hhead hrest

@[simp] theorem fromUtf8Lossy_encode (s : List Char) : fromUtf8Lossy (encode s) = s := by
  have h := decode_encode_append s []
  rw [List.append_nil, decode_nil, List.append_nil] at h
  rw [fromUtf8Lossy, h, List.map_map]
  exact List.map_id s

end Utf8
