import Mathlib.Data.List.Infix
import OtelC.Lib.Utf8

/-!
# Lossy decoding

What the replacement of ill-formed UTF-8 is meant to be, stated on encodings alone: bytes that
no character starts are taken off the front as their maximal subpart, the longest piece some
character's encoding starts with or else a single byte, and one U+FFFD stands for it.  `Lossy` is
that relation and `fromUtf8Lossy` its only solution.  The second half describes a validating
reader by what it reports about the first error.

* `next_eq_none_iff`: reading one scalar value fails exactly with the maximal subpart in front.
* `lossy_iff`: the lossy reading is the one text in the relation.
* `documented_readUtf8`: the reader built on `next` reports its errors as described.
-/

namespace Utf8

/-- The character put in the place of what is not UTF-8. -/
def replacement : Char := Char.ofNat 0xFFFD

/-- Some character's encoding starts with these bytes. -/
def StartsChar (p : List UInt8) : Prop :=
  ∃ c, p <+: String.utf8EncodeChar c

/-- The first `n` bytes are the maximal subpart of the ill-formed sequence in front. -/
structure MaximalSubpart (l : List UInt8) (n : Nat) : Prop where
  /-- No character stands in front. -/
  unconvertible : ∀ c, ¬String.utf8EncodeChar c <+: l
  pos : 0 < n
  le_length : n ≤ l.length
  starts_or_one : StartsChar (l.take n) ∨ n = 1
  maximal : ∀ m, n < m → m ≤ l.length → ¬StartsChar (l.take m)

/-- `Lossy l s`: the text `s` is `l` with every maximal ill-formed subpart replaced. -/
inductive Lossy : List UInt8 → List Char → Prop where
  | nil : Lossy [] []
  | char (c : Char) {l : List UInt8} {s : List Char} :
      Lossy l s → Lossy (String.utf8EncodeChar c ++ l) (c :: s)
  | subpart {l : List UInt8} {n : Nat} {s : List Char} :
      MaximalSubpart l n → Lossy (l.drop n) s → Lossy l (replacement :: s)

/-! ### Failed readings are prefixes of characters -/

theorem startsChar_of_next {p r : List UInt8} {c : Char}
    (h : next (p ++ r) = (some c, (p ++ r).length)) : StartsChar p := by
  have hall := eq_encodeChar_of_next h
  rw [List.drop_length, List.append_nil] at hall
  exact ⟨c, r, hall⟩

/-- A second byte that a lead byte of three or four admits. -/
def secondFor (b0 : UInt8) : UInt8 :=
  if b0.toNat = 0xE0 then 0xA0 else if b0.toNat = 0xF0 then 0x90 else 0x80

theorem secondOk_secondFor (b0 : UInt8) : secondOk b0 (secondFor b0) = true := by
  unfold secondOk secondFor isCont
  split_ifs
  all_goals rfl

theorem next_width2 {b0 b1 : UInt8} (hw : width b0 = 2) (h1 : isCont b1 = true) :
    ∃ c, next [b0, b1] = (some c, 2) := by
  have := (width_range b0).1 hw
  rw [next, if_neg (by omega), if_pos hw, next2, if_pos h1]
  exact ⟨_, rfl⟩

theorem next_width3 {b0 b1 b2 : UInt8} (hw : width b0 = 3) (h1 : secondOk b0 b1 = true)
    (h2 : isCont b2 = true) : ∃ c, next [b0, b1, b2] = (some c, 3) := by
  have := (width_range b0).2.1 hw
  rw [next, if_neg (by omega), if_neg (by omega), if_pos hw, next3, if_pos h1, if_pos h2]
  exact ⟨_, rfl⟩

theorem next_width4 {b0 b1 b2 b3 : UInt8} (hw : width b0 = 4) (h1 : secondOk b0 b1 = true)
    (h2 : isCont b2 = true) (h3 : isCont b3 = true) :
    ∃ c, next [b0, b1, b2, b3] = (some c, 4) := by
  have := (width_range b0).2.2 hw
  rw [next, if_neg (by omega), if_neg (by omega), if_neg (by omega), if_pos hw, next4, if_pos h1,
    if_pos h2, if_pos h3]
  exact ⟨_, rfl⟩

theorem isCont_80 : isCont 0x80 = true := by decide

/-- A lead byte starts some character. -/
theorem startsChar_of_width {b0 : UInt8} (h : width b0 ≠ 0) : StartsChar [b0] := by
  by_cases h2 : width b0 = 2
  · obtain ⟨c, hc⟩ := next_width2 h2 isCont_80
    exact startsChar_of_next (r := [0x80]) hc
  by_cases h3 : width b0 = 3
  · obtain ⟨c, hc⟩ := next_width3 h3 (secondOk_secondFor b0) isCont_80
    exact startsChar_of_next (p := [b0]) (r := [secondFor b0, 0x80]) hc
  by_cases h4 : width b0 = 4
  · obtain ⟨c, hc⟩ := next_width4 h4 (secondOk_secondFor b0) isCont_80 isCont_80
    exact startsChar_of_next (p := [b0]) (r := [secondFor b0, 0x80, 0x80]) hc
  · unfold width at h h2 h3 h4
    grind

theorem next2_none {b0 : UInt8} {l : List UInt8} {n : Nat} (h : next2 b0 l = (none, n)) :
    n = 1 := by
  cases l <;> grind [next2]

theorem next3_none {b0 : UInt8} {l : List UInt8} {n : Nat} (h : next3 b0 l = (none, n))
    (hn : 1 < n) : ∃ b1 l', l = b1 :: l' ∧ secondOk b0 b1 = true ∧ n = 2 := by
  rcases l with _ | ⟨b1, _ | ⟨b2, l⟩⟩ <;> grind [next3]

theorem next4_none {b0 : UInt8} {l : List UInt8} {n : Nat} (h : next4 b0 l = (none, n))
    (hn : 1 < n) : ∃ b1 l', l = b1 :: l' ∧ secondOk b0 b1 = true ∧
      (n = 2 ∨ ∃ b2 l'', l' = b2 :: l'' ∧ isCont b2 = true ∧ n = 3) := by
  rcases l with _ | ⟨b1, _ | ⟨b2, _ | ⟨b3, l⟩⟩⟩ <;> grind [next4]

/-- What a failed reading took, when it is more than one byte, can be completed. -/
theorem startsChar_take_of_next {l : List UInt8} {n : Nat} (h : next l = (none, n))
    (hn : 1 < n) : StartsChar (l.take n) := by
  cases l with
  | nil =>
    simp only [next, Prod.mk.injEq] at h
    omega
  | cons b0 l =>
    rw [next] at h
    split_ifs at h with h1 h2 h3 h4
    · simp at h
    · have := next2_none h
      omega
    · obtain ⟨b1, l', rfl, hb1, rfl⟩ := next3_none h hn
      obtain ⟨c, hc⟩ := next_width3 h3 hb1 isCont_80
      exact startsChar_of_next (p := [b0, b1]) (r := [0x80]) hc
    · obtain ⟨b1, l', rfl, hb1, rfl | ⟨b2, l'', rfl, hb2, rfl⟩⟩ := next4_none h hn
      · obtain ⟨c, hc⟩ := next_width4 h4 hb1 isCont_80 isCont_80
        exact startsChar_of_next (p := [b0, b1]) (r := [0x80, 0x80]) hc
      · obtain ⟨c, hc⟩ := next_width4 h4 hb1 hb2 isCont_80
        exact startsChar_of_next (p := [b0, b1, b2]) (r := [0x80]) hc
    · simp only [Prod.mk.injEq, true_and] at h
      omega

/-! ### Failed readings are maximal -/

theorem next2_none_append {b0 : UInt8} {p q : List UInt8} {n : Nat}
    (h : next2 b0 (p ++ q) = (none, n)) (hn : n ≤ p.length) (r : List UInt8) :
    next2 b0 (p ++ r) = (none, n) := by
  match p with
  | [] => cases q <;> grind [next2]
  | b1 :: p => exact h

theorem next3_none_append {b0 : UInt8} {p q : List UInt8} {n : Nat}
    (h : next3 b0 (p ++ q) = (none, n)) (hn : n ≤ p.length) (r : List UInt8) :
    next3 b0 (p ++ r) = (none, n) := by
  match p with
  | [] => rcases q with _ | ⟨_, _ | ⟨_, _⟩⟩ <;> grind [next3]
  | [b1] => cases q <;> cases r <;> grind [next3]
  | b1 :: b2 :: p => exact h

theorem next4_none_append {b0 : UInt8} {p q : List UInt8} {n : Nat}
    (h : next4 b0 (p ++ q) = (none, n)) (hn : n ≤ p.length) (r : List UInt8) :
    next4 b0 (p ++ r) = (none, n) := by
  match p with
  | [] => rcases q with _ | ⟨_, _ | ⟨_, _ | ⟨_, _⟩⟩⟩ <;> grind [next4]
  | [b1] =>
    rcases q with _ | ⟨_, _ | ⟨_, _⟩⟩ <;> rcases r with _ | ⟨_, _ | ⟨_, _⟩⟩ <;> grind [next4]
  | [b1, b2] => cases q <;> cases r <;> grind [next4]
  | b1 :: b2 :: b3 :: p => exact h

/-- A failed reading has looked no further than one byte past what it reports. -/
theorem next_none_append {p q : List UInt8} {n : Nat} (h : next (p ++ q) = (none, n))
    (hn : n < p.length) (r : List UInt8) : next (p ++ r) = (none, n) := by
  cases p with
  | nil => simp at hn
  | cons b0 p =>
    rw [List.length_cons] at hn
    rw [List.cons_append, next] at h ⊢
    split_ifs at h ⊢ with h1 h2 h3 h4
    · simp at h
    · exact next2_none_append h (by omega) r
    · exact next3_none_append h (by omega) r
    · exact next4_none_append h (by omega) r
    · exact h

theorem next_of_cut {c : Char} {l : List UInt8} (h : String.utf8EncodeChar c <+: l) :
    next l = (some c, c.utf8Size) := by
  obtain ⟨rest, rfl⟩ := h
  exact next_encodeChar c rest

theorem next_le_length (l : List UInt8) : (next l).2 ≤ l.length := by
  cases l with
  | nil => decide
  | cons b0 l =>
    rw [next]
    split_ifs
    · simp
    · cases l <;> grind [next2]
    · rcases l with _ | ⟨b1, _ | ⟨b2, l⟩⟩ <;> grind [next3]
    · rcases l with _ | ⟨b1, _ | ⟨b2, _ | ⟨b3, l⟩⟩⟩ <;> grind [next4]
    · simp

theorem maximalSubpart_of_next {l : List UInt8} {n : Nat} (hl : l ≠ [])
    (h : next l = (none, n)) : MaximalSubpart l n where
  unconvertible c hc := by
    rw [next_of_cut hc] at h
    cases h
  pos := by
    have := next_pos hl
    rwa [h] at this
  le_length := by
    have := next_le_length l
    rwa [h] at this
  starts_or_one := by
    by_cases hn : 1 < n
    · exact .inl (startsChar_take_of_next h hn)
    · have := next_pos hl
      rw [h] at this
      exact .inr (by omega)
  maximal m hnm hm := by
    rintro ⟨c, r, hr⟩
    have hsplit : next (l.take m ++ l.drop m) = (none, n) := by rwa [List.take_append_drop]
    have hfail := next_none_append hsplit (by rw [List.length_take]; omega) r
    rw [hr, next_of_cut (List.prefix_refl _)] at hfail
    cases hfail

theorem MaximalSubpart.ne_nil {l : List UInt8} {n : Nat} (h : MaximalSubpart l n) : l ≠ [] := by
  rintro rfl
  have := h.pos
  have := h.le_length
  rw [List.length_nil] at this
  omega

theorem MaximalSubpart.not_lt {l : List UInt8} {n m : Nat} (hn : MaximalSubpart l n)
    (hm : MaximalSubpart l m) : ¬n < m := by
  intro hlt
  have := hn.pos
  rcases hm.starts_or_one with hstarts | rfl
  · exact hn.maximal m hlt hm.le_length hstarts
  · omega

theorem MaximalSubpart.unique {l : List UInt8} {n m : Nat} (hn : MaximalSubpart l n)
    (hm : MaximalSubpart l m) : n = m := by
  have := hn.not_lt hm
  have := hm.not_lt hn
  omega

/-- Reading one scalar value fails exactly with the maximal subpart in front. -/
theorem next_eq_none_iff {l : List UInt8} (hl : l ≠ []) {n : Nat} :
    next l = (none, n) ↔ MaximalSubpart l n := by
  constructor
  · exact maximalSubpart_of_next hl
  · intro hn
    cases hc : (next l).1 with
    | some c =>
      have hl := eq_encodeChar_of_next (l := l) (c := c) (n := (next l).2) (by rw [← hc])
      exact absurd ⟨_, hl.symm⟩ (hn.unconvertible c)
    | none =>
      have hnone : next l = (none, (next l).2) := by rw [← hc]
      rw [hnone, (maximalSubpart_of_next hl hnone).unique hn]

/-! ### The lossy reading -/

@[simp] theorem fromUtf8Lossy_nil : fromUtf8Lossy [] = [] := rfl

theorem fromUtf8Lossy_encode_append (s : List Char) (l : List UInt8) :
    fromUtf8Lossy (encode s ++ l) = s ++ fromUtf8Lossy l := by
  rw [fromUtf8Lossy, decode_encode_append, List.map_append, List.map_map]
  exact congrArg (· ++ fromUtf8Lossy l) (List.map_id s)

theorem fromUtf8Lossy_subpart {l : List UInt8} {n : Nat} (h : MaximalSubpart l n) :
    fromUtf8Lossy l = replacement :: fromUtf8Lossy (l.drop n) := by
  have hnext := (next_eq_none_iff h.ne_nil).mpr h
  rw [fromUtf8Lossy, decode_of_ne_nil h.ne_nil, hnext]
  rfl

theorem lossy_fromUtf8Lossy (l : List UInt8) : Lossy l (fromUtf8Lossy l) := by
  induction hlen : l.length using Nat.strongRecOn generalizing l with
  | ind k ih =>
    by_cases hl : l = []
    · subst hl
      exact .nil
    have hpos := next_pos hl
    have hlpos := List.length_pos_iff.mpr hl
    have hrest := ih (l.drop (next l).2).length (by rw [List.length_drop]; omega) _ rfl
    cases hc : (next l).1 with
    | some c =>
      have hsplit := eq_encodeChar_of_next (l := l) (c := c) (n := (next l).2) (by rw [← hc])
      have hlossy := fromUtf8Lossy_encode_append [c] (l.drop (next l).2)
      rw [encode_cons, encode_nil, List.append_nil, ← hsplit] at hlossy
      rw [hlossy]
      nth_rewrite 1 [hsplit]
      exact .char c hrest
    | none =>
      have hsub : MaximalSubpart l (next l).2 := maximalSubpart_of_next hl (by rw [← hc])
      rw [fromUtf8Lossy_subpart hsub]
      exact .subpart hsub hrest

/-- The lossy reading is the one text in the relation. -/
theorem lossy_iff {l : List UInt8} {s : List Char} : Lossy l s ↔ s = fromUtf8Lossy l := by
  constructor
  · intro h
    induction h with
    | nil => rfl
    | char c h ih =>
      have := fromUtf8Lossy_encode_append [c] ‹_›
      rw [encode_cons, encode_nil, List.append_nil] at this
      rw [this, ← ih]
      rfl
    | subpart hsub h ih => rw [fromUtf8Lossy_subpart hsub, ← ih]
  · rintro rfl
    exact lossy_fromUtf8Lossy l

/-! ### Reports of the first error -/

/-- What a validating reader says of the first ill-formed sequence. -/
structure Utf8Error where
  validUpTo : Nat
  errorLen : Option Nat
  deriving DecidableEq, Repr

/-- A reader that accepts encodings and reports the first error of everything else. -/
structure Documented (fromUtf8 : List UInt8 → Except Utf8Error (List Char)) : Prop where
  of_encode : ∀ s, fromUtf8 (encode s) = .ok s
  encode_of_ok : ∀ {l s}, fromUtf8 l = .ok s → l = encode s
  /-- The input up to `validUpTo` is well formed. -/
  valid : ∀ {l e}, fromUtf8 l = .error e → ∃ s, l.take e.validUpTo = encode s
  /-- No longer prefix of the input is. -/
  validUpTo_max : ∀ {l e}, fromUtf8 l = .error e → e.validUpTo ≤ l.length ∧
    ∀ i ≤ l.length, ∀ s, l.take i = encode s → i ≤ e.validUpTo
  /-- With `none` the input ended inside a character. -/
  ended : ∀ {l e}, fromUtf8 l = .error e → e.errorLen = none → StartsChar (l.drop e.validUpTo)
  /-- Otherwise an unexpected byte ended an invalid sequence of that length. -/
  unexpected : ∀ {l e n}, fromUtf8 l = .error e → e.errorLen = some n →
    MaximalSubpart (l.drop e.validUpTo) n ∧ ¬StartsChar (l.drop e.validUpTo)

theorem eq_of_encodeChar_prefix {c d : Char}
    (h : String.utf8EncodeChar c <+: String.utf8EncodeChar d) : c = d := by
  have hd := next_of_cut h
  rw [next_of_cut (List.prefix_refl _)] at hd
  exact (Option.some.inj (congrArg Prod.fst hd)).symm

/-- A character that the input ends inside of is one maximal subpart. -/
theorem maximalSubpart_of_startsChar {l : List UInt8} (hl : l ≠ [])
    (hchar : ∀ c, l ≠ String.utf8EncodeChar c) (h : StartsChar l) :
    MaximalSubpart l l.length where
  unconvertible d hd := by
    obtain ⟨c, hc⟩ := h
    obtain rfl := eq_of_encodeChar_prefix (hd.trans hc)
    exact hchar d (hc.eq_of_length (le_antisymm hc.length_le hd.length_le))
  pos := List.length_pos_iff.mpr hl
  le_length := le_rfl
  starts_or_one := by
    rw [List.take_length]
    exact .inl h
  maximal m hlt hle := absurd hlt (by omega)

/-- The characters in front of the first ill-formed sequence. -/
def leading (l : List UInt8) : List Char :=
  ((decode l).takeWhile Option.isSome).filterMap id

theorem leading_encode_append (s : List Char) (l : List UInt8) :
    leading (encode s ++ l) = s ++ leading l := by
  induction s with
  | nil => rfl
  | cons c s ih =>
    rw [leading, decode_encode_append] at ih ⊢
    simpa using ih

theorem leading_of_subpart {l : List UInt8} {n : Nat} (h : MaximalSubpart l n) :
    leading l = [] := by
  rw [leading, decode_of_ne_nil h.ne_nil, (next_eq_none_iff h.ne_nil).mpr h]
  rfl

theorem exists_leading (l : List UInt8) :
    ∃ rest, l = encode (leading l) ++ rest ∧ (rest = [] ∨ ∃ n, MaximalSubpart rest n) := by
  induction hlen : l.length using Nat.strongRecOn generalizing l with
  | ind k ih =>
    by_cases hl : l = []
    · subst hl
      exact ⟨[], rfl, .inl rfl⟩
    cases hc : (next l).1 with
    | none =>
      have hsub : MaximalSubpart l (next l).2 := maximalSubpart_of_next hl (by rw [← hc])
      exact ⟨l, by rw [leading_of_subpart hsub]; rfl, .inr ⟨_, hsub⟩⟩
    | some c =>
      have hpos := next_pos hl
      have hlpos := List.length_pos_iff.mpr hl
      have hsplit := eq_encodeChar_of_next (l := l) (c := c) (n := (next l).2) (by rw [← hc])
      obtain ⟨rest, hrest, hcase⟩ :=
        ih (l.drop (next l).2).length (by rw [List.length_drop]; omega) _ rfl
      refine ⟨rest, ?_, hcase⟩
      have hlead := leading_encode_append [c] (l.drop (next l).2)
      rw [encode_cons, encode_nil, List.append_nil, ← hsplit] at hlead
      rw [hlead, encode_append, List.append_assoc, ← hrest]
      simpa using hsplit

/-- Whether the input ended inside a character. -/
def endsInside : List UInt8 → Bool
  | [] => false
  | b :: rest => (next (b :: rest)).2 == rest.length + 1 && width b != 0

theorem endsInside_iff {l : List UInt8} {n : Nat} (h : MaximalSubpart l n) :
    endsInside l = true ↔ StartsChar l := by
  have hnext := (next_eq_none_iff h.ne_nil).mpr h
  cases l with
  | nil => exact absurd rfl h.ne_nil
  | cons b rest =>
    rw [endsInside, hnext, Bool.and_eq_true, beq_iff_eq, bne_iff_ne]
    constructor
    · rintro ⟨hlen, hw⟩
      by_cases hn : 1 < n
      · have := startsChar_take_of_next hnext hn
        rwa [List.take_of_length_le (by rw [List.length_cons]; omega)] at this
      · obtain rfl : rest = [] := List.eq_nil_of_length_eq_zero (by omega)
        exact startsChar_of_width hw
    · intro hstarts
      have hle := h.le_length
      rw [List.length_cons] at hle
      refine ⟨?_, ?_⟩
      · by_contra hne
        refine h.maximal (rest.length + 1) (by omega) le_rfl ?_
        rwa [List.take_of_length_le (by simp)]
      · intro hw
        obtain ⟨c, r, hr⟩ := hstarts
        have hchar := next_of_cut (c := c) (l := b :: rest ++ r) (by rw [hr])
        rw [next] at hnext
        rw [List.cons_append, next] at hchar
        by_cases hascii : b.toNat < 0x80
        · rw [if_pos hascii] at hnext
          cases hnext
        · rw [if_neg hascii, if_neg (by omega), if_neg (by omega), if_neg (by omega)] at hchar
          cases hchar

/-- A validating reader: the text, or how far the input was well formed and what stopped it. -/
def readUtf8 (l : List UInt8) : Except Utf8Error (List Char) :=
  let rest := l.drop (encode (leading l)).length
  if rest = [] then .ok (leading l)
  else .error ⟨(encode (leading l)).length, if endsInside rest then none else some (next rest).2⟩

theorem readUtf8_encode (s : List Char) : readUtf8 (encode s) = .ok s := by
  have hlead := leading_encode_append s []
  rw [List.append_nil, show leading [] = [] from rfl, List.append_nil] at hlead
  rw [readUtf8, hlead]
  simp

theorem drop_leading {l rest : List UInt8} (h : l = encode (leading l) ++ rest) :
    l.drop (encode (leading l)).length = rest := by
  nth_rewrite 2 [h]
  exact List.drop_left

theorem readUtf8_ok {l : List UInt8} {s : List Char} (h : readUtf8 l = .ok s) : l = encode s := by
  obtain ⟨rest, hl, -⟩ := exists_leading l
  rw [readUtf8, drop_leading hl] at h
  by_cases hrest : rest = []
  · rw [if_pos hrest] at h
    cases h
    rwa [hrest, List.append_nil] at hl
  · rw [if_neg hrest] at h
    cases h

theorem readUtf8_error {l : List UInt8} {e : Utf8Error} (h : readUtf8 l = .error e) :
    ∃ s rest n, l = encode s ++ rest ∧ MaximalSubpart rest n ∧
      e = ⟨(encode s).length, if endsInside rest then none else some n⟩ := by
  obtain ⟨rest, hl, hcase⟩ := exists_leading l
  rw [readUtf8, drop_leading hl] at h
  by_cases hrest : rest = []
  · rw [if_pos hrest] at h
    cases h
  · obtain ⟨n, hn⟩ := hcase.resolve_left hrest
    rw [if_neg hrest, (next_eq_none_iff hrest).mpr hn] at h
    exact ⟨leading l, rest, n, hl, hn, (Except.error.inj h).symm⟩

/-- No well-formed prefix reaches past the start of an ill-formed sequence. -/
theorem le_length_of_take {s t : List Char} {rest : List UInt8} {n i : Nat}
    (h : MaximalSubpart rest n) (hi : i ≤ (encode s ++ rest).length)
    (ht : (encode s ++ rest).take i = encode t) : i ≤ (encode s).length := by
  by_contra hlt
  rw [List.length_append] at hi
  rw [List.take_append, List.take_of_length_le (by omega)] at ht
  have hlead := leading_encode_append t []
  rw [List.append_nil, ← ht, leading_encode_append, show leading [] = [] from rfl,
    List.append_nil] at hlead
  rw [← hlead, encode_append] at ht
  have hpiece := List.append_cancel_left ht
  cases hu : leading (rest.take (i - (encode s).length)) with
  | nil =>
    rw [hu] at hpiece
    have := congrArg List.length hpiece
    rw [List.length_take, encode_nil, List.length_nil] at this
    omega
  | cons d u =>
    rw [hu, encode_cons] at hpiece
    exact h.unconvertible d ((List.prefix_append _ _).trans (hpiece ▸ List.take_prefix _ _))

theorem documented_readUtf8 : Documented readUtf8 where
  of_encode := readUtf8_encode
  encode_of_ok := readUtf8_ok
  valid h := by
    obtain ⟨s, rest, n, rfl, -, rfl⟩ := readUtf8_error h
    exact ⟨s, List.take_left⟩
  validUpTo_max h := by
    obtain ⟨s, rest, n, rfl, hsub, rfl⟩ := readUtf8_error h
    refine ⟨by simp, fun i hi t ht => le_length_of_take hsub hi ht⟩
  ended h hnone := by
    obtain ⟨s, rest, n, rfl, hsub, rfl⟩ := readUtf8_error h
    rw [List.drop_left]
    by_contra hstarts
    rw [← endsInside_iff hsub] at hstarts
    simp [hstarts] at hnone
  unexpected h hsome := by
    obtain ⟨s, rest, n, rfl, hsub, rfl⟩ := readUtf8_error h
    rw [List.drop_left, ← endsInside_iff hsub]
    by_cases hends : endsInside rest = true
    · simp [hends] at hsome
    · simp only [hends, Bool.false_eq_true, if_false, Option.some.injEq] at hsome
      exact ⟨hsome ▸ hsub, hends⟩

end Utf8
