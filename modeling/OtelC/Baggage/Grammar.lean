import OtelC.Baggage.Wire
import OtelC.Lib.Lossy

/-!
# The grammar of a list member

The grammar that baggage headers follow, over a class `ws` of white space: a list member is
`key OWS "=" OWS value *( OWS ";" OWS property )`.  The grammar itself has space and tab for white
space; `str::trim` takes any Unicode white space.

* `valueText_iff`, `token_iff`: the byte checks of the reader are those of the grammar.
* `spellsText_iff`: what a value spells is what the reader decodes.
* `listMember_iff`: the grammar is unambiguous, and `parse` reads the member it derives.
-/

namespace OtelC.Baggage

/-! ### The grammar -/

/-- A character of a token. -/
def TokenChar (c : Char) : Prop := c.isAlphanum = true ∨ c ∈ lit "!#$%&'*+-.^_`|~"

/-- `baggage-octet`. -/
def BaggageOctet (c : Char) : Prop :=
  c.toNat = 0x21 ∨ 0x23 ≤ c.toNat ∧ c.toNat ≤ 0x2B ∨ 0x2D ≤ c.toNat ∧ c.toNat ≤ 0x3A ∨
    0x3C ≤ c.toNat ∧ c.toNat ≤ 0x5B ∨ 0x5D ≤ c.toNat ∧ c.toNat ≤ 0x7E

/-- `HEXDIG`, in either case. -/
def HexDigit (c : Char) : Prop :=
  0x30 ≤ c.toNat ∧ c.toNat ≤ 0x39 ∨ 0x61 ≤ c.toNat ∧ c.toNat ≤ 0x66 ∨
    0x41 ≤ c.toNat ∧ c.toNat ≤ 0x46

/-- A token. -/
def Token (s : Str) : Prop := s ≠ [] ∧ ∀ c ∈ s, TokenChar c

/-- A value, in which every `%` starts a triple. -/
inductive ValueText : Str → Prop
  | nil : ValueText []
  | octet {c : Char} {s : Str} (octet : BaggageOctet c) (plain : c ≠ '%') (rest : ValueText s) :
    ValueText (c :: s)
  | triple {hi lo : Char} {s : Str} (high : HexDigit hi) (low : HexDigit lo)
    (rest : ValueText s) :
    ValueText ('%' :: hi :: lo :: s)

/-- A property: a key, and a value that is still escaped. -/
structure Property where
  key : Str
  value : Option Str

/-- A list member, its value still escaped. -/
structure Member where
  key : Str
  value : Str
  properties : List Property

section Grammar

variable (ws : Char → Bool)

/-- A run of white space. -/
def Ows (s : Str) : Prop := ∀ c ∈ s, ws c = true

/-- `key OWS [ "=" OWS value ]`. -/
inductive PropertyText : Str → Property → Prop
  | bare {k a : Str} (key : Token k) (before : Ows ws a) : PropertyText (k ++ a) ⟨k, none⟩
  | valued {k a b v : Str} (key : Token k) (before : Ows ws a) (after : Ows ws b)
    (value : ValueText v) : PropertyText (k ++ a ++ '=' :: (b ++ v)) ⟨k, some v⟩

/-- `*( OWS ";" OWS property )`. -/
inductive PropertiesText : Str → List Property → Prop
  | nil : PropertiesText [] []
  | cons {a b p rest : Str} {property : Property} {properties : List Property}
    (before : Ows ws a) (after : Ows ws b) (head : PropertyText ws p property)
    (tail : PropertiesText rest properties) :
    PropertiesText (a ++ ';' :: (b ++ p ++ rest)) (property :: properties)

/-- `key OWS "=" OWS value *( OWS ";" OWS property )`. -/
inductive MemberText : Str → Member → Prop
  | intro {k a b v rest : Str} {properties : List Property} (key : Token k) (before : Ows ws a)
    (after : Ows ws b) (value : ValueText v) (tail : PropertiesText ws rest properties) :
    MemberText (k ++ a ++ '=' :: (b ++ v) ++ rest) ⟨k, v, properties⟩

/-- A list member with white space at both ends. -/
def ListMember (m : Str) (member : Member) : Prop := MemberText ws (Text.trimBy ws m) member

end Grammar

/-- The text of a property. -/
def Property.text (property : Property) : Str :=
  match property.value with
  | none => property.key
  | some v => property.key ++ '=' :: v

/-- The number that a hexadecimal digit stands for. -/
def DigitValue (c : Char) (n : Nat) : Prop :=
  0x30 ≤ c.toNat ∧ c.toNat ≤ 0x39 ∧ n = c.toNat - 0x30 ∨
    0x61 ≤ c.toNat ∧ c.toNat ≤ 0x66 ∧ n = c.toNat - 0x61 + 10 ∨
    0x41 ≤ c.toNat ∧ c.toNat ≤ 0x46 ∧ n = c.toNat - 0x41 + 10

/-- The bytes that a value spells: a triple is the byte with its two digits, and any other octet is
itself. -/
inductive SpellsBytes : Str → List UInt8 → Prop
  | nil : SpellsBytes [] []
  | octet {c : Char} {s : Str} {bytes : List UInt8} (plain : c ≠ '%')
    (rest : SpellsBytes s bytes) : SpellsBytes (c :: s) (UInt8.ofNat c.toNat :: bytes)
  | triple {hi lo : Char} {h l : Nat} {s : Str} {bytes : List UInt8} (high : DigitValue hi h)
    (low : DigitValue lo l) (rest : SpellsBytes s bytes) :
    SpellsBytes ('%' :: hi :: lo :: s) (UInt8.ofNat (16 * h + l) :: bytes)

/-- The text that a value spells: its bytes, with U+FFFD for what is not UTF-8. -/
def SpellsText (value text : Str) : Prop := ∃ bytes, SpellsBytes value bytes ∧ Utf8.Lossy bytes text

/-- The list member denotes the entry. -/
structure Member.Denotes (member : Member) (e : BaggageEntry) : Prop where
  key : e.key = member.key
  value : SpellsText member.value e.value
  metadata : e.metadata = List.intercalate [';'] (member.properties.map Property.text)

/-! ### Tokens and values -/

instance : DecidablePred TokenChar := fun c =>
  inferInstanceAs (Decidable (c.isAlphanum = true ∨ c ∈ lit "!#$%&'*+-.^_`|~"))

theorem lt_of_isAlphanum {c : Char} (h : c.isAlphanum = true) : c.toNat < 0x80 := by
  have hranges : ((decide (c.val ≥ 'A'.val ∧ c.val ≤ 'Z'.val) ||
      (c.val ≥ 'a'.val && c.val ≤ 'z'.val)) || (c.val ≥ '0'.val && c.val ≤ '9'.val)) = true := h
  simp only [Bool.or_eq_true, Bool.and_eq_true, decide_eq_true_eq, ge_iff_le,
    UInt32.le_iff_toNat_le] at hranges
  have hval : c.toNat = c.val.toNat := rfl
  have hZ : 'Z'.val.toNat = 90 := rfl
  have hz : 'z'.val.toNat = 122 := rfl
  have h9 : '9'.val.toNat = 57 := rfl
  omega

theorem tokenChar_lt {c : Char} (h : TokenChar c) : c.toNat < 0x80 := by
  rcases h with h | h
  · exact lt_of_isAlphanum h
  · have hall : (lit "!#$%&'*+-.^_`|~").all (fun c => c.toNat < 0x80) = true := by decide
    simpa using List.all_eq_true.mp hall c h

theorem tokenChar_ascii : ∀ n : Fin 128,
    TokenChar (Char.ofNat n) ↔ isTokenByte (UInt8.ofNat n) = true := by
  decide +kernel

theorem tokenChar_iff {c : Char} :
    TokenChar c ↔ c.toNat < 0x80 ∧ isTokenByte (UInt8.ofNat c.toNat) = true := by
  constructor
  · intro h
    have hlt := tokenChar_lt h
    have hbyte := (tokenChar_ascii ⟨c.toNat, hlt⟩).mp (by rwa [Char.ofNat_toNat])
    exact ⟨hlt, hbyte⟩
  · intro h
    have hchar := (tokenChar_ascii ⟨c.toNat, h.1⟩).mpr h.2
    rwa [Char.ofNat_toNat] at hchar

theorem token_iff {s : Str} : Token s ↔ isToken s = true := by
  rw [Token, isToken, Bool.and_eq_true, Bool.not_eq_true', List.isEmpty_eq_false_iff,
    List.all_eq_true]
  refine and_congr_right fun _ => ?_
  rw [Utf8.forall_encode_iff (fun b hb => by have := isTokenByte_range hb; omega)]
  simp only [tokenChar_iff]

/-- What the reader asks of a value. -/
def isValue (s : Str) : Bool := (Utf8.encode s).all isValueByte && hasValidPercentEncoding s

theorem baggageOctet_iff {c : Char} :
    BaggageOctet c ↔ c.toNat < 0x80 ∧ isValueByte (UInt8.ofNat c.toNat) = true := by
  rw [BaggageOctet]
  constructor
  · intro h
    have hlt : c.toNat < 0x80 := by omega
    refine ⟨hlt, ?_⟩
    simp only [isValueByte, ofNat_toNat_of_lt hlt, Bool.or_eq_true, Bool.and_eq_true,
      decide_eq_true_eq]
    omega
  · intro h
    obtain ⟨hlt, h⟩ := h
    simp only [isValueByte, ofNat_toNat_of_lt hlt, Bool.or_eq_true, Bool.and_eq_true,
      decide_eq_true_eq] at h
    omega

theorem hexDigit_iff {c : Char} (h : c.toNat < 0x80) :
    HexDigit c ↔ (Hex.value? (UInt8.ofNat c.toNat)).isSome = true := by
  rw [HexDigit, Hex.value?, ofNat_toNat_of_lt h]
  split_ifs <;> simp <;> omega

theorem hexDigit_octet {c : Char} (h : HexDigit c) : BaggageOctet c := by
  rw [HexDigit] at h
  rw [BaggageOctet]
  omega

theorem octet_chars {c : Char} (h : BaggageOctet c) : IsVisible c ∧ c ≠ ',' ∧ c ≠ ';' := by
  rw [BaggageOctet] at h
  refine ⟨⟨by omega, by omega⟩, ?_, ?_⟩
  · rintro rfl
    revert h
    decide
  · rintro rfl
    revert h
    decide

/-- A value byte by byte: an octet other than the escape stands for itself. -/
theorem isValue_cons {c : Char} {s : Str} (hlt : c.toNat < 0x80) (hne : c ≠ '%') :
    isValue (c :: s) = (isValueByte (UInt8.ofNat c.toNat) && isValue s) := by
  have hbyte : UInt8.ofNat c.toNat ≠ 0x25 := by
    intro h
    apply hne
    apply Char.toNat_inj.mp
    have := congrArg UInt8.toNat h
    rwa [ofNat_toNat_of_lt hlt] at this
  rw [isValue, hasValidPercentEncoding, Utf8.encode_cons, Utf8.utf8EncodeChar_ascii hlt,
    List.singleton_append, Percent.validEscapes_literal hbyte, List.all_cons, Bool.and_assoc]
  rfl

theorem isValue_triple {hi lo : Char} {s : Str} (hhi : hi.toNat < 0x80) (hlo : lo.toNat < 0x80) :
    isValue ('%' :: hi :: lo :: s) =
      (isValueByte (UInt8.ofNat hi.toNat) && isValueByte (UInt8.ofNat lo.toNat) &&
        (Hex.value? (UInt8.ofNat hi.toNat)).isSome && (Hex.value? (UInt8.ofNat lo.toNat)).isSome &&
        isValue s) := by
  rw [isValue, hasValidPercentEncoding, Utf8.encode_cons, Utf8.encode_cons, Utf8.encode_cons,
    Utf8.utf8EncodeChar_ascii hhi, Utf8.utf8EncodeChar_ascii hlo,
    Utf8.utf8EncodeChar_ascii (show ('%' : Char).toNat < 0x80 by decide)]
  simp only [List.singleton_append, List.all_cons]
  rw [show UInt8.ofNat ('%' : Char).toNat = 0x25 from rfl, Percent.validEscapes_escape,
    show isValueByte 0x25 = true from rfl, isValue, hasValidPercentEncoding]
  ac_rfl

theorem isValue_of_valueText {s : Str} (h : ValueText s) : isValue s = true := by
  induction h with
  | nil => rfl
  | octet octet plain rest ih =>
    obtain ⟨hlt, hbyte⟩ := baggageOctet_iff.mp octet
    rw [isValue_cons hlt plain, hbyte, ih]
    rfl
  | triple high low rest ih =>
    obtain ⟨hhi, hhiByte⟩ := baggageOctet_iff.mp (hexDigit_octet high)
    obtain ⟨hlo, hloByte⟩ := baggageOctet_iff.mp (hexDigit_octet low)
    rw [isValue_triple hhi hlo, hhiByte, hloByte, (hexDigit_iff hhi).mp high,
      (hexDigit_iff hlo).mp low, ih]
    rfl

theorem octets_of_isValue {s : Str} (h : isValue s = true) : ∀ c ∈ s, BaggageOctet c := by
  rw [isValue, Bool.and_eq_true, List.all_eq_true] at h
  have hchars := (Utf8.forall_encode_iff (fun b hb => by
    have := isValueByte_range hb; omega) s).mp h.1
  exact fun c hc => baggageOctet_iff.mpr (hchars c hc)

/-- An escape that is in order is a triple. -/
theorem triple_of_isValue {s : Str} (h : isValue ('%' :: s) = true) :
    ∃ hi lo rest, s = hi :: lo :: rest ∧ HexDigit hi ∧ HexDigit lo ∧ isValue rest = true := by
  have hoctets := octets_of_isValue h
  match s with
  | [] => cases h
  | [c] =>
    have hlt := (baggageOctet_iff.mp (hoctets c (by simp))).1
    rw [isValue, hasValidPercentEncoding, Utf8.encode_cons, Utf8.encode_cons,
      Utf8.utf8EncodeChar_ascii hlt, Bool.and_eq_true] at h
    cases h.2
  | hi :: lo :: rest =>
    have hhi := (baggageOctet_iff.mp (hoctets hi (by simp))).1
    have hlo := (baggageOctet_iff.mp (hoctets lo (by simp))).1
    rw [isValue_triple hhi hlo] at h
    simp only [Bool.and_eq_true] at h
    exact ⟨hi, lo, rest, rfl, (hexDigit_iff hhi).mpr h.1.1.2, (hexDigit_iff hlo).mpr h.1.2, h.2⟩

theorem valueText_of_isValue : ∀ {s : Str}, isValue s = true → ValueText s
  | [], _ => .nil
  | c :: s, h => by
    by_cases hc : c = '%'
    · subst hc
      obtain ⟨hi, lo, rest, hs, hhi, hlo, hrest⟩ := triple_of_isValue h
      subst hs
      exact .triple hhi hlo (valueText_of_isValue hrest)
    · have hoctet := octets_of_isValue h c (by simp)
      rw [isValue_cons (baggageOctet_iff.mp hoctet).1 hc, Bool.and_eq_true] at h
      exact .octet hoctet hc (valueText_of_isValue h.2)

theorem token_chars {k : Str} (h : Token k) :
    ∀ c ∈ k, IsVisible c ∧ c ≠ ',' ∧ c ≠ ';' ∧ c ≠ '=' := (isToken_spec (token_iff.mp h)).2

theorem value_chars {v : Str} (h : ValueText v) : ∀ c ∈ v, IsVisible c ∧ c ≠ ',' ∧ c ≠ ';' :=
  fun c hc => octet_chars (octets_of_isValue (isValue_of_valueText h) c hc)

theorem valueText_iff {s : Str} : ValueText s ↔ isValue s = true :=
  ⟨isValue_of_valueText, valueText_of_isValue⟩

/-! ### What a value spells -/

theorem digitValue_iff {c : Char} (h : c.toNat < 0x80) {n : Nat} :
    DigitValue c n ↔ Hex.value? (UInt8.ofNat c.toNat) = some n := by
  rw [DigitValue, Hex.value?, ofNat_toNat_of_lt h]
  split_ifs <;> simp only [Option.some.injEq, iff_false] <;> omega

theorem DigitValue.hexDigit {c : Char} {n : Nat} (h : DigitValue c n) : HexDigit c := by
  rw [DigitValue] at h
  rw [HexDigit]
  omega

theorem DigitValue.lt {c : Char} {n : Nat} (h : DigitValue c n) : c.toNat < 0x80 :=
  (baggageOctet_iff.mp (hexDigit_octet h.hexDigit)).1

theorem HexDigit.value {c : Char} (h : HexDigit c) : ∃ n, DigitValue c n := by
  obtain ⟨hlt, -⟩ := baggageOctet_iff.mp (hexDigit_octet h)
  obtain ⟨n, hn⟩ := Option.isSome_iff_exists.mp ((hexDigit_iff hlt).mp h)
  exact ⟨n, (digitValue_iff hlt).mpr hn⟩

/-- Every value spells some bytes. -/
theorem ValueText.spellsBytes {s : Str} (h : ValueText s) : ∃ bytes, SpellsBytes s bytes := by
  induction h with
  | nil => exact ⟨[], .nil⟩
  | octet _ plain _ ih =>
    obtain ⟨bytes, hbytes⟩ := ih
    exact ⟨_, .octet plain hbytes⟩
  | triple high low _ ih =>
    obtain ⟨bytes, hbytes⟩ := ih
    obtain ⟨h, hh⟩ := high.value
    obtain ⟨l, hl⟩ := low.value
    exact ⟨_, .triple hh hl hbytes⟩

/-- The reader decodes the bytes that a value spells. -/
theorem decode_of_spellsBytes {s : Str} {bytes : List UInt8} (h : SpellsBytes s bytes)
    (hs : ValueText s) : Percent.decode (Utf8.encode s) = some bytes := by
  induction h with
  | nil => rfl
  | @octet c s bytes plain rest ih =>
    cases hs with
    | triple _ _ _ => exact absurd rfl plain
    | octet octet _ hs =>
      obtain ⟨hlt, -⟩ := baggageOctet_iff.mp octet
      have hne : UInt8.ofNat c.toNat ≠ 0x25 := by
        intro hpct
        refine plain (Char.toNat_inj.mp ?_)
        rw [← ofNat_toNat_of_lt hlt, hpct]
        rfl
      rw [Utf8.encode_cons, Utf8.utf8EncodeChar_ascii hlt, List.singleton_append,
        Percent.decode_literal hne, ih hs]
      rfl
  | @triple hi lo h l s bytes high low rest ih =>
    cases hs with
    | octet _ plain _ => exact absurd rfl plain
    | triple _ _ hs =>
      have hpct : ('%' : Char).toNat < 0x80 := by decide
      rw [Utf8.encode_cons, Utf8.encode_cons, Utf8.encode_cons, Utf8.utf8EncodeChar_ascii hpct,
        Utf8.utf8EncodeChar_ascii high.lt, Utf8.utf8EncodeChar_ascii low.lt]
      show Percent.decode (0x25 :: UInt8.ofNat hi.toNat :: UInt8.ofNat lo.toNat ::
        Utf8.encode s) = _
      rw [Percent.decode_escape, (digitValue_iff high.lt).mp high,
        (digitValue_iff low.lt).mp low, ih hs, Nat.mul_comm 16 h]
      rfl

theorem ValueText.spellsText {value : Str} (h : ValueText value) : ∃ text, SpellsText value text := by
  obtain ⟨bytes, hbytes⟩ := h.spellsBytes
  exact ⟨Utf8.fromUtf8Lossy bytes, bytes, hbytes, Utf8.lossy_iff.mpr rfl⟩

/-- Every list member denotes an entry. -/
theorem ListMember.denotes {ws : Char → Bool} {m : Str} {member : Member}
    (h : ListMember ws m member) : ∃ e, member.Denotes e := by
  rw [ListMember] at h
  generalize Text.trimBy ws m = t at h
  cases h with
  | @intro k a b v rest properties key before after value tail =>
    obtain ⟨text, htext⟩ := value.spellsText
    exact ⟨⟨k, text, _⟩, rfl, htext, rfl⟩

/-- **What a value spells** is what the reader decodes. -/
theorem spellsText_iff {value text : Str} (hvalue : ValueText value) :
    SpellsText value text ↔ percentDecode value = some text := by
  obtain ⟨bytes, hbytes⟩ := hvalue.spellsBytes
  rw [percentDecode, decode_of_spellsBytes hbytes hvalue, Option.map_some, Option.some.injEq]
  constructor
  · rintro ⟨bytes', hbytes', hlossy⟩
    have hsame := (decode_of_spellsBytes hbytes hvalue).symm.trans
      (decode_of_spellsBytes hbytes' hvalue)
    obtain rfl := Option.some.inj hsame
    exact (Utf8.lossy_iff.mp hlossy).symm
  · rintro rfl
    exact ⟨bytes, hbytes, Utf8.lossy_iff.mpr rfl⟩

/-! ### Reading the grammar -/

section Parse

variable (ws : Char → Bool)

/-- A key and a value around the first `=`. -/
def parsePair (text : Str) : Option (Str × Str) :=
  match Text.splitOnce '=' text with
  | none => none
  | some (k, v) =>
    if isToken (Text.trimBy ws k) && isValue (Text.trimBy ws v) then
      some (Text.trimBy ws k, Text.trimBy ws v)
    else none

def parseProperty (part : Str) : Option Property :=
  if '=' ∈ part then (parsePair ws part).map fun pair => ⟨pair.1, some pair.2⟩
  else if isToken (Text.trimBy ws part) then some ⟨Text.trimBy ws part, none⟩ else none

def readProperties : List Str → Option (List Property)
  | [] => some []
  | part :: parts => do
    let property ← parseProperty ws part
    let properties ← readProperties parts
    some (property :: properties)

/-- Read a list member. -/
def parse (m : Str) : Option Member :=
  match m.splitOn ';' with
  | [] => none
  | first :: parts => do
    let pair ← parsePair ws first
    let properties ← readProperties ws parts
    some ⟨pair.1, pair.2, properties⟩

variable {ws}

theorem readProperties_eq_some_iff {parts : List Str} {properties : List Property} :
    readProperties ws parts = some properties ↔
      List.Forall₂ (fun part property => parseProperty ws part = some property) parts
        properties := by
  induction parts generalizing properties with
  | nil =>
    rw [readProperties, Option.some.injEq, List.forall₂_nil_left_iff, eq_comm]
  | cons part parts ih =>
    rw [readProperties, Option.bind_eq_bind, Option.bind_eq_some_iff, List.forall₂_cons_left_iff]
    constructor
    · intro h
      obtain ⟨property, hproperty, h⟩ := h
      obtain ⟨rest, hrest, h⟩ := Option.bind_eq_some_iff.mp h
      exact ⟨property, rest, hproperty, ih.mp hrest, (Option.some.inj h).symm⟩
    · intro h
      obtain ⟨property, rest, hproperty, hrest, h⟩ := h
      exact ⟨property, hproperty, Option.bind_eq_some_iff.mpr ⟨rest, ih.mpr hrest, by rw [h]⟩⟩

theorem parse_eq_some_iff {m : Str} {member : Member} :
    parse ws m = some member ↔ ∃ first parts, m.splitOn ';' = first :: parts ∧
      parsePair ws first = some (member.key, member.value) ∧
      readProperties ws parts = some member.properties := by
  rw [parse]
  constructor
  · intro h
    split at h
    · cases h
    · rename_i first parts hsplit
      obtain ⟨pair, hpair, h⟩ := Option.bind_eq_some_iff.mp h
      obtain ⟨properties, hproperties, h⟩ := Option.bind_eq_some_iff.mp h
      obtain rfl := Option.some.inj h
      exact ⟨first, parts, hsplit, hpair, hproperties⟩
  · intro h
    obtain ⟨first, parts, hsplit, hpair, hproperties⟩ := h
    rw [hsplit]
    exact Option.bind_eq_some_iff.mpr ⟨_, hpair,
      Option.bind_eq_some_iff.mpr ⟨_, hproperties, rfl⟩⟩

/-! ### White space around a text -/

/-- What surrounds a trimmed text; if nothing is left of it, all of it stands behind. -/
theorem exists_around (ws : Char → Bool) (y : Str) : ∃ b r, Ows ws b ∧ Ows ws r ∧
    y = b ++ Text.trimBy ws y ++ r ∧ (Text.trimBy ws y = [] → b = []) := by
  obtain ⟨front, back, hy, hfront, hback⟩ := Text.trimBy_append ws y
  by_cases hnil : Text.trimBy ws y = []
  · refine ⟨[], y, by simp [Ows], ?_, by simp [hnil], fun _ => rfl⟩
    rw [hnil, List.append_nil] at hy
    rw [hy]
    intro c hc
    rcases List.mem_append.mp hc with hc | hc
    · exact hfront c hc
    · exact hback c hc
  · exact ⟨front, back, hfront, hback, hy, fun h => absurd h hnil⟩

theorem Ows.append {a b : Str} (ha : Ows ws a) (hb : Ows ws b) : Ows ws (a ++ b) := by
  intro c hc
  rcases List.mem_append.mp hc with hc | hc
  · exact ha c hc
  · exact hb c hc

/-- What is read as a pair. -/
theorem parsePair_eq_some {text k v : Str} (h : parsePair ws text = some (k, v)) :
    ∃ l a b r, Ows ws l ∧ Ows ws a ∧ Ows ws b ∧ Ows ws r ∧ Token k ∧ ValueText v ∧
      text = l ++ (k ++ a ++ '=' :: (b ++ v)) ++ r ∧ (v = [] → b = []) := by
  rw [parsePair] at h
  split at h
  · cases h
  · rename_i x y hsplit
    split at h
    · rename_i hok
      rw [Bool.and_eq_true] at hok
      obtain ⟨rfl, rfl⟩ := Prod.mk.inj (Option.some.inj h)
      obtain ⟨rfl, -⟩ := Text.splitOnce_eq_some hsplit
      obtain ⟨l, a, hx, hl, ha⟩ := Text.trimBy_append ws x
      obtain ⟨b, r, hb, hr, hy, hnil⟩ := exists_around ws y
      refine ⟨l, a, b, r, hl, ha, hb, hr, token_iff.mpr hok.1, valueText_iff.mpr hok.2, ?_, hnil⟩
      conv_lhs => rw [hx, hy]
      simp only [List.append_assoc, List.cons_append]
    · cases h

variable (hws : ∀ c, IsVisible c → ws c = false)

include hws

theorem notMem_of_ows {a : Str} (ha : Ows ws a) {c : Char} (hc : IsVisible c) : c ∉ a := by
  intro hmem
  have := ha c hmem
  rw [hws c hc] at this
  cases this

theorem trimBy_token {k : Str} (h : Token k) : Text.trimBy ws k = k :=
  Text.trimBy_of_forall fun c hc => hws c (token_chars h c hc).1

theorem trimBy_value {v : Str} (h : ValueText v) : Text.trimBy ws v = v :=
  Text.trimBy_of_forall fun c hc => hws c (value_chars h c hc).1

theorem not_ws_last_token {k : Str} (h : Token k) (l : Str) :
    ∀ c ∈ (l ++ k).getLast?, ws c = false := by
  intro c hc
  rw [List.getLast?_append_of_ne_nil _ h.1] at hc
  exact hws c (token_chars h c (List.mem_of_mem_getLast? hc)).1

/-- A pair ends with its value, or with `=` if that is empty. -/
theorem not_ws_last_value {b v : Str} (h : ValueText v) (hb : v = [] → b = []) (l : Str) :
    ∀ c ∈ (l ++ '=' :: (b ++ v)).getLast?, ws c = false := by
  intro c hc
  by_cases hv : v = []
  · rw [hv, hb hv, List.append_nil, List.getLast?_concat] at hc
    obtain rfl := Option.mem_some_iff.mp hc
    exact hws _ ⟨by decide, by decide⟩
  · have hsplit : l ++ '=' :: (b ++ v) = (l ++ '=' :: b) ++ v := by simp
    rw [hsplit, List.getLast?_append_of_ne_nil _ hv] at hc
    exact hws c (value_chars h c (List.mem_of_mem_getLast? hc)).1

/-! ### Pairs and properties -/

theorem parsePair_of_text {l k a b v r : Str} (hl : Ows ws l) (ha : Ows ws a) (hb : Ows ws b)
    (hr : Ows ws r) (hk : Token k) (hv : ValueText v) :
    parsePair ws (l ++ (k ++ a ++ '=' :: (b ++ v)) ++ r) = some (k, v) := by
  have heq : IsVisible '=' := ⟨by decide, by decide⟩
  have hnot : '=' ∉ l ++ k ++ a := by
    simp only [List.mem_append, not_or]
    exact ⟨⟨notMem_of_ows hws hl heq, fun hmem => (token_chars hk _ hmem).2.2.2 rfl⟩,
      notMem_of_ows hws ha heq⟩
  have htext : l ++ (k ++ a ++ '=' :: (b ++ v)) ++ r = (l ++ k ++ a) ++ '=' :: (b ++ v ++ r) := by
    simp only [List.append_assoc, List.cons_append]
  rw [htext, parsePair, Text.splitOnce_append hnot]
  simp only [Text.trimBy_eq_of_append hl ha (trimBy_token hws hk),
    Text.trimBy_eq_of_append hb hr (trimBy_value hws hv), token_iff.mp hk, valueText_iff.mp hv,
    Bool.and_self, if_true]

theorem parseProperty_eq_some {part : Str} {property : Property}
    (h : parseProperty ws part = some property) :
    ∃ l p r, Ows ws l ∧ Ows ws r ∧ PropertyText ws p property ∧ part = l ++ p ++ r ∧ p ≠ [] ∧
      ∀ c ∈ p.getLast?, ws c = false := by
  rw [parseProperty] at h
  split at h
  · obtain ⟨⟨k, v⟩, hpair, rfl⟩ := Option.map_eq_some_iff.mp h
    obtain ⟨l, a, b, r, hl, ha, hb, hr, hk, hv, htext, hnil⟩ := parsePair_eq_some hpair
    exact ⟨l, _, r, hl, hr, .valued hk ha hb hv, htext, by simp, not_ws_last_value hws hv hnil _⟩
  · split at h
    · rename_i htoken
      obtain rfl := Option.some.inj h
      obtain ⟨l, r, hpart, hl, hr⟩ := Text.trimBy_append ws part
      have hk := token_iff.mpr htoken
      have hp : PropertyText ws (Text.trimBy ws part ++ []) ⟨Text.trimBy ws part, none⟩ :=
        .bare hk fun c hc => by cases hc
      rw [List.append_nil] at hp
      exact ⟨l, _, r, hl, hr, hp, hpart, hk.1, not_ws_last_token hws hk []⟩
    · cases h

theorem parseProperty_of_text {l p r : Str} {property : Property} (hl : Ows ws l) (hr : Ows ws r)
    (hp : PropertyText ws p property) : parseProperty ws (l ++ p ++ r) = some property := by
  have heq : IsVisible '=' := ⟨by decide, by decide⟩
  cases hp with
  | @bare k a hk ha =>
    have hnot : '=' ∉ l ++ (k ++ a) ++ r := by
      simp only [List.mem_append, not_or]
      exact ⟨⟨notMem_of_ows hws hl heq, fun hmem => (token_chars hk _ hmem).2.2.2 rfl,
        notMem_of_ows hws ha heq⟩, notMem_of_ows hws hr heq⟩
    have htrim : Text.trimBy ws (l ++ (k ++ a) ++ r) = k := by
      rw [← List.append_assoc, List.append_assoc]
      exact Text.trimBy_eq_of_append hl (ha.append hr) (trimBy_token hws hk)
    rw [parseProperty, if_neg hnot, htrim, if_pos (token_iff.mp hk)]
  | @valued k a b v hk ha hb hv =>
    rw [parseProperty, if_pos (by simp), parsePair_of_text hws hl ha hb hr hk hv]
    rfl

theorem propertyText_notMem {p : Str} {property : Property} (h : PropertyText ws p property) :
    ';' ∉ p := by
  have hsep : IsVisible ';' := ⟨by decide, by decide⟩
  cases h with
  | bare hk ha =>
    rw [List.mem_append, not_or]
    exact ⟨fun hmem => (token_chars hk _ hmem).2.2.1 rfl, notMem_of_ows hws ha hsep⟩
  | valued hk ha hb hv =>
    simp only [List.mem_append, List.mem_cons, not_or]
    exact ⟨⟨fun hmem => (token_chars hk _ hmem).2.2.1 rfl, notMem_of_ows hws ha hsep⟩, by decide,
      notMem_of_ows hws hb hsep, fun hmem => (value_chars hv _ hmem).2.2 rfl⟩

/-! ### Members -/

/-- The properties that are read, with the white space that stood before their first separator. -/
theorem propertiesText_of_parts {parts : List Str} {properties : List Property}
    (h : List.Forall₂ (fun part property => parseProperty ws part = some property) parts
      properties) {a : Str} (ha : Ows ws a) :
    ∃ rest r, Ows ws r ∧ a ++ parts.flatMap (fun p => ';' :: p) = rest ++ r ∧
      PropertiesText ws rest properties ∧ ∀ c ∈ rest.getLast?, ws c = false := by
  induction h generalizing a with
  | nil => exact ⟨[], a, ha, by simp, .nil, by simp⟩
  | @cons part property parts properties hhead _ ih =>
    obtain ⟨l, p, r, hl, hr, hp, rfl, hne, hlast⟩ := parseProperty_eq_some hws hhead
    obtain ⟨rest, r', hr', htext, htail, hlast'⟩ := ih hr
    refine ⟨a ++ ';' :: (l ++ p ++ rest), r', hr', ?_, .cons ha hl hp htail, ?_⟩
    · simp only [List.flatMap_cons, List.append_assoc, List.cons_append] at htext ⊢
      rw [htext]
    · have hsplit : a ++ ';' :: (l ++ p ++ rest) = (a ++ ';' :: l) ++ (p ++ rest) := by simp
      intro c hc
      rw [hsplit, List.getLast?_append_of_ne_nil _ (by simp [hne])] at hc
      by_cases hrest : rest = []
      · rw [hrest, List.append_nil] at hc
        exact hlast c hc
      · rw [List.getLast?_append_of_ne_nil _ hrest] at hc
        exact hlast' c hc

/-- The pieces behind a text of properties, with the white space that stands before them. -/
theorem parts_of_propertiesText {rest : Str} {properties : List Property}
    (h : PropertiesText ws rest properties) {r : Str} (hr : Ows ws r) :
    ∃ a parts, Ows ws a ∧ rest ++ r = a ++ parts.flatMap (fun p => ';' :: p) ∧
      (∀ part ∈ parts, ';' ∉ part) ∧
      List.Forall₂ (fun part property => parseProperty ws part = some property) parts
        properties := by
  have hsep : IsVisible ';' := ⟨by decide, by decide⟩
  induction h with
  | nil => exact ⟨r, [], hr, by simp, List.forall_mem_nil _, .nil⟩
  | @cons a b p rest property properties ha hb hp _ ih =>
    obtain ⟨a', parts, ha', htext, hparts, hproperties⟩ := ih
    refine ⟨a, (b ++ p ++ a') :: parts, ha, ?_, ?_, .cons (parseProperty_of_text hws hb ha' hp)
      hproperties⟩
    · simp only [List.flatMap_cons, List.append_assoc, List.cons_append]
      rw [htext]
    · rw [List.forall_mem_cons]
      refine ⟨?_, hparts⟩
      simp only [List.mem_append, not_or]
      exact ⟨⟨notMem_of_ows hws hb hsep, propertyText_notMem hws hp⟩, notMem_of_ows hws ha' hsep⟩

theorem listMember_of_parse {m : Str} {member : Member} (h : parse ws m = some member) :
    ListMember ws m member := by
  obtain ⟨first, parts, hsplit, hpair, hproperties⟩ := parse_eq_some_iff.mp h
  obtain ⟨l, a, b, r, hl, ha, hb, hr, hk, hv, rfl, hnil⟩ := parsePair_eq_some hpair
  obtain ⟨rest, r', hr', htext, hrest, hlast⟩ :=
    propertiesText_of_parts hws (readProperties_eq_some_iff.mp hproperties) hr
  have hmember : MemberText ws
      (member.key ++ a ++ '=' :: (b ++ member.value) ++ rest) member := .intro hk ha hb hv hrest
  have hm : m = l ++ (member.key ++ a ++ '=' :: (b ++ member.value) ++ rest) ++ r' := by
    rw [(Text.splitOn_eq_cons_iff.mp hsplit).1]
    simp only [List.append_assoc, List.cons_append] at htext ⊢
    rw [htext]
  have htrim : Text.trimBy ws (member.key ++ a ++ '=' :: (b ++ member.value) ++ rest) =
      member.key ++ a ++ '=' :: (b ++ member.value) ++ rest := by
    refine Text.trimBy_eq_self (fun c hc => ?_) (fun c hc => ?_)
    · rw [List.append_assoc, List.append_assoc, List.head?_append_of_ne_nil _ hk.1] at hc
      exact hws c (token_chars hk c (List.mem_of_mem_head? hc)).1
    · by_cases hrest : rest = []
      · rw [hrest, List.append_nil] at hc
        exact not_ws_last_value hws hv hnil _ c hc
      · rw [List.getLast?_append_of_ne_nil _ hrest] at hc
        exact hlast c hc
  rw [ListMember, hm, Text.trimBy_eq_of_append hl hr' htrim]
  exact hmember

theorem parse_of_listMember {m : Str} {member : Member} (h : ListMember ws m member) :
    parse ws m = some member := by
  have hsep : IsVisible ';' := ⟨by decide, by decide⟩
  obtain ⟨l, r, hm, hl, hr⟩ := Text.trimBy_append ws m
  rw [ListMember] at h
  generalize Text.trimBy ws m = t at h hm
  cases h with
  | @intro k a b v rest properties hk ha hb hv hrest =>
    obtain ⟨a', parts, ha', htext, hparts, hproperties⟩ := parts_of_propertiesText hws hrest hr
    have hfirst : ';' ∉ l ++ (k ++ a ++ '=' :: (b ++ v)) ++ a' := by
      simp only [List.mem_append, List.mem_cons, not_or]
      exact ⟨⟨notMem_of_ows hws hl hsep, ⟨fun hmem => (token_chars hk _ hmem).2.2.1 rfl,
        notMem_of_ows hws ha hsep⟩, by decide, notMem_of_ows hws hb hsep,
        fun hmem => (value_chars hv _ hmem).2.2 rfl⟩, notMem_of_ows hws ha' hsep⟩
    have hsplit : m.splitOn ';' = (l ++ (k ++ a ++ '=' :: (b ++ v)) ++ a') :: parts := by
      refine Text.splitOn_eq_cons_iff.mpr ⟨?_, hfirst, hparts⟩
      rw [hm]
      simp only [List.append_assoc, List.cons_append] at htext ⊢
      rw [htext]
    exact parse_eq_some_iff.mpr ⟨_, parts, hsplit, parsePair_of_text hws hl ha hb ha' hk hv,
      readProperties_eq_some_iff.mpr hproperties⟩

/-- **The grammar is unambiguous**, and `parse` reads the member it derives. -/
theorem listMember_iff {m : Str} {member : Member} :
    ListMember ws m member ↔ parse ws m = some member :=
  ⟨parse_of_listMember hws, listMember_of_parse hws⟩

end Parse

end OtelC.Baggage
