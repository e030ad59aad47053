import OtelC.Baggage.Model

/-!
# The wire form of a baggage entry

What the reader and the writer of a header say about one entry, stated without their loops: which
metadata is a property list (`ValidPropertyList`), which entries can be written at all
(`Emittable`), the text an entry is written as (`wire`), and the entry that text is read back as
(`normalised`).

* `encodedMember_eq`: the writer produces `wire` for the emittable entries and nothing for others.
* `parseMember_wire`: the reader gives back the normalised entry.
-/

namespace OtelC.Baggage

/-! ### Characters -/

/-- A visible ASCII character. -/
def IsVisible (c : Char) : Prop := 0x21 ≤ c.toNat ∧ c.toNat ≤ 0x7E

instance : DecidablePred IsVisible := fun c =>
  inferInstanceAs (Decidable (0x21 ≤ c.toNat ∧ c.toNat ≤ 0x7E))

theorem not_isWhiteSpace_of_isVisible {c : Char} (h : IsVisible c) : isWhiteSpace c = false := by
  obtain ⟨hlo, hhi⟩ := h
  simp only [isWhiteSpace, Bool.or_eq_false_iff, Bool.and_eq_false_iff, decide_eq_false_iff_not]
  omega

theorem trim_of_isVisible {s : Str} (h : ∀ c ∈ s, IsVisible c) : trim s = s :=
  Text.trimBy_of_forall fun c hc => not_isWhiteSpace_of_isVisible (h c hc)

@[simp] theorem trim_nil : trim [] = [] := rfl

theorem trim_trim (s : Str) : trim (trim s) = trim s := Text.trimBy_trimBy _ s

theorem ofNat_toNat_of_lt {c : Char} (h : c.toNat < 0x80) :
    (UInt8.ofNat c.toNat).toNat = c.toNat := by
  rw [UInt8.toNat_ofNat']
  omega

theorem isTokenByte_range {b : UInt8} (h : isTokenByte b = true) :
    0x21 ≤ b.toNat ∧ b.toNat ≤ 0x7E ∧ b.toNat ≠ 0x2C ∧ b.toNat ≠ 0x3B ∧ b.toNat ≠ 0x3D := by
  simp only [isTokenByte, Bool.or_eq_true, Bool.and_eq_true, decide_eq_true_eq, List.mem_cons,
    List.not_mem_nil, or_false] at h
  rcases h with ((h | h) | h) | h
  · omega
  · omega
  · omega
  · rcases h with rfl | rfl | rfl | rfl | rfl | rfl | rfl | rfl | rfl | rfl | rfl | rfl | rfl |
      rfl | rfl <;> decide

theorem isValueByte_range {b : UInt8} (h : isValueByte b = true) :
    0x21 ≤ b.toNat ∧ b.toNat ≤ 0x7E ∧ b.toNat ≠ 0x2C ∧ b.toNat ≠ 0x3B := by
  simp only [isValueByte, Bool.or_eq_true, Bool.and_eq_true, decide_eq_true_eq] at h
  omega

theorem char_ne_of_toNat_ne {c d : Char} (h : c.toNat ≠ d.toNat) : c ≠ d :=
  fun hcd => h (congrArg Char.toNat hcd)

/-- A token is visible and holds none of the separators. -/
theorem isToken_spec {s : Str} (h : isToken s = true) :
    s ≠ [] ∧ ∀ c ∈ s, IsVisible c ∧ c ≠ ',' ∧ c ≠ ';' ∧ c ≠ '=' := by
  simp only [isToken, Bool.and_eq_true, Bool.not_eq_true', List.isEmpty_eq_false_iff,
    List.all_eq_true] at h
  refine ⟨h.1, fun c hc => ?_⟩
  obtain ⟨hascii, hb⟩ := (Utf8.forall_encode_iff (p := fun b => isTokenByte b = true)
    (fun b hb => by have := isTokenByte_range hb; omega) s).mp h.2 c hc
  have hr := isTokenByte_range hb
  rw [ofNat_toNat_of_lt hascii] at hr
  exact ⟨⟨hr.1, hr.2.1⟩, char_ne_of_toNat_ne hr.2.2.1, char_ne_of_toNat_ne hr.2.2.2.1,
    char_ne_of_toNat_ne hr.2.2.2.2⟩

theorem isToken_ne_nil {s : Str} (h : isToken s = true) : s ≠ [] := (isToken_spec h).1

theorem trim_isToken {s : Str} (h : isToken s = true) : trim s = s :=
  trim_of_isVisible fun c hc => ((isToken_spec h).2 c hc).1

/-- The bytes of a value are visible and hold neither member nor property separator. -/
theorem valueBytes_spec {s : Str} (h : (Utf8.encode s).all isValueByte = true) :
    ∀ c ∈ s, IsVisible c ∧ c ≠ ',' ∧ c ≠ ';' := by
  intro c hc
  rw [List.all_eq_true] at h
  obtain ⟨hascii, hb⟩ := (Utf8.forall_encode_iff (p := fun b => isValueByte b = true)
    (fun b hb => by have := isValueByte_range hb; omega) s).mp h c hc
  have hr := isValueByte_range hb
  rw [ofNat_toNat_of_lt hascii] at hr
  exact ⟨⟨hr.1, hr.2.1⟩, char_ne_of_toNat_ne hr.2.2.1, char_ne_of_toNat_ne hr.2.2.2⟩

/-! ### Values -/

theorem isLiteral_isValueByte {b : UInt8} (h : isLiteral b = true) : isValueByte b = true := by
  simp only [isLiteral, isValueByte, Bool.or_eq_true, Bool.and_eq_true, decide_eq_true_eq] at h ⊢
  omega

theorem isValueByte_of_mem_encode {b : UInt8} {bytes : List UInt8}
    (h : b ∈ Percent.encode isLiteral bytes) : isValueByte b = true := by
  rcases Percent.mem_encode h with h | rfl | ⟨n, hn, rfl⟩
  · exact isLiteral_isValueByte h
  · decide
  · have := Hex.upper_toNat_range hn
    simp only [isValueByte, Bool.or_eq_true, Bool.and_eq_true, decide_eq_true_eq]
    omega

theorem encode_encodeValue (value : Str) :
    Utf8.encode (encodeValue value) = Percent.encode isLiteral (Utf8.encode value) := by
  refine Utf8.encode_map_ascii fun b hb => ?_
  have := isValueByte_range (isValueByte_of_mem_encode hb)
  omega

theorem encodeValue_valueBytes (value : Str) :
    (Utf8.encode (encodeValue value)).all isValueByte = true := by
  rw [encode_encodeValue, List.all_eq_true]
  exact fun b hb => isValueByte_of_mem_encode hb

/-- Every value is read back as it was written, whatever bytes it holds. -/
theorem percentDecode_encodeValue (value : Str) : percentDecode (encodeValue value) = some value := by
  rw [percentDecode, encode_encodeValue, Percent.decode_encode (by rfl), Option.map_some,
    Utf8.fromUtf8Lossy_encode]

/-! ### Property lists -/

/-- A syntactically valid property list: every property is, once trimmed. -/
def ValidPropertyList (metadata : Str) : Prop :=
  ∀ part ∈ metadata.splitOn ';', propertyIsValid (trim part) = true

instance (metadata : Str) : Decidable (ValidPropertyList metadata) :=
  inferInstanceAs (Decidable (∀ part ∈ metadata.splitOn ';', propertyIsValid (trim part) = true))

/-- The property list with each property trimmed. -/
def normaliseMetadata (metadata : Str) : Str :=
  List.intercalate [';'] ((metadata.splitOn ';').map trim)

theorem propertyIsValid_ne_nil {property : Str} (h : propertyIsValid property = true) :
    property ≠ [] := by
  rintro rfl
  simp [propertyIsValid] at h

theorem propertyIsValid_chars {property : Str} (h : propertyIsValid property = true) :
    ∀ c ∈ property, IsVisible c ∧ c ≠ ',' ∧ c ≠ ';' := by
  unfold propertyIsValid at h
  split at h
  · simp at h
  · split at h
    · intro c hc
      have := (isToken_spec h).2 c hc
      exact ⟨this.1, this.2.1, this.2.2.1⟩
    · rename_i k v hsplit
      simp only [Bool.and_eq_true] at h
      rw [(Text.splitOnce_eq_some hsplit).1]
      intro c hc
      rcases List.mem_append.mp hc with hc | hc
      · have := (isToken_spec h.1).2 c hc
        exact ⟨this.1, this.2.1, this.2.2.1⟩
      · rcases List.mem_cons.mp hc with rfl | hc
        · exact ⟨⟨by decide, by decide⟩, by decide, by decide⟩
        · exact valueBytes_spec h.2.1 c hc

theorem parseProperties_eq (parts : List Str) (metadata : Str) :
    parseProperties parts metadata =
      if ∀ part ∈ parts, propertyIsValid (trim part) = true then
        some ((parts.map trim).foldl (Text.joinPush ';') metadata)
      else none := by
  induction parts generalizing metadata with
  | nil => simp [parseProperties]
  | cons part parts ih =>
    rw [parseProperties]
    by_cases h : propertyIsValid (trim part) = true
    · rw [if_pos h, ih]
      simp [h]
    · rw [if_neg h, if_neg]
      intro hall
      exact h (hall part (by simp))

theorem parseProperties_nil_eq {parts : List Str}
    (h : ∀ part ∈ parts, propertyIsValid (trim part) = true) :
    parseProperties parts [] = some (List.intercalate [';'] (parts.map trim)) := by
  rw [parseProperties_eq, if_pos h, Text.foldl_joinPush]
  intro p hp
  obtain ⟨part, hpart, rfl⟩ := List.mem_map.mp hp
  exact propertyIsValid_ne_nil (h part hpart)

theorem parseProperties_splitOn (metadata : Str) :
    parseProperties (metadata.splitOn ';') [] =
      if ValidPropertyList metadata then some (normaliseMetadata metadata) else none := by
  by_cases h : ValidPropertyList metadata
  · rw [if_pos h]
    exact parseProperties_nil_eq h
  · rw [if_neg h, parseProperties_eq]
    exact if_neg h

theorem normaliseMetadata_nil : normaliseMetadata [] = [] := rfl

/-- A character of a valid property list is visible, or white space around a property. -/
theorem validPropertyList_chars {metadata : Str} (h : ValidPropertyList metadata) :
    ∀ c ∈ metadata, c ≠ ',' ∧ (IsVisible c ∨ isWhiteSpace c = true) := by
  intro c hc
  rw [← show List.intercalate [';'] (metadata.splitOn ';') = metadata from
    List.intercalate_splitOn ';'] at hc
  rcases Text.mem_intercalate hc with rfl | ⟨part, hpart, hc⟩
  · exact ⟨by decide, .inl ⟨by decide, by decide⟩⟩
  · rcases Text.mem_trimBy_or (p := isWhiteSpace) hc with hc | hc
    · have := propertyIsValid_chars (h part hpart) c hc
      exact ⟨this.2.1, .inl this.1⟩
    · refine ⟨?_, .inr hc⟩
      rintro rfl
      simp [isWhiteSpace] at hc

/-! ### Members -/

/-- The entries that can be written to a header. -/
def Emittable (e : BaggageEntry) : Prop :=
  isToken e.key = true ∧ (e.metadata = [] ∨ ValidPropertyList e.metadata)

instance (e : BaggageEntry) : Decidable (Emittable e) :=
  inferInstanceAs (Decidable (_ ∧ _))

/-- The pair of an entry. -/
def wirePair (e : BaggageEntry) : Str := e.key ++ '=' :: encodeValue e.value

/-- The member an entry is written as. -/
def wire (e : BaggageEntry) : Str :=
  if e.metadata.isEmpty then wirePair e else wirePair e ++ ';' :: e.metadata

/-- The entry with every property trimmed. -/
def normalised (e : BaggageEntry) : BaggageEntry :=
  { e with metadata := normaliseMetadata e.metadata }

theorem wirePair_chars {e : BaggageEntry} (h : isToken e.key = true) :
    ∀ c ∈ wirePair e, IsVisible c ∧ c ≠ ',' ∧ c ≠ ';' := by
  intro c hc
  rcases List.mem_append.mp hc with hc | hc
  · have := (isToken_spec h).2 c hc
    exact ⟨this.1, this.2.1, this.2.2.1⟩
  · rcases List.mem_cons.mp hc with rfl | hc
    · exact ⟨⟨by decide, by decide⟩, by decide, by decide⟩
    · exact valueBytes_spec (encodeValue_valueBytes e.value) c hc

/-- Reading the pair of an entry in front of any list of properties. -/
theorem parseMember_of_splitOn {e : BaggageEntry} (h : isToken e.key = true) {member : Str}
    {parts : List Str} (hsplit : member.splitOn ';' = wirePair e :: parts) :
    parseMember member =
      (parseProperties parts []).map fun metadata => ⟨e.key, e.value, metadata⟩ := by
  have htrim : trim (wirePair e) = wirePair e :=
    trim_of_isVisible fun c hc => (wirePair_chars h c hc).1
  have honce : Text.splitOnce '=' (wirePair e) = some (e.key, encodeValue e.value) :=
    Text.splitOnce_append (fun hmem => ((isToken_spec h).2 _ hmem).2.2.2 rfl) _
  have hvalue : trim (encodeValue e.value) = encodeValue e.value :=
    trim_of_isVisible fun c hc => (valueBytes_spec (encodeValue_valueBytes e.value) c hc).1
  simp only [parseMember, hsplit, htrim, honce, trim_isToken h, hvalue, h,
    encodeValue_valueBytes, percentDecode_encodeValue, Bool.not_true, Bool.false_eq_true, if_false]
  cases parseProperties parts [] <;> rfl

theorem parseMember_pair {e : BaggageEntry} (h : isToken e.key = true) :
    parseMember (wirePair e) = some ⟨e.key, e.value, []⟩ := by
  have hsplit : (wirePair e).splitOn ';' = [wirePair e] :=
    List.splitOn_eq_singleton fun hmem => (wirePair_chars h _ hmem).2.2 rfl
  rw [parseMember_of_splitOn h hsplit]
  rfl

theorem parseMember_pair_append {e : BaggageEntry} (h : isToken e.key = true) (metadata : Str) :
    parseMember (wirePair e ++ ';' :: metadata) =
      if ValidPropertyList metadata then some ⟨e.key, e.value, normaliseMetadata metadata⟩
      else none := by
  rw [parseMember_of_splitOn h
    (Text.splitOn_append_cons (fun hmem => (wirePair_chars h _ hmem).2.2 rfl) metadata),
    parseProperties_splitOn]
  split <;> rfl

/-- The probe of `encoded_member` decides whether the metadata is a property list. -/
theorem parseMember_probe (metadata : Str) :
    (parseMember (lit "k=v;" ++ metadata)).isSome = true ↔ ValidPropertyList metadata := by
  have hpair : lit "k=v;" ++ metadata =
      wirePair ⟨lit "k", lit "v", []⟩ ++ ';' :: metadata := rfl
  rw [hpair, parseMember_pair_append (by decide)]
  split <;> simp_all

theorem encodedMember_eq (e : BaggageEntry) :
    encodedMember e = if Emittable e then some (wire e) else none := by
  unfold encodedMember wire
  by_cases hkey : isToken e.key = true
  · by_cases hnil : e.metadata = []
    · rw [if_pos (show Emittable e from ⟨hkey, .inl hnil⟩)]
      simp [hkey, hnil, wirePair]
    · have hprobe := parseMember_probe e.metadata
      simp only [hkey, Bool.not_true, Bool.false_eq_true, if_false, List.isEmpty_iff, hnil]
      by_cases hvalid : ValidPropertyList e.metadata
      · obtain ⟨probe, hp⟩ := Option.isSome_iff_exists.mp (hprobe.mpr hvalid)
        rw [hp, if_pos (show Emittable e from ⟨hkey, .inr hvalid⟩)]
        rfl
      · have hp : parseMember (lit "k=v;" ++ e.metadata) = none := by
          rw [← Option.not_isSome_iff_eq_none, hprobe]
          exact hvalid
        rw [hp, if_neg]
        · rfl
        · rintro ⟨-, h | h⟩
          · exact hnil h
          · exact hvalid h
  · rw [if_neg (show ¬Emittable e from fun h => hkey h.1), Bool.not_eq_true] at *
    simp [hkey]

theorem parseMember_wire {e : BaggageEntry} (h : Emittable e) :
    parseMember (wire e) = some (normalised e) := by
  unfold wire normalised
  by_cases hnil : e.metadata = []
  · simp only [hnil, List.isEmpty_nil, if_true, parseMember_pair h.1, normaliseMetadata_nil]
  · have hvalid := h.2.resolve_left hnil
    simp only [List.isEmpty_iff, hnil, if_false, parseMember_pair_append h.1, if_pos hvalid]

theorem wire_ne_nil (e : BaggageEntry) : wire e ≠ [] := by
  unfold wire wirePair
  split <;> simp

theorem comma_notMem_wire {e : BaggageEntry} (h : Emittable e) : ',' ∉ wire e := by
  unfold wire
  split
  · exact fun hmem => (wirePair_chars h.1 _ hmem).2.1 rfl
  · rename_i hnil
    have hvalid := h.2.resolve_left (by simpa using hnil)
    simp only [List.mem_append, List.mem_cons, not_or]
    exact ⟨fun hmem => (wirePair_chars h.1 _ hmem).2.1 rfl, by decide,
      fun hmem => (validPropertyList_chars hvalid _ hmem).1 rfl⟩

end OtelC.Baggage
