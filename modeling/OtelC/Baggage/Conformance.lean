import OtelC.Baggage.Grammar

/-!
# The reader and the grammar

`parse_member` against the grammar of a list member.  The reader trims any Unicode white space, and
it does not trim around the `=` of a property.

* `parseMember_eq_some_iff`: what the reader accepts, in terms of the grammar.
* `parseMember_conforms_iff`: when the reader follows the grammar.
-/

namespace OtelC.Baggage

/-! ### What the reader accepts -/

/-- No property has white space in it, once trimmed. -/
def Compact (m : Str) : Prop :=
  ∀ part ∈ (m.splitOn ';').tail, ∀ c ∈ trim part, isWhiteSpace c = false

theorem isWhiteSpace_of_isVisible : ∀ c, IsVisible c → isWhiteSpace c = false :=
  fun _ => not_isWhiteSpace_of_isVisible

theorem not_isWhiteSpace_eq : isWhiteSpace '=' = false := rfl

theorem trim_eq_of_compact {s : Str} (h : ∀ c ∈ s, isWhiteSpace c = false) : trim s = s :=
  Text.trimBy_of_forall h

/-- Of a property with a value, the reader trims the outer ends only. -/
theorem propertyIsValid_pair {part x y : Str} (h : Text.splitOnce '=' part = some (x, y)) :
    propertyIsValid (trim part) = (isToken (x.dropWhile isWhiteSpace) &&
      isValue (y.rdropWhile isWhiteSpace)) := by
  have hsplit := Text.splitOnce_trimBy not_isWhiteSpace_eq h
  have hne : (trim part).isEmpty = false := by
    rw [trim, (Text.splitOnce_eq_some hsplit).1]
    simp
  rw [propertyIsValid, hne, if_neg Bool.false_ne_true, trim, hsplit]
  rfl

theorem propertyIsValid_bare {part : Str} (h : Text.splitOnce '=' part = none) :
    propertyIsValid (trim part) = isToken (trim part) := by
  have hsplit := (Text.splitOnce_trimBy_eq_none not_isWhiteSpace_eq).mpr h
  rw [propertyIsValid]
  split
  · rename_i hnil
    rw [List.isEmpty_iff.mp hnil]
    rfl
  · rw [trim, hsplit]

theorem trim_pair {part x y : Str} (h : Text.splitOnce '=' part = some (x, y)) :
    trim part = x.dropWhile isWhiteSpace ++ '=' :: y.rdropWhile isWhiteSpace :=
  (Text.splitOnce_eq_some (Text.splitOnce_trimBy not_isWhiteSpace_eq h)).1

theorem parseProperty_pair {ws : Char → Bool} {part x y : Str}
    (h : Text.splitOnce '=' part = some (x, y)) :
    parseProperty ws part =
      if isToken (Text.trimBy ws x) && isValue (Text.trimBy ws y) then
        some ⟨Text.trimBy ws x, some (Text.trimBy ws y)⟩ else none := by
  have hmem : '=' ∈ part := by
    rw [(Text.splitOnce_eq_some h).1]
    simp
  rw [parseProperty, if_pos hmem, parsePair, h]
  show Option.map _ (if _ then _ else _) = _
  split
  · rfl
  · rfl

theorem parseProperty_bare {ws : Char → Bool} {part : Str} (h : Text.splitOnce '=' part = none) :
    parseProperty ws part =
      if isToken (Text.trimBy ws part) then some ⟨Text.trimBy ws part, none⟩ else none := by
  rw [parseProperty, if_neg (Text.splitOnce_eq_none.mp h)]

/-- Without white space in a property, its two sides are trimmed once its outer ends are. -/
theorem trim_sides {part x y : Str} (h : Text.splitOnce '=' part = some (x, y))
    (hcompact : ∀ c ∈ trim part, isWhiteSpace c = false) :
    trim x = x.dropWhile isWhiteSpace ∧ trim y = y.rdropWhile isWhiteSpace := by
  rw [trim_pair h] at hcompact
  have hx := trim_eq_of_compact fun c hc => hcompact c (List.mem_append_left _ hc)
  have hy := trim_eq_of_compact fun c hc =>
    hcompact c (List.mem_append_right _ (List.mem_cons_of_mem _ hc))
  rw [trim, Text.trimBy_dropWhile] at hx
  rw [trim, Text.trimBy_rdropWhile] at hy
  exact ⟨hx, hy⟩

/-- The reader accepts the properties of the grammar that have no white space in them. -/
theorem propertyIsValid_iff {part : Str} : propertyIsValid (trim part) = true ↔
    (∃ property, parseProperty isWhiteSpace part = some property) ∧
      ∀ c ∈ trim part, isWhiteSpace c = false := by
  constructor
  · intro h
    have hcompact : ∀ c ∈ trim part, isWhiteSpace c = false := fun c hc =>
      not_isWhiteSpace_of_isVisible (propertyIsValid_chars h c hc).1
    refine ⟨?_, hcompact⟩
    cases hsplit : Text.splitOnce '=' part with
    | none =>
      rw [propertyIsValid_bare hsplit] at h
      rw [parseProperty_bare hsplit]
      exact ⟨_, if_pos h⟩
    | some pair =>
      obtain ⟨hx, hy⟩ := trim_sides hsplit hcompact
      rw [propertyIsValid_pair hsplit, ← hx, ← hy] at h
      rw [parseProperty_pair hsplit]
      exact ⟨_, if_pos h⟩
  · intro h
    obtain ⟨⟨property, hproperty⟩, hcompact⟩ := h
    cases hsplit : Text.splitOnce '=' part with
    | none =>
      rw [parseProperty_bare hsplit] at hproperty
      rw [propertyIsValid_bare hsplit]
      split at hproperty
      · assumption
      · cases hproperty
    | some pair =>
      obtain ⟨hx, hy⟩ := trim_sides hsplit hcompact
      rw [parseProperty_pair hsplit] at hproperty
      rw [propertyIsValid_pair hsplit, ← hx, ← hy]
      split at hproperty
      · assumption
      · cases hproperty

theorem text_of_compact {part : Str} {property : Property}
    (h : parseProperty isWhiteSpace part = some property)
    (hcompact : ∀ c ∈ trim part, isWhiteSpace c = false) : property.text = trim part := by
  cases hsplit : Text.splitOnce '=' part with
  | none =>
    rw [parseProperty_bare hsplit] at h
    split at h
    · obtain rfl := Option.some.inj h
      rfl
    · cases h
  | some pair =>
    obtain ⟨hx, hy⟩ := trim_sides hsplit hcompact
    rw [parseProperty_pair hsplit] at h
    split at h
    · obtain rfl := Option.some.inj h
      rw [trim_pair hsplit, ← hx, ← hy]
      rfl
    · cases h

/-- Properties without white space, one by one. -/
def CompactParts (parts : List Str) : Prop :=
  ∀ part ∈ parts, ∀ c ∈ trim part, isWhiteSpace c = false

theorem propertiesValid_iff {parts : List Str} :
    (∀ part ∈ parts, propertyIsValid (trim part) = true) ↔
      (∃ properties, readProperties isWhiteSpace parts = some properties) ∧ CompactParts parts := by
  induction parts with
  | nil => exact iff_of_true (List.forall_mem_nil _) ⟨⟨[], rfl⟩, List.forall_mem_nil _⟩
  | cons part parts ih =>
    rw [List.forall_mem_cons, ih, propertyIsValid_iff, CompactParts, CompactParts,
      List.forall_mem_cons]
    simp only [readProperties, Option.bind_eq_bind, Option.bind_eq_some_iff]
    constructor
    · intro h
      obtain ⟨⟨⟨property, hproperty⟩, hhead⟩, ⟨properties, hproperties⟩, htail⟩ := h
      exact ⟨⟨_, property, hproperty, properties, hproperties, rfl⟩, hhead, htail⟩
    · intro h
      obtain ⟨⟨_, property, hproperty, properties, hproperties, -⟩, hhead, htail⟩ := h
      exact ⟨⟨⟨property, hproperty⟩, hhead⟩, ⟨properties, hproperties⟩, htail⟩

theorem map_text_of_compact {parts : List Str} {properties : List Property}
    (h : readProperties isWhiteSpace parts = some properties) (hcompact : CompactParts parts) :
    properties.map Property.text = parts.map trim := by
  have hforall := readProperties_eq_some_iff.mp h
  clear h
  induction hforall with
  | nil => rfl
  | cons hhead _ ih =>
    have hparts := List.forall_mem_cons.mp hcompact
    rw [List.map_cons, List.map_cons, text_of_compact hhead hparts.1, ih hparts.2]

/-- The reader rebuilds the properties of the grammar. -/
theorem parseProperties_eq_some_iff {parts : List Str} {metadata : Str} :
    parseProperties parts [] = some metadata ↔
      ∃ properties, readProperties isWhiteSpace parts = some properties ∧ CompactParts parts ∧
        List.intercalate [';'] (properties.map Property.text) = metadata := by
  constructor
  · intro h
    have hvalid : ∀ part ∈ parts, propertyIsValid (trim part) = true := by
      rw [parseProperties_eq] at h
      split at h
      · assumption
      · cases h
    obtain ⟨⟨properties, hproperties⟩, hcompact⟩ := propertiesValid_iff.mp hvalid
    refine ⟨properties, hproperties, hcompact, ?_⟩
    rw [parseProperties_nil_eq hvalid] at h
    rw [map_text_of_compact hproperties hcompact, Option.some.inj h]
  · intro h
    obtain ⟨properties, hproperties, hcompact, rfl⟩ := h
    rw [map_text_of_compact hproperties hcompact]
    exact parseProperties_nil_eq (propertiesValid_iff.mpr ⟨⟨properties, hproperties⟩, hcompact⟩)

theorem isSome_percentDecode (s : Str) : (percentDecode s).isSome = hasValidPercentEncoding s := by
  rw [percentDecode, Option.isSome_map, Percent.isSome_decode, hasValidPercentEncoding]

/-- A pair is trimmed before it is cut, which its two sides do not notice. -/
theorem parsePair_eq_some_iff {first k v : Str} :
    parsePair isWhiteSpace first = some (k, v) ↔
      ∃ x y, Text.splitOnce '=' (trim first) = some (x, y) ∧ isToken (trim x) = true ∧
        isValue (trim y) = true ∧ trim x = k ∧ trim y = v := by
  rw [parsePair]
  cases hsplit : Text.splitOnce '=' first with
  | none =>
    have hnone := (Text.splitOnce_trimBy_eq_none not_isWhiteSpace_eq).mpr hsplit
    rw [trim, hnone]
    simp
  | some pair =>
    have hsome := Text.splitOnce_trimBy not_isWhiteSpace_eq hsplit
    rw [trim, hsome]
    show (if isToken (trim pair.1) && isValue (trim pair.2) then some (trim pair.1, trim pair.2)
      else none) = some (k, v) ↔ _
    have hx : trim (pair.1.dropWhile isWhiteSpace) = trim pair.1 := Text.trimBy_dropWhile _ _
    have hy : trim (pair.2.rdropWhile isWhiteSpace) = trim pair.2 := Text.trimBy_rdropWhile _ _
    constructor
    · intro h
      split at h
      · rename_i hok
        rw [Bool.and_eq_true] at hok
        obtain ⟨hk, hv⟩ := Prod.mk.inj (Option.some.inj h)
        exact ⟨_, _, rfl, by rw [hx]; exact hok.1, by rw [hy]; exact hok.2, by rw [hx, hk],
          by rw [hy, hv]⟩
      · cases h
    · intro h
      obtain ⟨x, y, hxy, hk, hv, rfl, rfl⟩ := h
      obtain ⟨rfl, rfl⟩ := Prod.mk.inj (Option.some.inj hxy)
      rw [hx] at hk
      rw [hy] at hv
      rw [hk, hv, hx, hy]
      rfl

/-- The reader accepts the list members over Unicode white space whose properties are compact. -/
theorem parseMember_eq_some_iff {m : Str} {e : BaggageEntry} :
    parseMember m = some e ↔
      ∃ member, ListMember isWhiteSpace m member ∧ Compact m ∧ member.Denotes e := by
  simp only [listMember_iff isWhiteSpace_of_isVisible, parse_eq_some_iff, Compact]
  rw [parseMember]
  cases hsplit : m.splitOn ';' with
  | nil => exact absurd hsplit (List.splitOn_ne_nil _ _)
  | cons first parts =>
    dsimp only
    constructor
    · intro h
      cases hpair : Text.splitOnce '=' (trim first) with
      | none =>
        rw [hpair] at h
        cases h
      | some pair =>
        rw [hpair] at h
        simp only [Option.ite_none_left_eq_some, Bool.not_eq_true', Bool.not_eq_false] at h
        obtain ⟨hk, hv, h⟩ := h
        obtain ⟨value, hvalue, h⟩ := Option.bind_eq_some_iff.mp h
        obtain ⟨metadata, hmetadata, h⟩ := Option.bind_eq_some_iff.mp h
        obtain ⟨properties, hproperties, hcompact, hjoin⟩ :=
          parseProperties_eq_some_iff.mp hmetadata
        have hescapes : hasValidPercentEncoding (trim pair.2) = true := by
          rw [← isSome_percentDecode, hvalue]
          rfl
        have hread : parsePair isWhiteSpace first = some (trim pair.1, trim pair.2) :=
          parsePair_eq_some_iff.mpr ⟨_, _, hpair, hk, by rw [isValue, hv, hescapes]; rfl, rfl, rfl⟩
        have htext : ValueText (trim pair.2) :=
          valueText_iff.mpr (by rw [isValue, hv, hescapes]; rfl)
        obtain rfl := Option.some.inj h
        exact ⟨⟨trim pair.1, trim pair.2, properties⟩,
          ⟨first, parts, rfl, hread, hproperties⟩, hcompact, rfl, (spellsText_iff htext).mpr hvalue,
          hjoin.symm⟩
    · intro h
      obtain ⟨member, ⟨first', parts', hcons, hpair, hproperties⟩, hcompact, hdenotes⟩ := h
      obtain ⟨rfl, rfl⟩ := List.cons.inj hcons
      obtain ⟨x, y, hxy, hk, hv, hkey, hvalue⟩ := parsePair_eq_some_iff.mp hpair
      have hdecode : percentDecode (trim y) = some e.value :=
        (spellsText_iff (valueText_iff.mpr hv)).mp (hvalue ▸ hdenotes.value)
      rw [isValue, Bool.and_eq_true] at hv
      have hmetadata : parseProperties parts [] = some e.metadata :=
        parseProperties_eq_some_iff.mpr ⟨_, hproperties, hcompact, hdenotes.metadata.symm⟩
      rw [hxy]
      simp only [hk, hv.1, hdecode, hmetadata, Bool.not_true, Bool.false_eq_true, if_false]
      rw [hkey, ← hdenotes.key]
      rfl

/-! ### Space and tab -/

/-- The white space of the grammar. -/
def isOws (c : Char) : Bool := c.toNat = 0x20 || c.toNat = 0x09

/-- All white space of a text is white space of the grammar. -/
def PlainWhiteSpace (m : Str) : Prop := ∀ c ∈ m, isWhiteSpace c = true → isOws c = true

theorem isWhiteSpace_of_isOws {c : Char} (h : isOws c = true) : isWhiteSpace c = true := by
  simp only [isOws, Bool.or_eq_true, decide_eq_true_eq] at h
  simp only [isWhiteSpace, Bool.or_eq_true, Bool.and_eq_true, decide_eq_true_eq]
  omega

section Classes

variable {ws ws' : Char → Bool}

theorem PropertyText.mono {p : Str} {property : Property} (h : PropertyText ws p property)
    (hsub : ∀ c ∈ p, ws c = true → ws' c = true) : PropertyText ws' p property := by
  cases h with
  | bare hk ha => exact .bare hk fun c hc => hsub c (by simp [hc]) (ha c hc)
  | valued hk ha hb hv =>
    exact .valued hk (fun c hc => hsub c (by simp [hc]) (ha c hc))
      (fun c hc => hsub c (by simp [hc]) (hb c hc)) hv

theorem PropertiesText.mono {rest : Str} {properties : List Property}
    (h : PropertiesText ws rest properties) (hsub : ∀ c ∈ rest, ws c = true → ws' c = true) :
    PropertiesText ws' rest properties := by
  induction h with
  | nil => exact .nil
  | cons ha hb hp _ ih =>
    exact .cons (fun c hc => hsub c (by simp [hc]) (ha c hc))
      (fun c hc => hsub c (by simp [hc]) (hb c hc)) (hp.mono fun c hc => hsub c (by simp [hc]))
      (ih fun c hc => hsub c (by simp [hc]))

theorem MemberText.mono {t : Str} {member : Member} (h : MemberText ws t member)
    (hsub : ∀ c ∈ t, ws c = true → ws' c = true) : MemberText ws' t member := by
  cases h with
  | intro hk ha hb hv hrest =>
    exact .intro hk (fun c hc => hsub c (by simp [hc]) (ha c hc))
      (fun c hc => hsub c (by simp [hc]) (hb c hc)) hv
      (hrest.mono fun c hc => hsub c (by simp [hc]))

/-- What a list member is only depends on which of its characters are white space. -/
theorem ListMember.congr {m : Str} {member : Member} (h : ListMember ws m member)
    (heq : ∀ c ∈ m, ws c = ws' c) : ListMember ws' m member := by
  rw [ListMember, ← Text.trimBy_congr heq]
  exact h.mono fun c hc hwsc => by
    rwa [← heq c ((Text.trimBy_sublist ws m).mem hc)]

/-- What stands in a text of properties. -/
theorem PropertiesText.chars {rest : Str} {properties : List Property}
    (h : PropertiesText ws rest properties) : ∀ c ∈ rest, IsVisible c ∨ ws c = true := by
  induction h with
  | nil => exact List.forall_mem_nil _
  | cons ha hb hp _ ih =>
    simp only [List.forall_mem_append, List.forall_mem_cons]
    refine ⟨fun c hc => .inr (ha c hc), .inl ⟨by decide, by decide⟩,
      ⟨fun c hc => .inr (hb c hc), ?_⟩, ih⟩
    cases hp with
    | bare hk ha =>
      rw [List.forall_mem_append]
      exact ⟨fun c hc => .inl (token_chars hk c hc).1, fun c hc => .inr (ha c hc)⟩
    | valued hk ha hb hv =>
      simp only [List.forall_mem_append, List.forall_mem_cons]
      exact ⟨⟨fun c hc => .inl (token_chars hk c hc).1, fun c hc => .inr (ha c hc)⟩,
        .inl ⟨by decide, by decide⟩, fun c hc => .inr (hb c hc),
        fun c hc => .inl (value_chars hv c hc).1⟩

theorem ListMember.chars {m : Str} {member : Member} (h : ListMember ws m member) :
    ∀ c ∈ m, IsVisible c ∨ ws c = true := by
  obtain ⟨l, r, hm, hl, hr⟩ := Text.trimBy_append ws m
  rw [ListMember] at h
  rw [hm]
  generalize Text.trimBy ws m = t at h
  cases h with
  | intro hk ha hb hv hrest =>
    simp only [List.forall_mem_append, List.forall_mem_cons]
    exact ⟨⟨fun c hc => .inr (hl c hc), ⟨⟨fun c hc => .inl (token_chars hk c hc).1,
      fun c hc => .inr (ha c hc)⟩, .inl ⟨by decide, by decide⟩, fun c hc => .inr (hb c hc),
      fun c hc => .inl (value_chars hv c hc).1⟩, hrest.chars⟩, fun c hc => .inr (hr c hc)⟩

end Classes

/-- The list members of the grammar are those over Unicode white space with plain white space only. -/
theorem listMember_isOws_iff {m : Str} {member : Member} :
    ListMember isOws m member ↔ ListMember isWhiteSpace m member ∧ PlainWhiteSpace m := by
  have heq : PlainWhiteSpace m → ∀ c ∈ m, isWhiteSpace c = isOws c := fun hplain c hc =>
    Bool.eq_iff_iff.mpr ⟨hplain c hc, isWhiteSpace_of_isOws⟩
  constructor
  · intro h
    have hplain : PlainWhiteSpace m := by
      intro c hc hwhite
      rcases h.chars c hc with hvisible | hows
      · rw [not_isWhiteSpace_of_isVisible hvisible] at hwhite
        cases hwhite
      · exact hows
    exact ⟨h.congr fun c hc => (heq hplain c hc).symm, hplain⟩
  · intro h
    exact h.1.congr (heq h.2)

/-! ### Reader and grammar -/

/-- The reader follows the grammar on a text: it reads it just when it is a list member, and then as the
entry that this denotes. -/
def Conforms (m : Str) : Prop :=
  ∀ e, parseMember m = some e ↔ ∃ member, ListMember isOws m member ∧ member.Denotes e

/-- **When the reader follows the grammar.**  Among the list members over Unicode white space the reader
asks for compact properties and the grammar for spaces and tabs. -/
theorem parseMember_conforms_iff (m : Str) :
    Conforms m ↔
      ((∃ member, ListMember isWhiteSpace m member) → (Compact m ↔ PlainWhiteSpace m)) := by
  simp only [Conforms, parseMember_eq_some_iff, listMember_isOws_iff]
  constructor
  · intro h ⟨member, hmember⟩
    obtain ⟨e, he⟩ := hmember.denotes
    constructor
    · intro hcompact
      obtain ⟨_, hother, -⟩ := (h e).mp ⟨member, hmember, hcompact, he⟩
      exact hother.2
    · intro hplain
      obtain ⟨_, -, hcompact, -⟩ := (h e).mpr ⟨member, ⟨hmember, hplain⟩, he⟩
      exact hcompact
  · intro h e
    constructor
    · intro hread
      obtain ⟨member, hmember, hcompact, he⟩ := hread
      exact ⟨member, ⟨hmember, (h ⟨member, hmember⟩).mp hcompact⟩, he⟩
    · intro hread
      obtain ⟨member, ⟨hmember, hplain⟩, he⟩ := hread
      exact ⟨member, hmember, (h ⟨member, hmember⟩).mpr hplain, he⟩

/-- A list member with spaces around the `=` of its property. -/
def spacedProperty : Str := lit "k=v;p = 1"

theorem listMember_spacedProperty :
    ListMember isOws spacedProperty ⟨lit "k", lit "v", [⟨lit "p", some (lit "1")⟩]⟩ := by
  have htrim : Text.trimBy isOws spacedProperty = lit "k" ++ [] ++ '=' :: ([] ++ lit "v") ++
      ([] ++ ';' :: ([] ++ (lit "p" ++ lit " " ++ '=' :: (lit " " ++ lit "1")) ++ [])) := by
    decide
  have hspace : Ows isOws (lit " ") := List.all_eq_true.mp (by decide)
  rw [ListMember, htrim]
  exact .intro (token_iff.mpr (by decide)) (List.forall_mem_nil _) (List.forall_mem_nil _)
    (valueText_of_isValue (by decide)) (.cons (List.forall_mem_nil _) (List.forall_mem_nil _)
      (.valued (token_iff.mpr (by decide)) hspace hspace (valueText_of_isValue (by decide))) .nil)

/-- A list member with a no-break space behind it. -/
def noBreakSpace : Str := lit "k=v" ++ [Char.ofNat 0xA0]

/-- The spaces around the `=` of a property make the reader refuse a list member, and a no-break space
does not. -/
theorem parseMember_deviates : (¬Conforms spacedProperty) ∧ ¬Conforms noBreakSpace := by
  constructor
  · intro h
    obtain ⟨e, he⟩ := listMember_spacedProperty.denotes
    have hread := (h e).mpr ⟨_, listMember_spacedProperty, he⟩
    have hnone : parseMember spacedProperty = none := by decide
    rw [hnone] at hread
    cases hread
  · intro h
    have hread : parseMember noBreakSpace = some ⟨lit "k", lit "v", []⟩ := by decide
    obtain ⟨member, hmember, -⟩ := (h _).mp hread
    exact absurd (hmember.chars (Char.ofNat 0xA0) (by decide)) (by decide)

end OtelC.Baggage
