import OtelC.Baggage.RoundTrip

/-!
# Which bytes a header is made of

Keys and values only ever put visible ASCII on the wire.  Metadata is written as it was given once
the probe accepts it, and the probe trims every property first: white space at a property's ends is
therefore written too, whichever white space it is.  A header is safe exactly when the metadata of
its entries has no white space but blanks and tabs (`headerSafe_injectText_iff`), and a run whose
`set` calls keep to that never writes anything else (`inject_headerSafe`).
-/

namespace OtelC.Baggage

/-- A byte that may stand in a header value: visible ASCII, blank or tab. -/
def HeaderSafe (b : UInt8) : Prop := 0x21 ≤ b.toNat ∧ b.toNat ≤ 0x7E ∨ b.toNat = 0x20 ∨ b.toNat = 0x09

instance : DecidablePred HeaderSafe := fun b =>
  inferInstanceAs (Decidable (0x21 ≤ b.toNat ∧ b.toNat ≤ 0x7E ∨ b.toNat = 0x20 ∨ b.toNat = 0x09))

/-- No white space but blanks and tabs. -/
def PlainSpaced (s : Str) : Prop := ∀ c ∈ s, isWhiteSpace c = true → c = ' ' ∨ c = Char.ofNat 9

instance (s : Str) : Decidable (PlainSpaced s) :=
  List.decidableBAll _ s

/-- A character whose bytes may all stand in a header value. -/
def SafeChar (c : Char) : Prop := IsVisible c ∨ c = ' ' ∨ c = Char.ofNat 9

theorem forall_headerSafe_iff (s : Str) :
    (∀ b ∈ Utf8.encode s, HeaderSafe b) ↔ ∀ c ∈ s, SafeChar c := by
  rw [Utf8.forall_encode_iff (p := HeaderSafe)
    (fun b hb => by unfold HeaderSafe at hb; omega)]
  refine forall₂_congr fun c _ => ?_
  have hof : ∀ n : Nat, n < 0xD800 → (c = Char.ofNat n ↔ c.toNat = n) := by
    intro n hn
    constructor
    · rintro rfl
      exact Utf8.toNat_charOfNat (.inl hn)
    · intro h
      rw [← h, Char.ofNat_toNat]
  have hblank : c = ' ' ↔ c.toNat = 0x20 := hof 0x20 (by omega)
  constructor
  · rintro ⟨hlt, hsafe⟩
    unfold HeaderSafe at hsafe
    rw [ofNat_toNat_of_lt hlt] at hsafe
    unfold SafeChar IsVisible
    rw [hblank, hof 9 (by omega)]
    exact hsafe
  · intro h
    unfold SafeChar IsVisible at h
    rw [hblank, hof 9 (by omega)] at h
    have hlt : c.toNat < 0x80 := by omega
    refine ⟨hlt, ?_⟩
    unfold HeaderSafe
    rw [ofNat_toNat_of_lt hlt]
    exact h

/-- The wire form of an emittable entry is safe exactly when its metadata is plainly spaced. -/
theorem safeChar_wire_iff {e : BaggageEntry} (h : Emittable e) :
    (∀ c ∈ wire e, SafeChar c) ↔ PlainSpaced e.metadata := by
  constructor
  · intro hsafe c hc hspace
    have hmem : c ∈ wire e := by
      unfold wire
      rw [if_neg (by simpa using List.ne_nil_of_mem hc)]
      exact List.mem_append_right _ (List.mem_cons_of_mem _ hc)
    rcases hsafe c hmem with hvisible | hplain
    · rw [not_isWhiteSpace_of_isVisible hvisible] at hspace
      exact absurd hspace (by simp)
    · exact hplain
  · intro hplain c hc
    unfold wire at hc
    split at hc
    · exact .inl (wirePair_chars h.1 c hc).1
    · rename_i hnil
      have hvalid := h.2.resolve_left (by simpa using hnil)
      rcases List.mem_append.mp hc with hc | hc
      · exact .inl (wirePair_chars h.1 c hc).1
      · rcases List.mem_cons.mp hc with rfl | hc
        · exact .inl ⟨by decide, by decide⟩
        · rcases (validPropertyList_chars hvalid c hc).2 with hvisible | hspace
          · exact .inl hvisible
          · exact .inr (hplain c hc hspace)

/-- A header is safe exactly when the metadata of every emitted entry is plainly spaced. -/
theorem headerSafe_injectText_iff (entries : List BaggageEntry) :
    (∀ b ∈ Utf8.encode (injectText entries), HeaderSafe b) ↔
      ∀ e ∈ emitted entries, PlainSpaced e.metadata := by
  rw [forall_headerSafe_iff, injectText_eq]
  constructor
  · intro hsafe e he
    refine (safeChar_wire_iff (emittable_of_mem_emittedFrom e he)).mp fun c hc => ?_
    exact hsafe c (Text.mem_intercalate_of_mem (List.mem_map_of_mem he) hc)
  · intro hplain c hc
    rcases Text.mem_intercalate hc with rfl | ⟨w, hw, hc⟩
    · exact .inl ⟨by decide, by decide⟩
    · obtain ⟨e, he, rfl⟩ := List.mem_map.mp hw
      exact (safeChar_wire_iff (emittable_of_mem_emittedFrom e he)).mpr (hplain e he) c hc

/-- A call that stores no metadata the probe accepts under a token key, unless it is plainly
spaced. -/
def Call.SetsPlainSpaced : Call → Prop
  | .builderSet _ key _ metadata => ∀ k m, Utf8.fromUtf8 key.read = some k →
      Utf8.fromUtf8 metadata.read = some m → isToken k = true → ValidPropertyList m → PlainSpaced m
  | _ => True

theorem plainSpaced_nil : PlainSpaced [] := by simp [PlainSpaced]

/-- Under that condition every stored entry that can be written is plainly spaced. -/
theorem plainSpaced_run {calls : List Call} (hcalls : ∀ call ∈ calls, call.SetsPlainSpaced)
    {x : Object} (hx : x ∈ run calls) {e : BaggageEntry} (he : e ∈ x.entries) (hemit : Emittable e) :
    PlainSpaced e.metadata := by
  refine forall_entries_run (p := fun e => Emittable e → PlainSpaced e.metadata) ?_ ?_ x hx e he
    hemit
  · intro builder key value metadata hcall e hkey _ hmeta _ hemit
    rcases hemit.2 with hnil | hvalid
    · rw [hnil]
      exact plainSpaced_nil
    · exact hcalls _ hcall e.key e.metadata (Utf8.fromUtf8_eq_some.mpr hkey)
        (Utf8.fromUtf8_eq_some.mpr hmeta) hemit.1 hvalid
  · intro member e hparse _ c hc hspace
    have hvisible := (parseMember_emittable hparse).2.2 c hc
    rw [not_isWhiteSpace_of_isVisible hvisible] at hspace
    exact absurd hspace (by simp)

/-- **A run whose `set` calls store plainly spaced metadata writes safe headers only**: whatever
`inject` writes for any handle is visible ASCII, blanks and tabs.  And in every run, whatever its
`set` calls, a header is unsafe only through the metadata of an entry it emits. -/
theorem inject_headerSafe (calls : List Call) (baggage : Handle) (bufferIsNull outLenIsNull : Bool)
    (capacity : Nat) (bytes : List UInt8)
    (h : (otelBaggagePropagationInject (baggageAt (run calls) baggage) bufferIsNull capacity
      outLenIsNull).written = some bytes) :
    ((∀ call ∈ calls, call.SetsPlainSpaced) → ∀ b ∈ bytes, HeaderSafe b) ∧
      ∃ entries, checkedRef (baggageAt (run calls) baggage) = .ok entries ∧
        ((∀ b ∈ bytes, HeaderSafe b) ↔ ∀ e ∈ emitted entries, PlainSpaced e.metadata) := by
  obtain ⟨entries, hlive, rfl⟩ := inject_written h
  have hmem := baggageAt_mem hlive
  refine ⟨fun hcalls => ?_, entries, hlive, headerSafe_injectText_iff entries⟩
  rw [headerSafe_injectText_iff]
  intro e he
  exact plainSpaced_run hcalls hmem ((emittedFrom_sublist 0 entries).subset he)
    (emittable_of_mem_emittedFrom e he)

/-- Blanks around a property are written as they are, and are safe. -/
theorem inject_headerSafe_blanks :
    (Utf8.encode (lit "k=v;a ; b")).all (fun b => HeaderSafe b) = true := by
  simp only [List.all_eq_true, decide_eq_true_eq]
  refine (inject_headerSafe [.builderCreate,
    .builderSet (some 0) (viewOf (lit "k")) (viewOf (lit "v")) (viewOf (lit "a ; b")),
    .builderBuild (some 0) false] (some 1) false false 8192 _ (by rfl)).1 ?_
  intro call hcall
  simp only [List.mem_cons, List.not_mem_nil, or_false] at hcall
  rcases hcall with rfl | rfl | rfl
  · trivial
  · intro k m _ hm _ _
    obtain rfl : lit "a ; b" = m := by
      have := Utf8.fromUtf8_encode (lit "a ; b")
      exact Option.some.inj (this.symm.trans hm)
    decide
  · trivial

/-- A carriage return and a line feed at the end of a property reach the wire. -/
theorem inject_writes_line_break :
    ¬∀ (calls : List Call) (baggage : Handle) (bytes : List UInt8),
      (otelBaggagePropagationInject (baggageAt (run calls) baggage) false maxBaggageBytes
        false).written = some bytes → ∀ b ∈ bytes, HeaderSafe b := by
  intro h
  have hbytes := h [.builderCreate,
    .builderSet (some 0) (viewOf (lit "k")) (viewOf (lit "v")) (viewOf (lit "a\r\n")),
    .builderBuild (some 0) false] (some 1) (Utf8.encode (lit "k=v;a\r\n")) (by rfl)
  exact absurd (hbytes 0x0D (by decide)) (by decide)

end OtelC.Baggage
