import OtelC.Baggage.RoundTrip

/-!
# The bounds of stored baggage

Three producers keep the bounds of a baggage in three ways: `set` projects the size with the entry it
replaces taken off, `build` checks again, and an extraction checks the length of its header only.

* `storedLen_le_of_parse`: a member is never stored in more bytes than it was spelled in.
* `representation_invariant`: the bounds hold of every builder and every baggage of every run.
-/

namespace OtelC.Baggage

/-! ### The size of what is extracted -/

/-- The lossy reading of a value takes no more bytes than its spelling. -/
theorem lossy_len_le {raw : Str} {bytes : List UInt8}
    (hvalue : (Utf8.encode raw).all isValueByte = true)
    (h : Percent.decode (Utf8.encode raw) = some bytes) :
    Str.len (Utf8.fromUtf8Lossy bytes) ≤ raw.len := by
  refine (Utf8.length_encode_fromUtf8Lossy_le bytes).trans (Percent.sum_le_of_decode ?_ h ?_)
  · intro b
    rw [Utf8.lossyWeight]
    split
    · omega
    · omega
  · intro b hb _
    have hlow := isValueByte_range (List.all_eq_true.mp hvalue b hb)
    rw [Utf8.lossyWeight, if_pos (by omega)]

/-- A member is stored in no more bytes than it was spelled in. -/
theorem storedLen_le_of_parse {member : Str} {e : BaggageEntry} (h : parseMember member = some e) :
    e.storedLen ≤ member.len := by
  have hlen : e.key.len + 1 + e.value.len + (if e.metadata = [] then 0 else 1 + e.metadata.len) ≤
      member.len := len_le_of_parse h fun raw bytes _ hvalue hbytes hlossy => by
    rw [hlossy]
    exact lossy_len_le hvalue hbytes
  rw [BaggageEntry.storedLen]
  split at hlen
  · rename_i hnil
    rw [hnil, Str.len_nil]
    omega
  · omega

theorem sum_storedLen_le (members : List Str) :
    ((members.filterMap parseMember).map BaggageEntry.storedLen).sum ≤
      (members.map Str.len).sum := by
  induction members with
  | nil => rfl
  | cons member members ih =>
    rw [List.map_cons, List.sum_cons]
    cases hparse : parseMember member with
    | none =>
      rw [List.filterMap_cons_none hparse]
      omega
    | some e =>
      have hhead := storedLen_le_of_parse hparse
      rw [List.filterMap_cons_some hparse, List.map_cons, List.sum_cons]
      omega

/-- The members of a header are disjoint in it. -/
theorem sum_len_splitOn_le (header : Str) :
    ((header.splitOn ',').map Str.len).sum ≤ header.len := by
  have hlen := len_splitOn utf8_comma header
  obtain ⟨first, rest, hsplit⟩ := List.exists_cons_of_ne_nil (List.splitOn_ne_nil ',' header)
  have hmap : ∀ pieces : List Str, (pieces.map fun p => p.len + 1).sum =
      (pieces.map Str.len).sum + pieces.length := by
    intro pieces
    rw [List.sum_map_add]
    simp
  rw [hmap, hsplit, List.length_cons] at hlen
  rw [hsplit]
  omega

/-- An extraction checks the length of the header only, and this bounds what it stores. -/
theorem storedBytes_extract_le (header : Str) : storedBytes (extractEntries header) ≤ header.len := by
  have hkept := Keyed.sum_foldl_put_le BaggageEntry.key BaggageEntry.storedLen maxBaggageItems []
    (acceptedMembers header)
  rw [List.map_nil, List.sum_nil, Nat.zero_add] at hkept
  rw [storedBytes, extractEntries_eq]
  exact hkept.trans ((sum_storedLen_le _).trans (sum_len_splitOn_le header))

/-! ### The size of what is set -/

theorem replacedLen_none {entries : List BaggageEntry} {key : Str}
    (h : position entries key = none) : replacedLen entries key = 0 := by
  rw [replacedLen, h]
  rfl

theorem replacedLen_some {entries : List BaggageEntry} {key : Str} {i : Nat}
    (h : position entries key = some i) :
    ∃ hi : i < entries.length, replacedLen entries key = entries[i].storedLen := by
  obtain ⟨hi, -⟩ := Keyed.position_eq_some h
  refine ⟨hi, ?_⟩
  rw [replacedLen, h, Option.bind_some, List.getElem?_eq_getElem hi]
  rfl

/-- The projected size never underflows. -/
theorem replacedLen_le (entries : List BaggageEntry) (key : Str) :
    replacedLen entries key ≤ storedBytes entries := by
  cases h : position entries key with
  | none =>
    rw [replacedLen_none h]
    exact Nat.zero_le _
  | some i =>
    obtain ⟨hi, hlen⟩ := replacedLen_some h
    rw [hlen, storedBytes]
    exact List.single_le_sum (fun _ _ => Nat.zero_le _) _
      (List.mem_map_of_mem (List.getElem_mem hi))

/-- An accepted `set` leaves what it projected. -/
theorem storedBytes_of_builderSet {entries entries' : List BaggageEntry}
    {key value metadata : OtelStringView}
    (h : Commit.exec (builderSet key value metadata) entries = (.ok (), entries')) :
    storedBytes entries' ≤ maxBaggageBytes := by
  obtain ⟨e, -, -, -, -, hprojected, ⟨i, hpos, rfl⟩ | ⟨hpos, -, rfl⟩⟩ := builderSet_ok h
  · obtain ⟨hi, hlen⟩ := replacedLen_some hpos
    have hle := replacedLen_le entries e.key
    have hsum := Keyed.sum_set BaggageEntry.storedLen hi e
    rw [hlen] at hprojected hle
    rw [storedBytes] at hprojected hle ⊢
    omega
  · rw [replacedLen_none hpos] at hprojected
    rw [storedBytes, List.map_append, List.sum_append, List.map_singleton, List.sum_singleton]
    exact hprojected

/-! ### The invariant of the representation -/

/-- What every builder and every baggage holds. -/
structure Invariant (entries : List BaggageEntry) : Prop extends WellFormed entries where
  storedBytes_le : storedBytes entries ≤ maxBaggageBytes
  key_ne_nil : ∀ e ∈ entries, e.key ≠ []

/-- The check that `build` makes is redundant. -/
theorem Invariant.builderBuild_eq {entries : List BaggageEntry} (h : Invariant entries) :
    builderBuild entries = .ok entries := by
  have hbounds : validateBounds entries = .ok () := by
    rw [validateBounds, if_neg (Nat.not_lt.mpr h.length_le),
      if_neg (Nat.not_lt.mpr h.storedBytes_le)]
  rw [builderBuild, hbounds]
  rfl

theorem storedBytes_run {calls : List Call} {x : Object} (h : x ∈ run calls) :
    storedBytes x.entries ≤ maxBaggageBytes := by
  refine forall_objects_run (p := fun entries => storedBytes entries ≤ maxBaggageBytes)
    (Nat.zero_le _) ?_ ?_ ?_ x h
  · intro _ _ _ _ _ entries entries' _ hset
    exact storedBytes_of_builderSet hset
  · intro entries entries' hle hsub
    exact ((hsub.map _).sum_le_sum fun _ _ => Nat.zero_le _).trans hle
  · intro text hlen
    exact (storedBytes_extract_le text).trans hlen

theorem key_ne_nil_run {calls : List Call} {x : Object} (h : x ∈ run calls) :
    ∀ e ∈ x.entries, e.key ≠ [] := by
  refine forall_entries_run (p := fun e => e.key ≠ []) ?_ ?_ x h
  · intro _ _ _ _ _ e _ _ _ hne
    exact hne
  · intro member e hparse
    exact isToken_ne_nil (parseMember_emittable hparse).1.1

theorem invariant_run {calls : List Call} {x : Object} (h : x ∈ run calls) : Invariant x.entries :=
  ⟨wellFormed_run h, storedBytes_run h, key_ne_nil_run h⟩

/-- **The bounds hold in every run.**  A refused `set` leaves everything as it was, `build` accepts
every builder, and no `set` underflows when it projects the size. -/
theorem representation_invariant (calls : List Call) :
    (∀ x ∈ run calls, Invariant x.entries) ∧
      (∀ builder key value metadata e,
        (Commit.exec (otelBaggageBuilderSet builder key value metadata) (run calls)).1 = .error e →
          step (run calls) (.builderSet builder key value metadata) = run calls) ∧
      (∀ builder entries, builderAt (run calls) builder = .live entries →
        (otelBaggageBuilderBuild (builderAt (run calls) builder) false).status = .ok) ∧
      ∀ entries key,
        (((position entries key).bind (entries[·]?)).map BaggageEntry.storedLen).getD 0 ≤
          storedBytes entries := by
  refine ⟨fun x hx => invariant_run hx, ?_, ?_, replacedLen_le⟩
  · intro builder key value metadata e herror
    exact atomic_onBuilder (atomic_builderSet key value metadata) _ e _ (Prod.ext herror rfl)
  · intro builder entries hlive
    have hchecked : checkedRef (builderAt (run calls) builder) = .ok entries := by
      rw [hlive]
      rfl
    have hbuild : builderBuild entries = .ok entries :=
      (invariant_run (builderAt_mem hchecked)).builderBuild_eq
    have hbody : (do
        let entries ← checkedRef (builderAt (run calls) builder)
        builderBuild entries) = .ok entries := by
      rw [hchecked]
      exact hbuild
    rw [otelBaggageBuilderBuild, hbody]
    rfl

end OtelC.Baggage
