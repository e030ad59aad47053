import OtelC.Abi
import OtelC.Lib.Lossy

/-!
# Owned strings from C bytes

`to_string_lossy` copies the bytes of a caller into a `String` of its own, with U+FFFD in the place
of what is not UTF-8.  The copy never allocates without asking first, so it cannot be
`String::from_utf8_lossy` itself: it goes over the input with `str::from_utf8` and restarts after
every error that the validation reports.  A Rust `String` is the list of its bytes here, and the
validation and the allocator are parameters.

* `lossyLoop_spec`: the loop ends, and appends the lossy reading of the rest or fails to allocate.
* `try_owned_string_lossy_eq`: the copy is the reference decoding of the whole input.
-/

namespace OtelC

open Utf8 (encode fromUtf8Lossy replacement Utf8Error Documented Lossy)

/-- `alloc_err()` -/
def allocErr : Fail := ⟨.internalError, "failed to allocate string"⟩

section Copy

variable (fromUtf8 : List UInt8 → Except Utf8Error Str)
variable (reserves : List UInt8 → Nat → Bool)

/-- `push_str_fallible`: `reserves` says whether the allocator has room for so many bytes more. -/
def pushStrFallible (out s : List UInt8) : Except Fail (List UInt8) :=
  if reserves out s.length then .ok (out ++ s) else .error allocErr

/-- The `Err` arm of the loop: what `out` has become, and what is left to read if any. -/
def replaceBad (out rest : List UInt8) (err : Utf8Error) :
    Except Fail (List UInt8 × Option (List UInt8)) := do
  let good := err.validUpTo
  let valid ← slice rest 0 good
  let out ← pushStrFallible reserves out valid
  let out ← pushStrFallible reserves out (encode [replacement])
  match err.errorLen with
  | some bad =>
    let rest ← slice rest (good + bad) rest.length
    return (out, some rest)
  | none => return (out, none)

/-- The loop of `try_owned_string_lossy`; `none` when the fuel runs out before it returns. -/
def lossyLoop : Nat → List UInt8 → List UInt8 → Option (Except Fail (List UInt8))
  | 0, _, _ => none
  | fuel + 1, out, rest =>
    match fromUtf8 rest with
    | .ok valid => some (pushStrFallible reserves out (encode valid))
    | .error err =>
      match replaceBad reserves out rest err with
      | .error e => some (.error e)
      | .ok (out, none) => some (.ok out)
      | .ok (out, some rest) => lossyLoop fuel out rest

def tryOwnedStringLossy (fuel : Nat) (bytes : List UInt8) : Option (Except Fail (List UInt8)) :=
  lossyLoop fromUtf8 reserves fuel [] bytes

end Copy

/-! ### The loop -/

variable {fromUtf8 : List UInt8 → Except Utf8Error Str} {reserves : List UInt8 → Nat → Bool}

/-- What the copy of a text may come to: the text, or the failure of an allocation. -/
def Copied (reserves : List UInt8 → Nat → Bool) (text : List UInt8)
    (r : Except Fail (List UInt8)) : Prop :=
  r = .ok text ∨ r = .error allocErr ∧ ∃ out n, reserves out n = false

theorem pushStrFallible_copied (reserves : List UInt8 → Nat → Bool) (out s : List UInt8) :
    Copied reserves (out ++ s) (pushStrFallible reserves out s) := by
  by_cases h : reserves out s.length = true
  · exact .inl (if_pos h)
  · exact .inr ⟨if_neg h, out, s.length, by simpa using h⟩

/-- An error splits the input into a text, a maximal subpart and what the loop goes on with. -/
theorem exists_split (hdoc : Documented fromUtf8) {rest : List UInt8} {err : Utf8Error}
    (h : fromUtf8 rest = .error err) :
    ∃ s tail bad, rest = encode s ++ tail ∧ err.validUpTo = (encode s).length ∧
      Utf8.MaximalSubpart tail bad ∧
      (err.errorLen = some bad ∨ err.errorLen = none ∧ bad = tail.length) := by
  obtain ⟨s, hs⟩ := hdoc.valid h
  obtain ⟨hle, -⟩ := hdoc.validUpTo_max h
  have hgood : err.validUpTo = (encode s).length := by
    rw [← hs, List.length_take]
    omega
  have hsplit : rest = encode s ++ rest.drop err.validUpTo := by
    rw [← hs, List.take_append_drop]
  cases hlen : err.errorLen with
  | some bad => exact ⟨s, _, bad, hsplit, hgood, (hdoc.unexpected h hlen).1, .inl rfl⟩
  | none =>
    have htext : ∀ t, rest ≠ encode t := by
      rintro t rfl
      rw [hdoc.of_encode] at h
      cases h
    have hne : rest.drop err.validUpTo ≠ [] := by
      intro hnil
      rw [hnil, List.append_nil] at hsplit
      exact htext s hsplit
    have hchar : ∀ c, rest.drop err.validUpTo ≠ String.utf8EncodeChar c := by
      intro c hc
      rw [hc] at hsplit
      exact htext (s ++ [c]) (by simpa using hsplit)
    exact ⟨s, _, _, hsplit, hgood,
      Utf8.maximalSubpart_of_startsChar hne hchar (hdoc.ended h hlen), .inr ⟨rfl, rfl⟩⟩

variable (reserves) in
/-- One error moves the invariant along: what `out` holds, followed by the lossy reading of what is
left, stays the same text, and less is left. -/
theorem replaceBad_spec (hdoc : Documented fromUtf8) {rest : List UInt8} {err : Utf8Error}
    (h : fromUtf8 rest = .error err) (out : List UInt8) :
    (∃ out' rest', replaceBad reserves out rest err = .ok (out', rest') ∧
      out' ++ encode (fromUtf8Lossy (rest'.getD [])) = out ++ encode (fromUtf8Lossy rest) ∧
      ∀ r, rest' = some r → r.length < rest.length) ∨
      replaceBad reserves out rest err = .error allocErr ∧ ∃ o n, reserves o n = false := by
  obtain ⟨s, tail, bad, rfl, hgood, hsub, hlen⟩ := exists_split hdoc h
  have hlossy : fromUtf8Lossy (encode s ++ tail) =
      s ++ replacement :: fromUtf8Lossy (tail.drop bad) := by
    rw [Utf8.fromUtf8Lossy_encode_append, Utf8.fromUtf8Lossy_subpart hsub]
  have hvalid : slice (encode s ++ tail) 0 err.validUpTo = .ok (encode s) := by
    rw [hgood, slice_of_le (Nat.zero_le _) (by simp), List.take_left]
    rfl
  simp only [replaceBad, hvalid, Checked.ok_bind]
  obtain hpush | ⟨hpush, hfull⟩ := pushStrFallible_copied reserves out (encode s)
  swap
  · exact .inr ⟨by rw [hpush]; rfl, hfull⟩
  rw [hpush]
  obtain hpush' | ⟨hpush', hfull⟩ :=
    pushStrFallible_copied reserves (out ++ encode s) (encode [replacement])
  swap
  · exact .inr ⟨by simp only [Checked.ok_bind, hpush']; rfl, hfull⟩
  simp only [Checked.ok_bind, hpush']
  left
  obtain hbad | ⟨hnone, rfl⟩ := hlen
  · have hle := hsub.le_length
    have hpos := hsub.pos
    have hrest : slice (encode s ++ tail) (err.validUpTo + bad) (encode s ++ tail).length =
        .ok (tail.drop bad) := by
      rw [slice_of_le (by rw [List.length_append]; omega) le_rfl, List.take_length, hgood,
        ← List.drop_drop, List.drop_left]
    rw [hbad]
    simp only [hrest, Checked.ok_bind]
    refine ⟨_, _, rfl, ?_, ?_⟩
    · rw [hlossy]
      simp
    · rintro r hr
      obtain rfl := Option.some.inj hr
      simp only [List.length_append, List.length_drop]
      omega
  · rw [hnone]
    refine ⟨_, _, rfl, ?_, by simp⟩
    rw [hlossy, List.drop_length]
    simp

theorem lossyLoop_spec (hdoc : Documented fromUtf8) {fuel : Nat} {out rest : List UInt8}
    (hfuel : rest.length < fuel) :
    ∃ r, lossyLoop fromUtf8 reserves fuel out rest = some r ∧
      Copied reserves (out ++ encode (fromUtf8Lossy rest)) r := by
  induction fuel generalizing out rest with
  | zero => omega
  | succ fuel ih =>
    rw [lossyLoop]
    cases h : fromUtf8 rest with
    | ok valid =>
      obtain rfl := hdoc.encode_of_ok h
      rw [Utf8.fromUtf8Lossy_encode]
      exact ⟨_, rfl, pushStrFallible_copied reserves out (encode valid)⟩
    | error err =>
      obtain ⟨out', rest', hstep, hinv, hless⟩ | ⟨hstep, hfull⟩ :=
        replaceBad_spec reserves hdoc h out
      · simp only [hstep]
        cases rest' with
        | none =>
          rw [Option.getD_none, Utf8.fromUtf8Lossy_nil, Utf8.encode_nil, List.append_nil] at hinv
          exact ⟨_, rfl, .inl (by rw [hinv])⟩
        | some rest' =>
          have hshort := hless rest' rfl
          rw [← hinv]
          exact ih (by omega)
      · simp only [hstep]
        exact ⟨_, rfl, .inr ⟨rfl, hfull⟩⟩

variable (reserves) in
/-- `try_owned_string_lossy` returns on every input, and what it returns when no allocation fails
is `String::from_utf8_lossy` of the input: the one text with every maximal ill-formed subpart
replaced. -/
theorem try_owned_string_lossy_eq (hdoc : Documented fromUtf8) (bytes : List UInt8) :
    ∃ text, Lossy bytes text ∧ (∀ other, Lossy bytes other → other = text) ∧
      text = fromUtf8Lossy bytes ∧
      ∀ fuel, bytes.length < fuel →
        ((∀ out n, reserves out n = true) →
          tryOwnedStringLossy fromUtf8 reserves fuel bytes = some (.ok (encode text))) ∧
        (tryOwnedStringLossy fromUtf8 reserves fuel bytes = some (.ok (encode text)) ∨
          tryOwnedStringLossy fromUtf8 reserves fuel bytes = some (.error allocErr)) := by
  refine ⟨fromUtf8Lossy bytes, Utf8.lossy_fromUtf8Lossy bytes, fun _ => Utf8.lossy_iff.mp, rfl, ?_⟩
  intro fuel hfuel
  have hloop : ∃ r, lossyLoop fromUtf8 reserves fuel [] bytes = some r ∧
      Copied reserves ([] ++ encode (fromUtf8Lossy bytes)) r := lossyLoop_spec hdoc hfuel
  obtain ⟨r, hr, hcopied⟩ := hloop
  rw [List.nil_append] at hcopied
  rw [tryOwnedStringLossy, hr]
  refine ⟨?_, ?_⟩
  · intro hroom
    obtain rfl | ⟨-, o, n, hfull⟩ := hcopied
    · rfl
    · rw [hroom] at hfull
      cases hfull
  · obtain rfl | ⟨rfl, -⟩ := hcopied
    · exact .inl rfl
    · exact .inr rfl

/-- A stray byte and a character cut off by the end are each replaced once. -/
theorem try_owned_string_lossy_stray : tryOwnedStringLossy Utf8.readUtf8 (fun _ _ => true) 7
    [0x61, 0xff, 0x62, 0x63, 0xe2, 0x82] =
      some (.ok [0x61, 0xef, 0xbf, 0xbd, 0x62, 0x63, 0xef, 0xbf, 0xbd]) := by
  obtain ⟨text, -, -, htext, hrun⟩ := try_owned_string_lossy_eq (fun _ _ => true)
    Utf8.documented_readUtf8 [0x61, 0xff, 0x62, 0x63, 0xe2, 0x82]
  rw [(hrun 7 (by decide)).1 fun _ _ => rfl, htext]
  decide

end OtelC
