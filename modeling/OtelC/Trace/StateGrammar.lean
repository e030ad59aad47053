import OtelC.Trace.Tracestate

/-!
# The grammar of a trace state

`validate_tracestate` works on bytes and goes through a list once.  Here is what it accepts, in the
terms of the grammar: members `key=value` between commas, with blanks around them, keys of the two
forms, and no key twice (`validateTracestate_iff`).
-/

namespace OtelC.Trace

/-! ### Keys and values -/

def LcAlpha (c : Char) : Prop := 0x61 ≤ c.toNat ∧ c.toNat ≤ 0x7A

def Digit (c : Char) : Prop := 0x30 ≤ c.toNat ∧ c.toNat ≤ 0x39

def KeyChar (c : Char) : Prop := LcAlpha c ∨ Digit c ∨ c ∈ lit "_-*/"

/-- A first character, and at most `tail` key characters behind it. -/
def KeyPart (first : Char → Prop) (tail : Nat) (s : Str) : Prop :=
  ∃ c rest, s = c :: rest ∧ first c ∧ rest.length ≤ tail ∧ ∀ d ∈ rest, KeyChar d

def SimpleKey (k : Str) : Prop := KeyPart LcAlpha 255 k

def Tenant (t : Str) : Prop := KeyPart (fun c => LcAlpha c ∨ Digit c) 240 t

def System (s : Str) : Prop := KeyPart LcAlpha 13 s

def TracestateKey (k : Str) : Prop :=
  SimpleKey k ∨ ∃ tenant system, k = tenant ++ '@' :: system ∧ Tenant tenant ∧ System system

/-- Printable ASCII without `,` and `=`, which does not end in a space. -/
def TracestateValue (v : Str) : Prop :=
  1 ≤ v.length ∧ v.length ≤ 256 ∧
    (∀ c ∈ v, 0x20 ≤ c.toNat ∧ c.toNat ≤ 0x7E ∧ c ≠ ',' ∧ c ≠ '=') ∧ v.getLast? ≠ some ' '

/-- The members between the commas, without the blanks around them, that are not blank. -/
def listMembers (v : Str) : List Str :=
  ((v.splitOn ',').map (Text.trimBy isOws)).filter fun m => m ≠ []

/-- The bounded list: at most 512 bytes and 32 members, each a key and a value, no key twice. -/
def BoundedList (v : Str) : Prop :=
  v.len ≤ 512 ∧ ∃ pairs : List (Str × Str),
    listMembers v = pairs.map (fun pair => pair.1 ++ '=' :: pair.2) ∧ pairs.length ≤ 32 ∧
      (∀ pair ∈ pairs, TracestateKey pair.1 ∧ TracestateValue pair.2) ∧
        (pairs.map Prod.fst).Nodup

/-! ### ASCII -/

/-- A character as a byte, when it is one. -/
def charByte (c : Char) : UInt8 := UInt8.ofNat c.toNat

theorem toNat_charByte {c : Char} (h : c.toNat < 0x80) : (charByte c).toNat = c.toNat := by
  rw [charByte, UInt8.toNat_ofNat']
  omega

theorem encode_ascii {s : Str} (h : ∀ c ∈ s, c.toNat < 0x80) : Utf8.encode s = s.map charByte := by
  induction s with
  | nil => rfl
  | cons c s ih =>
    rw [Utf8.encode_cons, Utf8.utf8EncodeChar_ascii (h c (by simp)),
      ih fun d hd => h d (List.mem_cons_of_mem c hd)]
    rfl

theorem LcAlpha.lt {c : Char} (h : LcAlpha c) : c.toNat < 0x80 := by
  have := h.2
  omega

theorem Digit.lt {c : Char} (h : Digit c) : c.toNat < 0x80 := by
  have := h.2
  omega

theorem mem_keyMarks {c : Char} (h : c ∈ lit "_-*/") :
    c.toNat = 0x5F ∨ c.toNat = 0x2D ∨ c.toNat = 0x2A ∨ c.toNat = 0x2F := by
  have : c = '_' ∨ c = '-' ∨ c = '*' ∨ c = '/' := by simpa [lit] using h
  rcases this with rfl | rfl | rfl | rfl <;> decide

theorem KeyChar.lt {c : Char} (h : KeyChar c) : c.toNat < 0x80 := by
  rcases h with h | h | h
  · exact h.lt
  · exact h.lt
  · have := mem_keyMarks h
    omega

theorem isLowercase_iff {c : Char} (h : c.toNat < 0x80) :
    isLowercase (charByte c) = true ↔ LcAlpha c := by
  rw [isLowercase, toNat_charByte h, Bool.and_eq_true, decide_eq_true_iff, decide_eq_true_iff]
  rfl

theorem isDigit_iff {c : Char} (h : c.toNat < 0x80) : isDigit (charByte c) = true ↔ Digit c := by
  rw [isDigit, toNat_charByte h, Bool.and_eq_true, decide_eq_true_iff, decide_eq_true_iff]
  rfl

/-- The marks are four of the 128 ASCII characters. -/
theorem keyMarks_iff {c : Char} (h : c.toNat < 0x80) :
    charByte c ∈ ([0x5F, 0x2D, 0x2A, 0x2F] : List UInt8) ↔ c ∈ lit "_-*/" := by
  have hall : ∀ n : Fin 128, charByte (Char.ofNat n) ∈ ([0x5F, 0x2D, 0x2A, 0x2F] : List UInt8) ↔
      Char.ofNat n ∈ lit "_-*/" := by decide
  have hc := hall ⟨c.toNat, h⟩
  rw [Char.ofNat_toNat] at hc
  exact hc

theorem isTracestateKeyChar_iff {c : Char} (h : c.toNat < 0x80) :
    isTracestateKeyChar (charByte c) = true ↔ KeyChar c := by
  rw [isTracestateKeyChar, Bool.or_eq_true, Bool.or_eq_true, decide_eq_true_iff, isLowercase_iff h,
    isDigit_iff h, keyMarks_iff h, or_assoc]
  rfl

/-! ### The recognisers -/

theorem lt_of_isTracestateKeyChar {b : UInt8} (h : isTracestateKeyChar b = true) : b.toNat < 0x80 := by
  have := IsKeyByte.range (.inl h)
  omega

theorem isKeyPart_iff {first : UInt8 → Bool} {First : Char → Prop} {tail : Nat}
    (hbyte : ∀ b, first b = true → b.toNat < 0x80) (hchar : ∀ c, First c → c.toNat < 0x80)
    (hfirst : ∀ c, c.toNat < 0x80 → (first (charByte c) = true ↔ First c)) (s : Str) :
    isKeyPart first (tail + 1) (Utf8.encode s) = true ↔ KeyPart First tail s := by
  cases s with
  | nil =>
    show false = true ↔ _
    simp [KeyPart]
  | cons c rest =>
    by_cases hc : c.toNat < 0x80
    · rw [Utf8.encode_cons, Utf8.utf8EncodeChar_ascii hc, List.singleton_append, isKeyPart,
        Bool.and_eq_true, Bool.and_eq_true, decide_eq_true_iff, List.all_eq_true,
        Utf8.forall_encode_iff fun _ => lt_of_isTracestateKeyChar]
      have hrest : (∀ d ∈ rest, d.toNat < 0x80 ∧ isTracestateKeyChar (charByte d) = true) ↔
          ∀ d ∈ rest, KeyChar d := by
        refine forall_congr' fun d => forall_congr' fun _ => ⟨fun h => ?_, fun h => ?_⟩
        · exact (isTracestateKeyChar_iff h.1).mp h.2
        · exact ⟨h.lt, (isTracestateKeyChar_iff h.lt).mpr h⟩
      constructor
      · rintro ⟨⟨hlen, hf⟩, hkeys⟩
        have hascii : ∀ d ∈ rest, d.toNat < 0x80 := fun d hd => (hkeys d hd).1
        rw [encode_ascii hascii, List.length_cons, List.length_map] at hlen
        exact ⟨c, rest, rfl, (hfirst c hc).mp hf, by omega, hrest.mp hkeys⟩
      · rintro ⟨c', rest', heq, hf, hlen, hkeys⟩
        cases heq
        have hascii : ∀ d ∈ rest, d.toNat < 0x80 := fun d hd => (hkeys d hd).lt
        refine ⟨⟨?_, (hfirst c hc).mpr hf⟩, hrest.mpr hkeys⟩
        rw [encode_ascii hascii, List.length_cons, List.length_map]
        omega
    · -- a first character beyond ASCII starts with a byte that no part starts with
      have hhigh := Utf8.utf8EncodeChar_high (Nat.le_of_not_lt hc)
      have hleft : ¬isKeyPart first (tail + 1) (Utf8.encode (c :: rest)) = true := by
        rw [Utf8.encode_cons]
        cases hbytes : String.utf8EncodeChar c with
        | nil => exact absurd hbytes (Utf8.utf8EncodeChar_ne_nil c)
        | cons b bs =>
          rw [List.cons_append, isKeyPart, Bool.and_eq_true, Bool.and_eq_true]
          intro h
          have hb := hbyte b h.1.2
          have hb' := hhigh b (hbytes ▸ List.mem_cons_self)
          omega
      refine iff_of_false hleft ?_
      rintro ⟨c', rest', heq, hf, -, -⟩
      cases heq
      exact hc (hchar c hf)

theorem isKeyPart_lowercase (tail : Nat) (s : Str) :
    isKeyPart isLowercase (tail + 1) (Utf8.encode s) = true ↔ KeyPart LcAlpha tail s := by
  refine isKeyPart_iff (fun b hb => ?_) (fun _ => LcAlpha.lt) (fun _ => isLowercase_iff) s
  have := (isKeyByte_of_isLowercase hb).range
  omega

theorem isKeyPart_tenant (tail : Nat) (s : Str) :
    isKeyPart (fun b => isLowercase b || isDigit b) (tail + 1) (Utf8.encode s) = true ↔
      KeyPart (fun c => LcAlpha c ∨ Digit c) tail s := by
  refine isKeyPart_iff (fun b hb => ?_) (fun c hc => ?_) (fun c hc => ?_) s
  · rcases Bool.or_eq_true_iff.mp hb with hb | hb
    · have := (isKeyByte_of_isLowercase hb).range
      omega
    · have := (isKeyByte_of_isDigit hb).range
      omega
  · exact hc.elim LcAlpha.lt Digit.lt
  · rw [Bool.or_eq_true, isLowercase_iff hc, isDigit_iff hc]

/-- Splitting the bytes of a text at an `@` splits the text. -/
theorem splitOnce_encode (s : Str) : Text.splitOnce 0x40 (Utf8.encode s) =
    (Text.splitOnce '@' s).map fun (x, y) => (Utf8.encode x, Utf8.encode y) := by
  have hat : ∀ t : Str, (0x40 : UInt8) ∈ Utf8.encode t → '@' ∈ t :=
    fun t ht => Utf8.mem_of_mem_encode_ascii ht (by decide)
  cases hsplit : Text.splitOnce '@' s with
  | none =>
    rw [Text.splitOnce_eq_none] at hsplit
    exact Text.splitOnce_eq_none.mpr fun h => hsplit (hat s h)
  | some pair =>
    obtain ⟨x, y⟩ := pair
    obtain ⟨rfl, hx⟩ := Text.splitOnce_eq_some hsplit
    rw [Utf8.encode_append, Utf8.encode_cons]
    exact Text.splitOnce_append (fun h => hx (hat x h)) _

/-- A part of a key has neither of the two separators. -/
theorem KeyPart.notMem {first : Char → Prop} {tail : Nat} {s : Str} (h : KeyPart first tail s)
    (hfirst : ∀ c, first c → LcAlpha c ∨ Digit c) : '@' ∉ s ∧ '=' ∉ s := by
  obtain ⟨c, rest, rfl, hc, -, hrest⟩ := h
  have hkey : ∀ d ∈ c :: rest, KeyChar d := by
    intro d hd
    rcases List.mem_cons.mp hd with rfl | hd
    · rcases hfirst _ hc with hc | hc
      · exact .inl hc
      · exact .inr (.inl hc)
    · exact hrest d hd
  have hno : ¬KeyChar '@' ∧ ¬KeyChar '=' := by
    rw [KeyChar, LcAlpha, Digit, KeyChar, LcAlpha, Digit]
    decide
  exact ⟨fun hat => hno.1 (hkey _ hat), fun heq => hno.2 (hkey _ heq)⟩

theorem isValidTracestateKey_iff (k : Str) : isValidTracestateKey k = true ↔ TracestateKey k := by
  rw [isValidTracestateKey, splitOnce_encode]
  cases hsplit : Text.splitOnce '@' k with
  | none =>
    show isKeyPart isLowercase (255 + 1) (Utf8.encode k) = true ↔ _
    rw [isKeyPart_lowercase]
    refine ⟨.inl, fun h => h.resolve_right ?_⟩
    rintro ⟨tenant, system, rfl, -, -⟩
    exact Text.splitOnce_eq_none.mp hsplit (by simp)
  | some pair =>
    obtain ⟨x, y⟩ := pair
    obtain ⟨rfl, hx⟩ := Text.splitOnce_eq_some hsplit
    show (if (Utf8.encode y).contains 0x40 then false
      else isKeyPart (fun b => isLowercase b || isDigit b) (240 + 1) (Utf8.encode x) &&
        isKeyPart isLowercase (13 + 1) (Utf8.encode y)) = true ↔ _
    constructor
    · intro h
      split at h
      · cases h
      · rw [Bool.and_eq_true, isKeyPart_tenant, isKeyPart_lowercase] at h
        exact .inr ⟨x, y, rfl, h.1, h.2⟩
    · rintro (h | ⟨tenant, system, heq, htenant, hsystem⟩)
      · exact absurd (by simp) (h.notMem fun _ => .inl).1
      · have htsplit := Text.splitOnce_append (htenant.notMem fun _ h => h).1 system
        rw [← heq, hsplit] at htsplit
        cases htsplit
        have hno : ¬(Utf8.encode y).contains 0x40 = true := by
          rw [List.contains_iff_mem]
          exact fun h => (hsystem.notMem fun _ => .inl).1 (Utf8.mem_of_mem_encode_ascii h (by decide))
        rw [if_neg hno, Bool.and_eq_true, isKeyPart_tenant, isKeyPart_lowercase]
        exact ⟨htenant, hsystem⟩

/-- A byte of a value. -/
theorem isValueByte_iff {c : Char} (h : c.toNat < 0x80) :
    (charByte c = 0x20 ∨ ((0x21 ≤ (charByte c).toNat ∧ (charByte c).toNat ≤ 0x7E) ∧
      charByte c ≠ 0x2C) ∧ charByte c ≠ 0x3D) ↔
      0x20 ≤ c.toNat ∧ c.toNat ≤ 0x7E ∧ c ≠ ',' ∧ c ≠ '=' := by
  have hall : ∀ n : Fin 128,
      (charByte (Char.ofNat n) = 0x20 ∨
        ((0x21 ≤ (charByte (Char.ofNat n)).toNat ∧ (charByte (Char.ofNat n)).toNat ≤ 0x7E) ∧
          charByte (Char.ofNat n) ≠ 0x2C) ∧ charByte (Char.ofNat n) ≠ 0x3D) ↔
        0x20 ≤ (Char.ofNat n).toNat ∧ (Char.ofNat n).toNat ≤ 0x7E ∧ Char.ofNat n ≠ ',' ∧
          Char.ofNat n ≠ '=' := by decide
  have hc := hall ⟨c.toNat, h⟩
  rw [Char.ofNat_toNat] at hc
  exact hc

theorem charByte_eq_space {c : Char} (h : c.toNat < 0x80) : charByte c = 0x20 ↔ c = ' ' := by
  have hall : ∀ n : Fin 128, charByte (Char.ofNat n) = 0x20 ↔ Char.ofNat n = ' ' := by decide
  have hc := hall ⟨c.toNat, h⟩
  rw [Char.ofNat_toNat] at hc
  exact hc

/-- `is_valid_tracestate_value` on ASCII. -/
theorem isValidTracestateValue_ascii {v : Str} (h : ∀ c ∈ v, c.toNat < 0x80) :
    isValidTracestateValue v = true ↔ TracestateValue v := by
  have hlast : (v.map charByte).getLast? = some 0x20 ↔ v.getLast? = some ' ' := by
    rw [List.getLast?_map]
    cases hv : v.getLast? with
    | none => simp
    | some c =>
      rw [Option.map_some, Option.some.injEq, Option.some.injEq]
      exact charByte_eq_space (h c (List.mem_of_getLast? hv))
  have hbytes : (v.map charByte).all (fun b => b = 0x20 ||
      ((0x21 ≤ b.toNat && b.toNat ≤ 0x7E) && b ≠ 0x2C && b ≠ 0x3D)) = true ↔
      ∀ c ∈ v, 0x20 ≤ c.toNat ∧ c.toNat ≤ 0x7E ∧ c ≠ ',' ∧ c ≠ '=' := by
    rw [List.all_eq_true, List.forall_mem_map]
    refine forall_congr' fun c => forall_congr' fun hc => ?_
    rw [← isValueByte_iff (h c hc)]
    simp only [Bool.or_eq_true, Bool.and_eq_true, decide_eq_true_eq]
  rw [isValidTracestateValue, encode_ascii h, TracestateValue]
  show (if ((v.map charByte).isEmpty || decide ((v.map charByte).length > 256)) = true then false
    else if (v.map charByte).getLast? = some 0x20 then false else _) = true ↔ _
  rw [List.length_map]
  by_cases hempty : v = []
  · subst hempty
    simp
  · have hne : (v.map charByte).isEmpty = false := by
      simpa using hempty
    have hpos : 1 ≤ v.length := List.length_pos_iff.mpr hempty
    rw [hne, Bool.false_or]
    by_cases hlen : v.length ≤ 256
    · rw [if_neg (by simpa using hlen)]
      by_cases hspace : v.getLast? = some ' '
      · rw [if_pos (hlast.mpr hspace)]
        exact iff_of_false nofun fun hv => hv.2.2.2 hspace
      · rw [if_neg (fun hl => hspace (hlast.mp hl)), hbytes]
        exact ⟨fun hv => ⟨hpos, hlen, hv, hspace⟩, fun hv => hv.2.2.1⟩
    · rw [if_pos (by simpa using hlen)]
      exact iff_of_false nofun fun hv => hlen hv.2.1

theorem isValidTracestateValue_iff (v : Str) :
    isValidTracestateValue v = true ↔ TracestateValue v := by
  constructor
  · intro h
    refine (isValidTracestateValue_ascii fun c hc => ?_).mp h
    have hchar := isTracestateChar_of_bytes (isValidTracestateValue_bytes h) c hc
    rw [IsTracestateChar] at hchar
    omega
  · intro h
    refine (isValidTracestateValue_ascii fun c hc => ?_).mpr h
    have := h.2.2.1 c hc
    omega

/-! ### The list -/

theorem TracestateKey.notMem {k : Str} (h : TracestateKey k) : '=' ∉ k := by
  rcases h with h | ⟨tenant, system, rfl, htenant, hsystem⟩
  · exact (h.notMem fun _ => .inl).2
  · intro hmem
    rcases List.mem_append.mp hmem with hmem | hmem
    · exact (htenant.notMem fun _ h => h).2 hmem
    · rcases List.mem_cons.mp hmem with heq | hmem
      · exact absurd heq (by decide)
      · exact (hsystem.notMem fun _ => .inl).2 hmem

/-- What the loop asks of the members that are left, behind `members` others with the keys `seen`. -/
def ListFrom (members : Nat) (seen : List Str) (parts : List Str) : Prop :=
  ∃ pairs : List (Str × Str), parts = pairs.map (fun pair => pair.1 ++ '=' :: pair.2) ∧
    members + pairs.length ≤ 32 ∧ (∀ pair ∈ pairs, TracestateKey pair.1 ∧ TracestateValue pair.2) ∧
      (pairs.map Prod.fst).Nodup ∧ ∀ pair ∈ pairs, pair.1 ∉ seen

theorem listFrom_nil {members : Nat} {seen : List Str} (h : members ≤ 32) :
    ListFrom members seen [] := ⟨[], rfl, h, by simp, by simp, by simp⟩

/-- One more member in front. -/
theorem listFrom_cons {members : Nat} {seen parts : List Str} {part : Str} :
    ListFrom members seen (part :: parts) ↔ members + 1 ≤ 32 ∧ ∃ key value,
      part = key ++ '=' :: value ∧ TracestateKey key ∧ TracestateValue value ∧ key ∉ seen ∧
        ListFrom (members + 1) (seen ++ [key]) parts := by
  constructor
  · rintro ⟨pairs, heq, hlen, hvalid, hnodup, hseen⟩
    cases pairs with
    | nil => cases heq
    | cons pair pairs =>
      obtain ⟨hpart, hparts⟩ := List.cons.inj heq
      rw [List.length_cons] at hlen
      rw [List.map_cons, List.nodup_cons] at hnodup
      obtain ⟨hkey, hvalue⟩ := hvalid pair List.mem_cons_self
      refine ⟨by omega, pair.1, pair.2, hpart, hkey, hvalue, hseen pair List.mem_cons_self, pairs,
        hparts, by omega, fun q hq => hvalid q (List.mem_cons_of_mem _ hq), hnodup.2, fun q hq => ?_⟩
      rw [List.mem_append, List.mem_singleton, not_or]
      refine ⟨hseen q (List.mem_cons_of_mem _ hq), fun hsame => hnodup.1 ?_⟩
      exact hsame ▸ List.mem_map_of_mem hq
  · rintro ⟨hroom, key, value, rfl, hkey, hvalue, hnew, pairs, rfl, hlen, hvalid, hnodup, hseen⟩
    have hseen' : ∀ q ∈ pairs, q.1 ∉ seen ∧ q.1 ≠ key := by
      intro q hq
      have := hseen q hq
      rw [List.mem_append, List.mem_singleton, not_or] at this
      exact this
    refine ⟨(key, value) :: pairs, rfl, by rw [List.length_cons]; omega, ?_, ?_, ?_⟩
    · intro q hq
      rcases List.mem_cons.mp hq with rfl | hq
      · exact ⟨hkey, hvalue⟩
      · exact hvalid q hq
    · rw [List.map_cons, List.nodup_cons]
      refine ⟨fun hmem => ?_, hnodup⟩
      obtain ⟨q, hq, hsame⟩ := List.mem_map.mp hmem
      exact (hseen' q hq).2 hsame
    · intro q hq
      rcases List.mem_cons.mp hq with rfl | hq
      · exact hnew
      · exact (hseen' q hq).1

/-- The loop, from any point on. -/
theorem validateMembers_iff (raws : List Str) (members : Nat) (seen : List Str)
    (hmembers : members ≤ 32) : validateMembers raws members seen = true ↔
      ListFrom members seen ((raws.map (Text.trimBy isOws)).filter fun m => m ≠ []) := by
  induction raws generalizing members seen with
  | nil => exact iff_of_true rfl (listFrom_nil hmembers)
  | cons raw rest ih =>
    rw [validateMembers, List.map_cons]
    by_cases hblank : Text.trimBy isOws raw = []
    · rw [List.filter_cons_of_neg (by simpa using hblank)]
      simp only [hblank, List.isEmpty_nil, if_true]
      exact ih members seen hmembers
    · rw [List.filter_cons_of_pos (by simpa using hblank), listFrom_cons]
      simp only [List.isEmpty_iff, hblank, if_false]
      by_cases hroom : members + 1 ≤ 32
      · have hin : ¬members + 1 > maxTracestateMembers := Nat.not_lt.mpr hroom
        rw [if_neg hin]
        cases hsplit : Text.splitOnce '=' (Text.trimBy isOws raw) with
        | none =>
          refine iff_of_false Bool.false_ne_true ?_
          rintro ⟨-, key, value, heq, -⟩
          exact Text.splitOnce_eq_none.mp hsplit (by rw [heq]; simp)
        | some pair =>
          obtain ⟨key, value⟩ := pair
          obtain ⟨heq, -⟩ := Text.splitOnce_eq_some hsplit
          show (if (!isValidTracestateKey key || !isValidTracestateValue value) = true then false
            else if seen.contains key then false
            else validateMembers rest (members + 1) (seen ++ [key])) = true ↔ _
          constructor
          · intro h
            split at h
            · cases h
            · rename_i hvalid
              split at h
              · cases h
              · rename_i hnew
                simp only [Bool.or_eq_true, Bool.not_eq_true', not_or, Bool.not_eq_false,
                  List.contains_iff_mem] at hvalid hnew
                exact ⟨hroom, key, value, heq, (isValidTracestateKey_iff key).mp hvalid.1,
                  (isValidTracestateValue_iff value).mp hvalid.2, hnew,
                  (ih (members + 1) (seen ++ [key]) hroom).mp h⟩
          · rintro ⟨-, key', value', heq', hkey, hvalue, hnew, hrest⟩
            have hsame := Text.splitOnce_append hkey.notMem value'
            rw [← heq', hsplit] at hsame
            cases hsame
            rw [(isValidTracestateKey_iff key).mpr hkey, (isValidTracestateValue_iff value).mpr hvalue,
              if_neg (by simp), if_neg (by rw [List.contains_iff_mem]; exact hnew)]
            exact (ih (members + 1) (seen ++ [key]) hroom).mpr hrest
      · have hout : members + 1 > maxTracestateMembers := Nat.lt_of_not_le hroom
        rw [if_pos hout]
        exact iff_of_false Bool.false_ne_true fun h => hroom h.1

theorem validateTracestate_iff (v : Str) : validateTracestate v = true ↔ BoundedList v := by
  have hlist : ListFrom 0 [] (listMembers v) ↔ ∃ pairs : List (Str × Str),
      listMembers v = pairs.map (fun pair => pair.1 ++ '=' :: pair.2) ∧ pairs.length ≤ 32 ∧
        (∀ pair ∈ pairs, TracestateKey pair.1 ∧ TracestateValue pair.2) ∧
          (pairs.map Prod.fst).Nodup := by
    simp only [ListFrom, Nat.zero_add, List.not_mem_nil, not_false_eq_true, implies_true, and_true]
  rw [validateTracestate, BoundedList, ← hlist]
  by_cases hempty : v = []
  · subst hempty
    exact iff_of_true rfl ⟨by decide, listFrom_nil (by decide)⟩
  · rw [if_neg (by simpa using hempty)]
    by_cases hlen : v.len ≤ 512
    · have hin : ¬v.len > maxTracestateLen := Nat.not_lt.mpr hlen
      rw [if_neg hin, validateMembers_iff _ 0 [] (by decide)]
      exact (and_iff_right hlen).symm
    · have hout : v.len > maxTracestateLen := Nat.lt_of_not_le hlen
      rw [if_pos hout]
      exact iff_of_false Bool.false_ne_true fun h => hlen h.1

/-- What an extraction stores is the trace state that was read, or nothing. -/
theorem traceState_of_extracted {traceparent tracestate : OtelStringView}
    {context : SpanContextData} {v : Str} (hview : asStr tracestate = .ok v)
    (h : extractBody traceparent tracestate = .ok context) :
    context.traceState = if validateTracestate v then v else [] := by
  obtain ⟨_, ts, _, _, -, hts, -, -, hstate⟩ := extractBody_ok h
  obtain rfl : ts = v := Except.ok.inj (hts.symm.trans hview)
  exact hstate

/-- **A trace state is accepted exactly when it is a bounded list.**  Of the header that was read,
an extraction stores an accepted one as it is and nothing of any other, and the header written for
the context is what was stored. -/
theorem tracestate_grammar (v : Str) :
    (validateTracestate v = true ↔ BoundedList v) ∧
    ∀ traceparent tracestate context, asStr tracestate = .ok v →
      (otelTracePropagationExtract traceparent tracestate false).out = some (some context) →
      (BoundedList v → context.traceState = v) ∧
      (¬BoundedList v → context.traceState = []) ∧
      otelTracePropagationInjectTracestate (.live context) false maxSpanContextTraceState false =
        ⟨.ok, none, some context.traceState.len, some (Utf8.encode context.traceState)⟩ := by
  refine ⟨validateTracestate_iff v, fun traceparent tracestate context hview hout => ?_⟩
  have hbody : extractBody traceparent tracestate = .ok context := withOut_out hout
  have hstate := traceState_of_extracted hview hbody
  refine ⟨fun hlist => ?_, fun hlist => ?_, inject_tracestate (.extracted hbody)⟩
  · rw [hstate, if_pos ((validateTracestate_iff v).mpr hlist)]
  · rw [hstate, if_neg fun haccepted => hlist ((validateTracestate_iff v).mp haccepted)]

theorem tracestate_grammar_twoMembers :
    BoundedList (lit "t1@v=x, a=1") ∧
    ∃ context : SpanContextData, (otelTracePropagationExtract
        (viewOf (lit "00-11111111111111111111111111111111-2222222222222222-01"))
        (viewOf (lit "t1@v=x, a=1")) false).out = some (some context) ∧
      context.traceState = lit "t1@v=x, a=1" := by
  obtain ⟨hlist, hextract⟩ := tracestate_grammar (lit "t1@v=x, a=1")
  have h := hlist.mp (by decide)
  have hout : (otelTracePropagationExtract
      (viewOf (lit "00-11111111111111111111111111111111-2222222222222222-01"))
      (viewOf (lit "t1@v=x, a=1")) false).out =
        some (some ⟨⟨List.replicate 16 0x11, rfl⟩, ⟨List.replicate 8 0x22, rfl⟩, 0x01, true,
          lit "t1@v=x, a=1"⟩) := by rfl
  exact ⟨h, _, hout, (hextract _ _ _ (asStr_viewOf (by decide)) hout).1 h⟩

end OtelC.Trace
