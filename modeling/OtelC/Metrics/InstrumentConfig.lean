import OtelC.Lib.Double
import OtelC.Metrics.View

/-!
# What an instrument is created with

Every entry point that creates an instrument checks its name and its options in the same way before
it asks an implementation for anything.

* `validateInstrumentConfig_iff`: what is accepted, as a grammar, and what is made of it.
-/

namespace OtelC.Instruments

open OtelC.Sdk (F64Bits)

/-! ### The check -/

/-- `OtelInstrumentOptionsV1`. -/
structure OtelInstrumentOptions where
  structSize : UInt64
  description : OtelStringView
  unit : OtelStringView
  boundaries : CSlice F64Bits

/-- `OTEL_INSTRUMENT_OPTIONS_V1_SIZE`. -/
def instrumentOptionsV1Size : UInt64 := 56

/-- `OtelMetricInstrumentConfig`; a callback and its state are addresses. -/
structure OtelMetricInstrumentConfig where
  kind : UInt32
  number : UInt32
  name : OtelStringView
  description : OtelStringView
  unit : OtelStringView
  boundaries : CSlice F64Bits
  callback : Option UInt64
  callbackState : Option UInt64
  callbackStateFree : Option UInt64

/-- `MAX_HISTOGRAM_BOUNDARIES`. -/
def maxHistogramBoundaries : Nat := 65536

/-- `size_of::<f64>()`. -/
def sizeOfF64 : Nat := 8

def isAsciiAlphabetic (b : UInt8) : Bool := (0x41 ≤ b && b ≤ 0x5a) || (0x61 ≤ b && b ≤ 0x7a)

def isAsciiDigit (b : UInt8) : Bool := 0x30 ≤ b && b ≤ 0x39

/-- The bytes of an instrument name: letters, digits, and four marks. -/
def isNameByte (b : UInt8) : Bool :=
  isAsciiAlphabetic b || isAsciiDigit b || b == 0x5f || b == 0x2e || b == 0x2d || b == 0x2f

/-- `str::is_ascii`. -/
def isAscii (s : Str) : Bool := (Utf8.encode s).all (· < 0x80)

/-- The name in `validate_instrument_config`. -/
def checkName (name : OtelStringView) : Except Fail Unit := do
  let name ← asStr name
  if name.isEmpty then
    fail .invalidConfig "metric instrument name must not be empty"
  else if 255 < name.len then
    fail .invalidConfig "metric instrument name must be at most 255 bytes"
  else if !(Utf8.encode name).head?.any isAsciiAlphabetic || !(Utf8.encode name).all isNameByte then
    fail .invalidConfig
      "metric instrument name must start with ASCII alphabetic and contain only ASCII alphanumeric, '_', '.', '-', or '/'"
  else .ok ()

/-- What `validate_instrument_config` takes from the options; without any, everything is empty. -/
structure Given where
  description : OtelStringView
  unit : OtelStringView
  boundaries : CSlice F64Bits

def Given.none : Given := ⟨.null 0, .null 0, .null 0⟩

/-- The options in `validate_instrument_config`. -/
def readOptions : Option OtelInstrumentOptions → Except Fail Given
  | .none => .ok .none
  | some options =>
    if options.structSize < instrumentOptionsV1Size then
      fail .invalidConfig "instrument options struct_size is too small"
    else do
      let _ ← asStr options.description
      let unit ← asStr options.unit
      if 63 < unit.len || !isAscii unit then
        fail .invalidConfig "metric instrument unit must be ASCII and at most 63 bytes"
      else .ok ⟨options.description, options.unit, options.boundaries⟩

/-- The boundaries in `validate_instrument_config`; no boundaries is the NULL pointer. -/
def checkBoundaries (histogram : Bool) (boundaries : CSlice F64Bits) :
    Except Fail (CSlice F64Bits) :=
  if !histogram then
    if boundaries.len ≠ 0 || !boundaries.isNull then
      fail .invalidConfig "histogram boundaries are only valid for histogram instruments"
    else .ok boundaries
  else if maxHistogramBoundaries < boundaries.len then
    fail .invalidConfig "histogram boundary count exceeds the supported maximum"
  else if boundaries.len = 0 then .ok (.null 0)
  else if boundaries.isNull then
    fail .invalidArgument "histogram boundaries are NULL with non-zero count"
  else if isizeMax < boundaries.len * sizeOfF64 then
    fail .invalidArgument "histogram boundary array exceeds the maximum supported size"
  else if boundaries.read.any (fun value => !Double.isFinite value) ||
      (boundaries.read.zip boundaries.read.tail).any (fun pair => Double.ge pair.1 pair.2) then
    fail .invalidConfig "histogram boundaries must be finite and strictly increasing"
  else .ok boundaries

/-- `validate_instrument_config`. -/
def validateInstrumentConfig (name : OtelStringView) (options : Option OtelInstrumentOptions)
    (histogram : Bool) : Except Fail OtelMetricInstrumentConfig := do
  checkName name
  let given ← readOptions options
  let boundaries ← checkBoundaries histogram given.boundaries
  .ok {
    kind := 0
    number := 0
    name := name
    description := given.description
    unit := given.unit
    boundaries := boundaries
    callback := .none
    callbackState := .none
    callbackStateFree := .none }

/-! ### The grammar -/

/-- An ASCII letter. -/
def Letter (c : Char) : Prop :=
  0x41 ≤ c.toNat ∧ c.toNat ≤ 0x5A ∨ 0x61 ≤ c.toNat ∧ c.toNat ≤ 0x7A

/-- A character of an instrument name: a letter, a digit or one of four marks. -/
def NameChar (c : Char) : Prop :=
  Letter c ∨ 0x30 ≤ c.toNat ∧ c.toNat ≤ 0x39 ∨ c = '_' ∨ c = '.' ∨ c = '-' ∨ c = '/'

/-- A letter, and at most 254 characters behind it. -/
def InstrumentName (s : Str) : Prop :=
  ∃ c rest, s = c :: rest ∧ Letter c ∧ rest.length ≤ 254 ∧ ∀ d ∈ rest, NameChar d

/-- At most 63 ASCII characters. -/
def InstrumentUnit (s : Str) : Prop := s.length ≤ 63 ∧ ∀ c ∈ s, c.toNat < 0x80

/-- Boundaries of buckets: finite numbers in increasing order, and not too many. -/
def BucketBoundaries (values : List F64Bits) : Prop :=
  values.length ≤ maxHistogramBoundaries ∧ (∀ x ∈ values, Double.isFinite x = true) ∧
    values.Pairwise fun x y => Double.order x < Double.order y

/-- The options that are accepted. -/
def OptionsAccepted (options : OtelInstrumentOptions) : Prop :=
  instrumentOptionsV1Size ≤ options.structSize ∧ (∃ s, asStr options.description = .ok s) ∧
    ∃ s, asStr options.unit = .ok s ∧ InstrumentUnit s

/-- The boundaries that are accepted, and the pointer that stands for them. -/
def BoundariesAccepted : Bool → CSlice F64Bits → CSlice F64Bits → Prop
  | false, boundaries, accepted => boundaries = .null 0 ∧ accepted = boundaries
  | true, boundaries, accepted =>
    boundaries.len = 0 ∧ accepted = .null 0 ∨
      ∃ values, boundaries = .elems values ∧ values ≠ [] ∧ BucketBoundaries values ∧
        accepted = boundaries

/-- What the options give to an instrument. -/
def givenBy : Option OtelInstrumentOptions → Given
  | .none => .none
  | some options => ⟨options.description, options.unit, options.boundaries⟩

/-! ### Names and units -/

theorem NameChar.lt {c : Char} (h : NameChar c) : c.toNat < 0x80 := by
  rcases h with h | h | rfl | rfl | rfl | rfl
  · rcases h with h | h <;> omega
  · omega
  all_goals decide

theorem Letter.nameChar {c : Char} (h : Letter c) : NameChar c := .inl h

theorem lt_of_isNameByte {b : UInt8} (h : isNameByte b = true) : b.toNat < 0x80 := by
  simp only [isNameByte, isAsciiAlphabetic, isAsciiDigit, Bool.or_eq_true, Bool.and_eq_true,
    decide_eq_true_eq, beq_iff_eq, UInt8.le_iff_toNat_le] at h
  rcases h with (((((⟨-, h⟩ | ⟨-, h⟩) | ⟨-, h⟩) | rfl) | rfl) | rfl) | rfl
  · exact Nat.lt_of_le_of_lt h (by decide)
  · exact Nat.lt_of_le_of_lt h (by decide)
  · exact Nat.lt_of_le_of_lt h (by decide)
  all_goals decide

theorem isAsciiAlphabetic_byte {c : Char} (hc : c.toNat < 0x80) :
    isAsciiAlphabetic (UInt8.ofNat c.toNat) = true ↔ Letter c := by
  have hbyte : (UInt8.ofNat c.toNat).toNat = c.toNat := by
    rw [UInt8.toNat_ofNat']
    omega
  simp only [isAsciiAlphabetic, Letter, Bool.or_eq_true, Bool.and_eq_true, decide_eq_true_eq,
    UInt8.le_iff_toNat_le, hbyte]
  exact Iff.rfl

theorem eq_char_iff {c d : Char} : c = d ↔ c.toNat = d.toNat :=
  ⟨fun h => congrArg Char.toNat h, fun h => Char.toNat_inj.mp h⟩

theorem isNameByte_byte {c : Char} (hc : c.toNat < 0x80) :
    isNameByte (UInt8.ofNat c.toNat) = true ↔ NameChar c := by
  have hbyte : (UInt8.ofNat c.toNat).toNat = c.toNat := by
    rw [UInt8.toNat_ofNat']
    omega
  simp only [isNameByte, NameChar, Bool.or_eq_true, isAsciiAlphabetic_byte hc, isAsciiDigit,
    Bool.and_eq_true, decide_eq_true_eq, beq_iff_eq, UInt8.le_iff_toNat_le, ← UInt8.toNat_inj,
    hbyte, eq_char_iff, or_assoc]
  exact Iff.rfl

/-- The bytes of a name are checked, and they are those of a letter and of name characters. -/
theorem instrumentName_iff {s : Str} :
    (s ≠ [] ∧ s.len ≤ 255 ∧ (Utf8.encode s).head?.any isAsciiAlphabetic = true ∧
      (Utf8.encode s).all isNameByte = true) ↔ InstrumentName s := by
  rw [List.all_eq_true, Utf8.forall_encode_iff fun b hb => lt_of_isNameByte hb]
  cases s with
  | nil =>
    refine iff_of_false (fun h => h.1 rfl) fun h => ?_
    obtain ⟨c, rest, h, -⟩ := h
    cases h
  | cons c rest =>
    have hhead : c.toNat < 0x80 → ((Utf8.encode (c :: rest)).head?.any isAsciiAlphabetic = true ↔
        Letter c) := by
      intro hc
      rw [Utf8.encode_cons, Utf8.utf8EncodeChar_ascii hc, List.singleton_append, List.head?_cons,
        Option.any_some]
      exact isAsciiAlphabetic_byte hc
    constructor
    · rintro ⟨-, hlen, hfirst, hall⟩
      have hascii : ∀ d ∈ c :: rest, d.toNat < 0x80 := fun d hd => (hall d hd).1
      rw [Str.len, Utf8.length_encode_of_ascii hascii, List.length_cons] at hlen
      refine ⟨c, rest, rfl, (hhead (hascii c List.mem_cons_self)).mp hfirst, by omega, ?_⟩
      intro d hd
      obtain ⟨hlt, hbyte⟩ := hall d (List.mem_cons_of_mem c hd)
      exact (isNameByte_byte hlt).mp hbyte
    · rintro ⟨c', rest', heq, hletter, hlen, hall⟩
      obtain ⟨rfl, rfl⟩ := List.cons.inj heq
      have hnames : ∀ d ∈ c :: rest, NameChar d :=
        List.forall_mem_cons.mpr ⟨hletter.nameChar, hall⟩
      have hascii : ∀ d ∈ c :: rest, d.toNat < 0x80 := fun d hd => (hnames d hd).lt
      refine ⟨List.cons_ne_nil c rest, ?_, (hhead (hascii c List.mem_cons_self)).mpr hletter, ?_⟩
      · rw [Str.len, Utf8.length_encode_of_ascii hascii, List.length_cons]
        omega
      · exact fun d hd => ⟨hascii d hd, (isNameByte_byte (hascii d hd)).mpr (hnames d hd)⟩

theorem checkName_iff {name : OtelStringView} :
    checkName name = .ok () ↔ ∃ s, asStr name = .ok s ∧ InstrumentName s := by
  rw [checkName, Checked.bind_eq_ok]
  refine exists_congr fun s => and_congr_right fun _ => ?_
  rw [← instrumentName_iff, fail, fail, fail, Checked.guard_eq_ok, Checked.guard_eq_ok,
    Checked.guard_eq_ok]
  simp only [List.isEmpty_iff, Nat.not_lt, Bool.or_eq_true, Bool.not_eq_true', not_or,
    Bool.not_eq_false, ne_eq, and_true]

theorem isAscii_iff {s : Str} : isAscii s = true ↔ ∀ c ∈ s, c.toNat < 0x80 := by
  have hmem : isAscii s = true ↔ ∀ b ∈ Utf8.encode s, b.toNat < 0x80 := by
    rw [isAscii, List.all_eq_true]
    refine forall_congr' fun b => forall_congr' fun _ => ?_
    rw [decide_eq_true_eq, UInt8.lt_iff_toNat_lt]
    exact Iff.rfl
  rw [hmem, Utf8.forall_encode_iff fun b hb => hb]
  refine forall_congr' fun c => forall_congr' fun _ => ?_
  refine ⟨fun h => h.1, fun h => ⟨h, ?_⟩⟩
  rw [UInt8.toNat_ofNat']
  omega

theorem instrumentUnit_iff {s : Str} : (s.len ≤ 63 ∧ isAscii s = true) ↔ InstrumentUnit s := by
  rw [isAscii_iff, InstrumentUnit]
  refine and_congr_left fun hascii => ?_
  rw [Str.len, Utf8.length_encode_of_ascii hascii]

theorem readOptions_iff {options : Option OtelInstrumentOptions} {given : Given} :
    readOptions options = .ok given ↔ (∀ o ∈ options, OptionsAccepted o) ∧ given = givenBy options := by
  cases options with
  | none =>
    constructor
    · intro h
      obtain rfl := Except.ok.inj h
      exact ⟨fun o ho => (by cases ho), rfl⟩
    · rintro ⟨-, rfl⟩
      rfl
  | some options =>
    rw [readOptions, fail, Checked.guard_eq_ok, givenBy, UInt64.not_lt]
    simp only [Option.mem_some_iff, forall_eq', OptionsAccepted, Checked.bind_eq_ok, fail,
      Checked.guard_eq_ok, Bool.or_eq_true, decide_eq_true_eq, Bool.not_eq_true', not_or,
      Bool.not_eq_false, Nat.not_lt, Except.ok.injEq, ← instrumentUnit_iff]
    constructor
    · rintro ⟨hsize, s, hs, u, hu, ⟨hlen, hascii⟩, rfl⟩
      exact ⟨⟨hsize, ⟨s, hs⟩, u, hu, hlen, hascii⟩, rfl⟩
    · rintro ⟨⟨hsize, ⟨s, hs⟩, u, hu, hlen, hascii⟩, rfl⟩
      exact ⟨hsize, s, hs, u, hu, ⟨hlen, hascii⟩, rfl⟩

/-! ### Boundaries -/

theorem checkBoundaries_plain {boundaries accepted : CSlice F64Bits} :
    checkBoundaries false boundaries = .ok accepted ↔ BoundariesAccepted false boundaries accepted := by
  rw [checkBoundaries, Bool.not_false, if_pos rfl, fail, Checked.guard_eq_ok, Except.ok.injEq,
    BoundariesAccepted, eq_comm (a := boundaries)]
  refine and_congr_left fun _ => ?_
  cases boundaries with
  | null n =>
    by_cases hn : n = 0
    · simp [CSlice.len, CSlice.isNull, hn]
    · simp [CSlice.len, CSlice.isNull, hn]
  | elems values => simp [CSlice.isNull]

/-- The checks of the boundaries that are there. -/
theorem checkBoundaries_elems {values : List F64Bits} (hne : values ≠ [])
    {accepted : CSlice F64Bits} :
    checkBoundaries true (.elems values) = .ok accepted ↔
      BucketBoundaries values ∧ accepted = .elems values := by
  have hlen : (CSlice.elems values).len ≠ 0 := fun h => hne (List.length_eq_zero_iff.mp h)
  rw [checkBoundaries, Bool.not_true, if_neg Bool.false_ne_true, fail, Checked.guard_eq_ok,
    if_neg hlen, CSlice.isNull, if_neg Bool.false_ne_true, fail, Checked.guard_eq_ok, fail,
    Checked.guard_eq_ok, Except.ok.injEq, CSlice.read]
  simp only [Nat.not_lt, Bool.or_eq_true, List.any_eq_true, not_or, not_exists, not_and,
    Bool.not_eq_true', Bool.not_eq_false, Bool.not_eq_true]
  constructor
  · rintro ⟨hcount, -, ⟨hfinite, hsorted⟩, rfl⟩
    exact ⟨⟨hcount, hfinite, Double.pairwise_order hfinite hsorted⟩, rfl⟩
  · rintro ⟨⟨hcount, hfinite, hsorted⟩, rfl⟩
    have hsize : (CSlice.elems values).len * sizeOfF64 ≤ isizeMax :=
      (Nat.mul_le_mul_right sizeOfF64 hcount).trans (by decide)
    exact ⟨hcount, hsize, ⟨hfinite, Double.ge_eq_false_of_pairwise hfinite hsorted⟩, rfl⟩

theorem checkBoundaries_iff {histogram : Bool} {boundaries accepted : CSlice F64Bits} :
    checkBoundaries histogram boundaries = .ok accepted ↔
      BoundariesAccepted histogram boundaries accepted := by
  cases histogram with
  | false => exact checkBoundaries_plain
  | true =>
    cases boundaries with
    | null n =>
      by_cases hn : n = 0
      · subst hn
        simp [checkBoundaries, BoundariesAccepted, CSlice.len, eq_comm]
      · refine iff_of_false (fun h => ?_) fun h => ?_
        · rw [checkBoundaries, Bool.not_true, if_neg Bool.false_ne_true, fail, Checked.guard_eq_ok,
            CSlice.len, if_neg hn, CSlice.isNull, if_pos rfl] at h
          cases h.2
        · rcases h with ⟨h, -⟩ | ⟨values, h, -⟩
          · exact hn h
          · cases h
    | elems values =>
      by_cases hne : values = []
      · subst hne
        simp [checkBoundaries, BoundariesAccepted, CSlice.len, eq_comm]
      · rw [checkBoundaries_elems hne, BoundariesAccepted]
        simp [CSlice.len, hne]

/-- The configuration of a request, with these boundaries. -/
def checkedConfig (name : OtelStringView) (given : Given) (boundaries : CSlice F64Bits) :
    OtelMetricInstrumentConfig where
  kind := 0
  number := 0
  name := name
  description := given.description
  unit := given.unit
  boundaries := boundaries
  callback := none
  callbackState := none
  callbackStateFree := none

theorem accepted_of_validateInstrumentConfig {name : OtelStringView}
    {options : Option OtelInstrumentOptions} {histogram : Bool}
    {config : OtelMetricInstrumentConfig}
    (h : validateInstrumentConfig name options histogram = .ok config) :
    (∃ s, asStr name = .ok s ∧ InstrumentName s) ∧ (∀ o ∈ options, OptionsAccepted o) ∧
      ∃ boundaries, BoundariesAccepted histogram (givenBy options).boundaries boundaries ∧
        config = checkedConfig name (givenBy options) boundaries := by
  obtain ⟨u, hname, h⟩ := Checked.bind_eq_ok.mp h
  obtain ⟨given, hgiven, h⟩ := Checked.bind_eq_ok.mp h
  obtain ⟨boundaries, hboundaries, h⟩ := Checked.bind_eq_ok.mp h
  obtain rfl := Except.ok.inj h
  obtain ⟨hoptions, rfl⟩ := readOptions_iff.mp hgiven
  exact ⟨checkName_iff.mp hname, hoptions, boundaries, checkBoundaries_iff.mp hboundaries, rfl⟩

/-- **The check of an instrument accepts exactly the well-formed requests**, and hands on the name,
the description and the unit as they were given. -/
theorem validateInstrumentConfig_iff (name : OtelStringView)
    (options : Option OtelInstrumentOptions) (histogram : Bool)
    (config : OtelMetricInstrumentConfig) :
    validateInstrumentConfig name options histogram = .ok config ↔
      (∃ s, asStr name = .ok s ∧ InstrumentName s) ∧ (∀ o ∈ options, OptionsAccepted o) ∧
        ∃ boundaries, BoundariesAccepted histogram (givenBy options).boundaries boundaries ∧
          config = checkedConfig name (givenBy options) boundaries := by
  refine ⟨accepted_of_validateInstrumentConfig, ?_⟩
  rintro ⟨hname, hoptions, boundaries, hboundaries, rfl⟩
  refine Checked.bind_eq_ok.mpr ⟨(), checkName_iff.mpr hname, ?_⟩
  rw [readOptions_iff.mpr ⟨hoptions, rfl⟩, Checked.ok_bind, checkBoundaries_iff.mpr hboundaries,
    Checked.ok_bind]
  rfl

end OtelC.Instruments
