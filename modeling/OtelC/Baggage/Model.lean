import OtelC.Abi
import OtelC.Lib.Commit
import OtelC.Lib.Keyed
import OtelC.Lib.Percent

/-!
# Baggage: storage and the W3C codec

The entries of a baggage, the builder that collects them, and the two halves of the `baggage`
header codec.  A baggage and a builder hold the same thing, a list of entries in insertion order;
they differ in what the calls may do with it.

The header is a list of members separated by `,`; a member is a pair and properties separated by
`;`; the pair is cut at its first `=` and its value is percent-encoded.  Reading trims each of these
pieces, writing trims nothing.
-/

namespace OtelC.Baggage

def maxBaggageItems : Nat := 64

def maxBaggageBytes : Nat := 8192

structure BaggageEntry where
  key : Str
  value : Str
  metadata : Str
  deriving DecidableEq, Repr

def BaggageEntry.storedLen (e : BaggageEntry) : Nat :=
  e.key.len + e.value.len + e.metadata.len

def storedBytes (entries : List BaggageEntry) : Nat :=
  (entries.map BaggageEntry.storedLen).sum

/-- The position of the entry with this key. -/
def position (entries : List BaggageEntry) (key : Str) : Option Nat :=
  Keyed.position BaggageEntry.key entries key

/-! ### The builder -/

def viewShapeIsValid (view : OtelStringView) : Bool :=
  view.len = 0 || !view.isNull

/-- `string_from_view` and `str_from_view`, which report both defects with the same text. -/
def stringFromView (view : OtelStringView) (field : String) : Except Fail Str :=
  if !viewShapeIsValid view then fail .invalidArgument field
  else match Utf8.fromUtf8 view.read with
    | some s => .ok s
    | none => fail .invalidUtf8 field

/-- `usize::saturating_add` on a 64-bit target. -/
def saturatingAdd (a b : Nat) : Nat := min (a + b) (2 ^ 64 - 1)

def validateBounds (entries : List BaggageEntry) : Except Fail Unit :=
  if entries.length > maxBaggageItems then fail .invalidConfig "baggage exceeds 64 entries"
  else if storedBytes entries > maxBaggageBytes then
    fail .invalidConfig "baggage stored data exceeds 8192 bytes"
  else .ok ()

/-- The body of `otel_baggage_builder_set` on the entries of a live builder. -/
def builderSet (key value metadata : OtelStringView) : Commit.Call (List BaggageEntry) Fail Unit :=
  if !viewShapeIsValid key || !viewShapeIsValid value || !viewShapeIsValid metadata then
    Commit.ofExcept (fail .invalidArgument "baggage input has a NULL pointer with non-zero length")
  else if saturatingAdd (saturatingAdd key.len value.len) metadata.len > maxBaggageBytes then
    Commit.ofExcept (fail .invalidConfig "baggage entry exceeds the 8192-byte storage limit")
  else do
    let key ← Commit.ofExcept (stringFromView key "baggage key is invalid UTF-8")
    if key.isEmpty then Commit.ofExcept (fail .invalidArgument "baggage key is empty")
    else do
      let value ← Commit.ofExcept (stringFromView value "baggage value is invalid UTF-8")
      let metadata ← Commit.ofExcept (stringFromView metadata "baggage metadata is invalid UTF-8")
      let replacement : BaggageEntry := ⟨key, value, metadata⟩
      let entries ← Commit.state
      let old := position entries replacement.key
      let oldLen := ((old.bind (entries[·]?)).map BaggageEntry.storedLen).getD 0
      let projected := storedBytes entries - oldLen + replacement.storedLen
      if projected > maxBaggageBytes then
        Commit.ofExcept (fail .invalidConfig "baggage stored data exceeds 8192 bytes")
      else if old.isNone ∧ entries.length = maxBaggageItems then
        Commit.ofExcept (fail .invalidConfig "baggage exceeds 64 entries")
      else match old with
        | some i => Commit.update fun entries => entries.set i replacement
        | none => Commit.update fun entries => entries ++ [replacement]

/-- The body of `otel_baggage_builder_remove`. -/
def builderRemove (key : OtelStringView) : Commit.Call (List BaggageEntry) Fail Unit := do
  let key ← Commit.ofExcept (stringFromView key "baggage key is invalid UTF-8")
  let entries ← Commit.state
  match position entries key with
  | some i => Commit.update fun entries => entries.eraseIdx i
  | none => pure ()

/-- The body of `otel_baggage_builder_build`: the entries of the new baggage. -/
def builderBuild (entries : List BaggageEntry) : Except Fail (List BaggageEntry) := do
  validateBounds entries
  .ok entries

/-! ### Reading a header -/

/-- The Unicode `White_Space` property, which `str::trim` strips. -/
def isWhiteSpace (c : Char) : Bool :=
  (0x09 ≤ c.toNat && c.toNat ≤ 0x0D) || c.toNat = 0x20 || c.toNat = 0x85 || c.toNat = 0xA0 ||
    c.toNat = 0x1680 || (0x2000 ≤ c.toNat && c.toNat ≤ 0x200A) || c.toNat = 0x2028 ||
    c.toNat = 0x2029 || c.toNat = 0x202F || c.toNat = 0x205F || c.toNat = 0x3000

/-- `str::trim`. -/
def trim (s : Str) : Str := Text.trimBy isWhiteSpace s

def isTokenByte (b : UInt8) : Bool :=
  (0x30 ≤ b.toNat && b.toNat ≤ 0x39) || (0x41 ≤ b.toNat && b.toNat ≤ 0x5A) ||
    (0x61 ≤ b.toNat && b.toNat ≤ 0x7A) ||
    b ∈ [0x21, 0x23, 0x24, 0x25, 0x26, 0x27, 0x2A, 0x2B, 0x2D, 0x2E, 0x5E, 0x5F, 0x60, 0x7C, 0x7E]

/-- A non-empty token. -/
def isToken (s : Str) : Bool := !s.isEmpty && (Utf8.encode s).all isTokenByte

/-- A byte a value may spell on the wire, `%` included. -/
def isValueByte (b : UInt8) : Bool :=
  b.toNat = 0x25 || b.toNat = 0x21 || (0x23 ≤ b.toNat && b.toNat ≤ 0x2B) ||
    (0x2D ≤ b.toNat && b.toNat ≤ 0x3A) || (0x3C ≤ b.toNat && b.toNat ≤ 0x5B) ||
    (0x5D ≤ b.toNat && b.toNat ≤ 0x7E)

def percentDecode (input : Str) : Option Str :=
  (Percent.decode (Utf8.encode input)).map Utf8.fromUtf8Lossy

def hasValidPercentEncoding (input : Str) : Bool :=
  Percent.validEscapes (Utf8.encode input)

/-- What `parse_member` asks of one property after trimming it. -/
def propertyIsValid (property : Str) : Bool :=
  if property.isEmpty then false
  else match Text.splitOnce '=' property with
    | none => isToken property
    | some (k, v) =>
      isToken k && ((Utf8.encode v).all isValueByte && hasValidPercentEncoding v)

/-- The property loop of `parse_member`, which rebuilds the metadata as it goes. -/
def parseProperties : List Str → Str → Option Str
  | [], metadata => some metadata
  | part :: parts, metadata =>
    if propertyIsValid (trim part) then
      parseProperties parts (Text.joinPush ';' metadata (trim part))
    else none

def parseMember (member : Str) : Option BaggageEntry :=
  match member.splitOn ';' with
  | [] => none
  | first :: parts =>
    match Text.splitOnce '=' (trim first) with
    | none => none
    | some (k, v) =>
      if !isToken (trim k) then none
      else if !(Utf8.encode (trim v)).all isValueByte then none
      else do
        let value ← percentDecode (trim v)
        let metadata ← parseProperties parts []
        some ⟨trim k, value, metadata⟩

/-- One member of the header: skipped, replacing the entry with its key in place, or appended
while there is room. -/
def extractStep (entries : List BaggageEntry) (member : Str) : List BaggageEntry :=
  match parseMember member with
  | none => entries
  | some entry =>
    match position entries entry.key with
    | some i => entries.set i entry
    | none => if entries.length < maxBaggageItems then entries ++ [entry] else entries

def extractEntries (header : Str) : List BaggageEntry :=
  (header.splitOn ',').foldl extractStep []

/-- The body of `otel_baggage_propagation_extract`: the entries of the new baggage. -/
def extractBody (header : OtelStringView) : Except Fail (List BaggageEntry) :=
  if !viewShapeIsValid header then
    fail .invalidArgument "baggage header has a NULL pointer with non-zero length"
  else if header.len ≤ maxBaggageBytes then do
    let text ← stringFromView header "baggage header is invalid UTF-8"
    .ok (extractEntries text)
  else .ok []

/-! ### Writing a header -/

/-- A byte `encode_value` writes as itself. -/
def isLiteral (b : UInt8) : Bool :=
  b.toNat = 0x21 || (0x23 ≤ b.toNat && b.toNat ≤ 0x24) || (0x26 ≤ b.toNat && b.toNat ≤ 0x2B) ||
    (0x2D ≤ b.toNat && b.toNat ≤ 0x3A) || (0x3C ≤ b.toNat && b.toNat ≤ 0x5B) ||
    (0x5D ≤ b.toNat && b.toNat ≤ 0x7E)

/-- `b as char`. -/
def byteChar (b : UInt8) : Char := Char.ofNat b.toNat

def encodeValue (value : Str) : Str :=
  (Percent.encode isLiteral (Utf8.encode value)).map byteChar

def encodedMember (entry : BaggageEntry) : Option Str :=
  if !isToken entry.key then none
  else
    let out := entry.key ++ '=' :: encodeValue entry.value
    if entry.metadata.isEmpty then some out
    else do
      -- the probe normalises the metadata, the output does not
      let _ ← parseMember (lit "k=v;" ++ entry.metadata)
      some (out ++ ';' :: entry.metadata)

def injectStep (encoded : Str) (entry : BaggageEntry) : Str :=
  match encodedMember entry with
  | none => encoded
  | some member =>
    let separator := if encoded.isEmpty then 0 else 1
    if encoded.len + separator + member.len > maxBaggageBytes then encoded
    else Text.joinPush ',' encoded member

/-- The header `otel_baggage_propagation_inject` renders. -/
def injectText (entries : List BaggageEntry) : Str :=
  entries.foldl injectStep []

/-! ### The entry points -/

def otelBaggagePropagationInject (baggage : HandleArg (List BaggageEntry)) (bufferIsNull : Bool)
    (capacity : Nat) (outLenIsNull : Bool) : InjectCall :=
  if outLenIsNull then
    ⟨.invalidArgument, some "baggage output length is NULL", none, none⟩
  else match checkedRef baggage with
    | .error e => ⟨e.status, some e.message, none, none⟩
    | .ok entries =>
      let encoded := injectText entries
      if bufferIsNull then
        if capacity = 0 then ⟨.ok, none, some encoded.len, none⟩
        else ⟨.invalidArgument, some "baggage output buffer is NULL", some encoded.len, none⟩
      else if capacity < encoded.len then
        ⟨.invalidArgument, some "baggage output buffer is too small", some encoded.len, none⟩
      else ⟨.ok, none, some encoded.len, some (Utf8.encode encoded)⟩

def otelBaggagePropagationExtract (header : OtelStringView) (outIsNull : Bool) :
    OutCall (List BaggageEntry) :=
  withOut outIsNull "baggage output is NULL" (extractBody header)

def otelBaggageBuilderBuild (builder : HandleArg (List BaggageEntry)) (outIsNull : Bool) :
    OutCall (List BaggageEntry) :=
  withOut outIsNull "baggage output is NULL" do
    let entries ← checkedRef builder
    builderBuild entries

end OtelC.Baggage
