import OtelC.Lib.Hex
import OtelC.Trace.SpanContext

/-!
# W3C Trace Context propagation

The reader and the two writers of the `traceparent` and `tracestate` headers.  The reader goes
through fixed offsets of the bytes of `traceparent`, each of which may be out of range as far as its
code goes; the trace state is kept only if it passes `validateTracestate`, and is empty otherwise.
-/

namespace OtelC.Trace

/-- The length of a version-00 `traceparent`. -/
def traceparentLen : Nat := 55

def maxTracestateLen : Nat := 512

def maxTracestateMembers : Nat := 32

/-! ### Hexadecimal fields -/

/-- `decode_hex::<N>`. -/
def decodeHex (n : Nat) (input : List UInt8) : Option (Bytes n) :=
  if input.length ≠ 2 * n then none
  else (Hex.decode input).bind fun bytes =>
    if h : bytes.length = n then some ⟨bytes, h⟩ else none

/-! ### The grammar of a trace state -/

def isLowercase (b : UInt8) : Bool := 0x61 ≤ b.toNat && b.toNat ≤ 0x7A

def isDigit (b : UInt8) : Bool := 0x30 ≤ b.toNat && b.toNat ≤ 0x39

def isTracestateKeyChar (b : UInt8) : Bool :=
  isLowercase b || isDigit b || b ∈ [0x5F, 0x2D, 0x2A, 0x2F]

/-- A first byte and key characters behind it, within a length. -/
def isKeyPart (first : UInt8 → Bool) (maxLen : Nat) : List UInt8 → Bool
  | [] => false
  | b :: rest => (b :: rest).length ≤ maxLen && first b && rest.all isTracestateKeyChar

def isValidTracestateKey (key : Str) : Bool :=
  match Text.splitOnce 0x40 (Utf8.encode key) with
  | some (tenant, system) =>
    if system.contains 0x40 then false
    else isKeyPart (fun b => isLowercase b || isDigit b) 241 tenant && isKeyPart isLowercase 14 system
  | none => isKeyPart isLowercase 256 (Utf8.encode key)

def isValidTracestateValue (value : Str) : Bool :=
  let bytes := Utf8.encode value
  if bytes.isEmpty || bytes.length > 256 then false
  else if bytes.getLast? = some 0x20 then false
  else bytes.all fun b =>
    b = 0x20 || ((0x21 ≤ b.toNat && b.toNat ≤ 0x7E) && b ≠ 0x2C && b ≠ 0x3D)

/-- Optional white space around a list member. -/
def isOws (c : Char) : Bool := c = ' ' || c = Char.ofNat 9

/-- The member loop of `validate_tracestate`, with the members counted and the keys seen so far. -/
def validateMembers : List Str → Nat → List Str → Bool
  | [], _, _ => true
  | raw :: rest, members, seenKeys =>
    let member := Text.trimBy isOws raw
    if member.isEmpty then validateMembers rest members seenKeys
    else if members + 1 > maxTracestateMembers then false
    else match Text.splitOnce '=' member with
      | none => false
      | some (key, value) =>
        if !isValidTracestateKey key || !isValidTracestateValue value then false
        else if seenKeys.contains key then false
        else validateMembers rest (members + 1) (seenKeys ++ [key])

def validateTracestate (value : Str) : Bool :=
  if value.isEmpty then true
  else if value.len > maxTracestateLen then false
  else validateMembers (value.splitOn ',') 0 []

/-! ### Reading -/

/-- `tp[i] != b'-'` as a check. -/
def expectDash (tp : List UInt8) (i : Nat) (message : String) : Except Fail Unit := do
  let b ← index tp i
  if b ≠ 0x2D then fail .invalidArgument message else .ok ()

/-- A hexadecimal field of `traceparent`. -/
def hexField (n : Nat) (tp : List UInt8) (start stop : Nat) (message : String) :
    Except Fail (Bytes n) := do
  let field ← slice tp start stop
  match decodeHex n field with
  | some bytes => .ok bytes
  | none => fail .invalidArgument message

/-- `&&` evaluates the index only behind a longer value. -/
def checkTrailing (tp : List UInt8) : Except Fail Unit :=
  if tp.length > traceparentLen then
    expectDash tp traceparentLen "traceparent has trailing data without a delimiter"
  else .ok ()

/-- The ids and flags of a `traceparent`. -/
structure Traceparent where
  traceId : Bytes 16
  spanId : Bytes 8
  traceFlags : UInt8

/-- The checks `otel_trace_propagation_extract` makes on the bytes of `traceparent`, in order. -/
def parseTraceparent (tp : List UInt8) : Except Fail Traceparent :=
  if tp.length < traceparentLen then fail .invalidArgument "traceparent is too short"
  else do
    expectDash tp 2 "traceparent has malformed separators"
    expectDash tp 35 "traceparent has malformed separators"
    expectDash tp 52 "traceparent has malformed separators"
    let versionField ← hexField 1 tp 0 2 "traceparent version is not hex"
    let version ← index versionField.val 0
    if version = 0xFF then fail .invalidArgument "traceparent version ff is invalid"
    else if version = 0x00 ∧ tp.length ≠ traceparentLen then
      fail .invalidArgument "version 00 traceparent must be exactly 55 characters"
    else do
      checkTrailing tp
      let traceId ← hexField 16 tp 3 35 "trace-id is not lowercase hex"
      let spanId ← hexField 8 tp 36 52 "parent-id is not lowercase hex"
      let flagsField ← hexField 1 tp 53 55 "trace-flags is not hex"
      let flags ← index flagsField.val 0
      if traceId = Bytes.zero 16 then fail .invalidArgument "trace-id is all zero"
      else if spanId = Bytes.zero 8 then fail .invalidArgument "parent-id is all zero"
      else .ok ⟨traceId, spanId, flags⟩

/-- The body of `otel_trace_propagation_extract`. -/
def extractBody (traceparent tracestate : OtelStringView) : Except Fail SpanContextData := do
  let text ← asStr traceparent
  let tp ← parseTraceparent (Utf8.encode text)
  let ts ← asStr tracestate
  .ok ⟨tp.traceId, tp.spanId, tp.traceFlags, true, if validateTracestate ts then ts else []⟩

def otelTracePropagationExtract (traceparent tracestate : OtelStringView) (outIsNull : Bool) :
    OutCall SpanContextData :=
  withOut outIsNull "output pointer is NULL" (extractBody traceparent tracestate)

/-! ### Writing -/

/-- `inject`, which both writers share. -/
def inject (context : HandleArg SpanContextData) (bufferIsNull : Bool) (capacity : Nat)
    (outLenIsNull : Bool) (render : SpanContextData → Except Fail Str) : InjectCall :=
  match checkedRef context with
  | .error e => ⟨e.status, some e.message, none, none⟩
  | .ok context =>
    if !context.isValid then
      ⟨.invalidArgument, some "span context is invalid", none, none⟩
    else match render context with
      | .error e => ⟨e.status, some e.message, none, none⟩
      | .ok rendered =>
        let outLen := if outLenIsNull then none else some rendered.len
        if bufferIsNull then ⟨.ok, none, outLen, none⟩
        else if capacity < rendered.len then
          ⟨.invalidArgument, some "output buffer is too small", outLen, none⟩
        else ⟨.ok, none, outLen, some (Utf8.encode rendered)⟩

/-- `encode_hex`, a character for each digit. -/
def encodeHex (bytes : List UInt8) : Str :=
  (Hex.encode bytes).map fun b => Char.ofNat b.toNat

def renderTraceparent (context : SpanContextData) : Except Fail Str :=
  let v := context.view
  .ok (lit "00-" ++ encodeHex v.traceId.val ++ lit "-" ++ encodeHex v.spanId.val ++ lit "-" ++
    encodeHex [v.traceFlags])

def renderTracestate (context : SpanContextData) : Except Fail Str :=
  asStr context.view.traceState

def otelTracePropagationInjectTraceparent (context : HandleArg SpanContextData)
    (bufferIsNull : Bool) (capacity : Nat) (outLenIsNull : Bool) : InjectCall :=
  inject context bufferIsNull capacity outLenIsNull renderTraceparent

def otelTracePropagationInjectTracestate (context : HandleArg SpanContextData)
    (bufferIsNull : Bool) (capacity : Nat) (outLenIsNull : Bool) : InjectCall :=
  inject context bufferIsNull capacity outLenIsNull renderTracestate

theorem encode_encodeHex (bytes : List UInt8) : Utf8.encode (encodeHex bytes) = Hex.encode bytes := by
  refine Utf8.encode_map_ascii fun b hb => ?_
  obtain ⟨a, -, hb⟩ := List.mem_flatMap.mp hb
  have hhi := Hex.lower_toNat_range (Hex.div_lt a)
  have hlo := Hex.lower_toNat_range (Hex.mod_lt a)
  simp only [List.mem_cons, List.not_mem_nil, or_false] at hb
  rcases hb with rfl | rfl <;> omega

theorem inject_live {context : SpanContextData} {capacity : Nat} {rendered : Str}
    {render : SpanContextData → Except Fail Str} (hvalid : context.isValid = true)
    (hrender : render context = .ok rendered) (hcapacity : rendered.len ≤ capacity) :
    inject (.live context) false capacity false render =
      ⟨.ok, none, some rendered.len, some (Utf8.encode rendered)⟩ := by
  simp [inject, hvalid, hrender, Nat.not_lt.mpr hcapacity]

end OtelC.Trace
