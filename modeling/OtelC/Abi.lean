import OtelC.Lib.Checked
import OtelC.Lib.Text
import OtelC.Lib.Utf8

/-!
# The C boundary

What every entry point of the library shares: the status codes, a failure with the message it
leaves in the last-error slot, the `(pointer, length)` pairs callers hand over, handles, and output
pointers.  A panic inside an entry point is caught by its guard and becomes a failure too, so an
index out of range is a value of the model (`panicked`) rather than something it cannot express.

* `asStr_ok_iff`: a string view is accepted exactly when it spells a text.
* `out_of_status_ne_ok`: a failed call never leaves a handle behind.
-/

namespace OtelC

/-! ### Statuses and failures -/

inductive OtelStatus where
  | ok
  | invalidArgument
  | invalidUtf8
  | invalidConfig
  | alreadyShutdown
  | timeout
  | exportFailed
  | internalError
  deriving DecidableEq, Repr

/-- The status of a failed call. -/
class OtelStatus.Failure (status : OtelStatus) : Prop where
  ne_ok : status ≠ .ok

instance : OtelStatus.invalidArgument.Failure := ⟨by decide⟩
instance : OtelStatus.invalidUtf8.Failure := ⟨by decide⟩
instance : OtelStatus.invalidConfig.Failure := ⟨by decide⟩
instance : OtelStatus.alreadyShutdown.Failure := ⟨by decide⟩
instance : OtelStatus.timeout.Failure := ⟨by decide⟩
instance : OtelStatus.exportFailed.Failure := ⟨by decide⟩
instance : OtelStatus.internalError.Failure := ⟨by decide⟩

/-- A failed call: the status it returns and the message it records. -/
structure Fail where
  status : OtelStatus
  message : String
  [failed : status.Failure]
  deriving DecidableEq

def fail {α : Type} (status : OtelStatus) (message : String) [status.Failure] : Except Fail α :=
  .error ⟨status, message⟩

/-- What `guard_status` makes of a panic. -/
def panicked : Fail := ⟨.internalError, "caught panic at FFI boundary"⟩

/-- `xs[i]`, which panics past the end. -/
def index {α : Type} (xs : List α) (i : Nat) : Except Fail α :=
  match xs[i]? with
  | some x => .ok x
  | none => .error panicked

/-- `&xs[start..end]`, which panics unless `start ≤ end ≤ len`. -/
def slice {α : Type} (xs : List α) (start stop : Nat) : Except Fail (List α) :=
  if start ≤ stop ∧ stop ≤ xs.length then .ok ((xs.take stop).drop start) else .error panicked

theorem index_of_lt {α : Type} {xs : List α} {i : Nat} (h : i < xs.length) :
    index xs i = .ok xs[i] := by
  simp [index, h]

theorem slice_of_le {α : Type} {xs : List α} {start stop : Nat} (h : start ≤ stop)
    (hstop : stop ≤ xs.length) : slice xs start stop = .ok ((xs.take stop).drop start) := by
  simp [slice, h, hstop]

/-! ### Texts -/

/-- A Rust string. -/
abbrev Str := List Char

/-- `str::len`: the number of UTF-8 bytes. -/
def Str.len (s : Str) : Nat := (Utf8.encode s).length

/-- A Rust string literal. -/
def lit (s : String) : Str := s.toList

@[simp] theorem Str.len_nil : Str.len [] = 0 := rfl

@[simp] theorem Str.len_append (s t : Str) : Str.len (s ++ t) = Str.len s + Str.len t := by
  simp [Str.len]

theorem Str.len_eq_zero {s : Str} : Str.len s = 0 ↔ s = [] := by
  rw [Str.len, List.length_eq_zero_iff, Utf8.encode_eq_nil]

/-! ### Slices handed over by the caller -/

/-- A `(pointer, length)` pair: NULL with the length claimed for it, or readable elements. -/
inductive CSlice (α : Type) where
  | null (len : Nat)
  | elems (xs : List α)
  deriving DecidableEq, Repr

def CSlice.len {α : Type} : CSlice α → Nat
  | .null n => n
  | .elems xs => xs.length

def CSlice.isNull {α : Type} : CSlice α → Bool
  | .null _ => true
  | .elems _ => false

/-- The elements behind the pointer. -/
def CSlice.read {α : Type} : CSlice α → List α
  | .null _ => []
  | .elems xs => xs

theorem CSlice.read_eq_nil {α : Type} {slice : CSlice α} (h : slice.len = 0) : slice.read = [] := by
  cases slice with
  | null n => rfl
  | elems xs => exact List.length_eq_zero_iff.mp h

abbrev OtelStringView := CSlice UInt8

/-- `isize::MAX` on a 64-bit target. -/
def isizeMax : Nat := 2 ^ 63 - 1

/-- `OtelStringView::as_bytes`. -/
def asBytes (view : OtelStringView) : Except Fail (List UInt8) :=
  if view.len = 0 then .ok []
  else if view.isNull then
    fail .invalidArgument "string view has NULL ptr with non-zero len"
  else if view.len > isizeMax then
    fail .invalidArgument "string view len exceeds the maximum supported size"
  else .ok view.read

/-- `OtelStringView::as_str`, and `to_string_strict` when allocation succeeds. -/
def asStr (view : OtelStringView) : Except Fail Str := do
  let bytes ← asBytes view
  match Utf8.fromUtf8 bytes with
  | some s => .ok s
  | none => fail .invalidUtf8 "string view is not valid UTF-8"

/-- The view of a text. -/
def viewOf (s : Str) : OtelStringView := .elems (Utf8.encode s)

theorem asBytes_ok_iff {view : OtelStringView} {bytes : List UInt8} :
    asBytes view = .ok bytes ↔
      view.len = bytes.length ∧ view.read = bytes ∧ bytes.length ≤ isizeMax := by
  rw [asBytes]
  by_cases h0 : view.len = 0
  · rw [if_pos h0, CSlice.read_eq_nil h0, h0, Except.ok.injEq]
    constructor
    · rintro rfl
      simp
    · rintro ⟨-, h, -⟩
      exact h
  · rw [if_neg h0]
    cases view with
    | null n =>
      simp only [CSlice.isNull, CSlice.read, if_true, fail, reduceCtorEq, false_iff, not_and]
      rintro hlen rfl
      exact absurd hlen h0
    | elems xs =>
      simp only [CSlice.isNull, Bool.false_eq_true, if_false, fail, Checked.guard_eq_ok,
        CSlice.read, Except.ok.injEq]
      constructor
      · rintro ⟨hmax, rfl⟩
        exact ⟨rfl, rfl, Nat.le_of_not_gt hmax⟩
      · rintro ⟨-, rfl, hmax⟩
        exact ⟨Nat.not_lt.mpr hmax, rfl⟩

/-- A view is accepted with a text just when it spells that text within `isize::MAX` bytes. -/
theorem asStr_ok_iff {view : OtelStringView} {s : Str} :
    asStr view = .ok s ↔ view.len = s.len ∧ view.read = Utf8.encode s ∧ s.len ≤ isizeMax := by
  rw [asStr, Checked.bind_eq_ok]
  constructor
  · rintro ⟨bytes, hbytes, h⟩
    obtain ⟨hlen, hread, hmax⟩ := asBytes_ok_iff.mp hbytes
    split at h
    · rename_i t ht
      obtain rfl := Except.ok.inj h
      have := Utf8.fromUtf8_eq_some.mp ht
      subst this
      exact ⟨hlen, hread, hmax⟩
    · simp [fail] at h
  · rintro ⟨hlen, hread, hmax⟩
    refine ⟨Utf8.encode s, asBytes_ok_iff.mpr ⟨hlen, hread, hmax⟩, ?_⟩
    rw [Utf8.fromUtf8_encode]

theorem asStr_viewOf {s : Str} (h : s.len ≤ isizeMax) : asStr (viewOf s) = .ok s :=
  asStr_ok_iff.mpr ⟨rfl, rfl, h⟩

/-! ### Handles -/

/-- What stands behind a handle pointer when its header is read. -/
inductive HandleArg (α : Type) where
  | null
  | dead
  | wrongKind
  | live (x : α)

/-- What a pointer is, where handles have something under them and `select` takes what is asked
for. -/
def HandleArg.lookup {α β : Type} (found : Nat → Option α) (select : α → Option β) :
    Option Nat → HandleArg β
  | none => .null
  | some h =>
    match found h with
    | none => .dead
    | some x =>
      match select x with
      | some y => .live y
      | none => .wrongKind

/-- `checked_ref` and `checked_mut`; their callers return `InvalidArgument`. -/
def checkedRef {α : Type} : HandleArg α → Except Fail α
  | .null => fail .invalidArgument "null handle passed to OpenTelemetry C API"
  | .dead =>
    fail .invalidArgument "handle failed validation: not a live OpenTelemetry C handle"
  | .wrongKind =>
    fail .invalidArgument "handle failed validation: wrong OpenTelemetry C handle type"
  | .live x => .ok x

@[simp] theorem checkedRef_live {α : Type} (x : α) : checkedRef (.live x) = .ok x := rfl

theorem live_of_checkedRef {α : Type} {arg : HandleArg α} {x : α} (h : checkedRef arg = .ok x) :
    arg = .live x := by
  cases arg with
  | live y => rw [Except.ok.inj h]
  | _ => cases h

/-! ### Output pointers -/

/-- What a call leaves behind that returns a status and a new object through `out`: `out` is
`none` when `*out` was not written and `some none` when NULL was written to it. -/
structure OutCall (α : Type) where
  status : OtelStatus
  message : Option String
  out : Option (Option α)

/-- The protocol of every such entry point: a NULL `out` is refused, then `*out` is cleared, and
only success writes to it again. -/
def withOut {α : Type} (outIsNull : Bool) (nullMessage : String) (body : Except Fail α) :
    OutCall α :=
  if outIsNull then ⟨.invalidArgument, some nullMessage, none⟩
  else match body with
    | .error e => ⟨e.status, some e.message, some none⟩
    | .ok x => ⟨.ok, none, some (some x)⟩

theorem out_of_status_ne_ok {α : Type} {nullMessage : String} {body : Except Fail α}
    (h : (withOut false nullMessage body).status ≠ .ok) :
    (withOut false nullMessage body).out = some none := by
  cases body with
  | error e => rfl
  | ok x => exact absurd rfl h

theorem withOut_ok {α : Type} (nullMessage : String) (x : α) :
    withOut false nullMessage (.ok x) = ⟨.ok, none, some (some x)⟩ := rfl

theorem withOut_error {α : Type} (nullMessage : String) (e : Fail) :
    withOut (α := α) false nullMessage (.error e) = ⟨e.status, some e.message, some none⟩ := rfl

theorem withOut_out {α : Type} {outIsNull : Bool} {message : String} {body : Except Fail α} {x : α}
    (h : (withOut outIsNull message body).out = some (some x)) : body = .ok x := by
  unfold withOut at h
  split at h
  · simp at h
  · split at h
    · simp at h
    · simpa using h

/-- What a call that fills a caller's buffer leaves behind: the length written to `*out_len` and the
bytes written to the buffer, each `none` when nothing was written there. -/
structure InjectCall where
  status : OtelStatus
  message : Option String
  outLen : Option Nat
  written : Option (List UInt8)
  deriving DecidableEq, Repr

/-- A nullable function pointer, as the word that it is stored in. -/
def fnPointer (word : UInt64) : Option UInt64 := if word = 0 then none else some word

/-- `opentelemetry_sdk::metrics::Temporality`. -/
inductive Temporality where
  | cumulative
  | delta
  | lowMemory
  deriving DecidableEq

/-! ### Fixed arrays -/

/-- `[u8; n]`. -/
abbrev Bytes (n : Nat) := {l : List UInt8 // l.length = n}

/-- An array of one byte. -/
def Bytes.replicate (n : Nat) (b : UInt8) : Bytes n := ⟨List.replicate n b, List.length_replicate⟩

def Bytes.zero (n : Nat) : Bytes n := Bytes.replicate n 0

end OtelC
