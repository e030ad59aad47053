import OtelC.Abi
import OtelC.Lib.Fields

/-!
# Callback tables of custom exporters

An application hands over a table of callbacks with the size it was compiled with.  The SDK reads the
leading size, then the required export callback, and of the others those that lie below the size.

* `new_offsets`: what is read of a table.
* `new_called`: no callback of it is called.
* `new_ok`: every callback of an exporter lies below the size its table gave.
-/

namespace OtelC.Sdk.Custom

open Fields (Memory u64At)

/-! ### Results of callbacks -/

/-- `OtelStatus` is a 32-bit number, and a callback may return any. -/
def statusCode : OtelStatus → UInt32
  | .ok => 0
  | .invalidArgument => 1
  | .invalidUtf8 => 2
  | .invalidConfig => 3
  | .alreadyShutdown => 4
  | .timeout => 5
  | .exportFailed => 6
  | .internalError => 7

/-- What a callback does in the end. -/
inductive Outcome where
  | returned (status : UInt32)
  | panicked

/-- `OTelSdkError`, with a timeout in nanoseconds. -/
inductive OTelSdkError where
  | alreadyShutdown
  | timeout (nanos : Nat)
  | internalFailure (message : String)
  deriving DecidableEq

abbrev OTelSdkResult := Except OTelSdkError Unit

/-- `callback_result`.  The Logs and Traces exporters take a status other than these for one that no
callback may return; the Metrics exporter does not. -/
def callbackResult (signal : String) (strict : Bool) (operation : String) (timeout : Nat) :
    Outcome → OTelSdkResult
  | .panicked =>
    .error (.internalFailure s!"custom {signal} exporter {operation} callback panicked")
  | .returned status =>
    if status = statusCode .ok then .ok ()
    else if status = statusCode .alreadyShutdown then .error .alreadyShutdown
    else if status = statusCode .timeout then .error (.timeout timeout)
    else if strict = false ∨ status = statusCode .exportFailed ∨
        status = statusCode .internalError then
      .error (.internalFailure
        s!"custom {signal} exporter {operation} callback failed with status {status}")
    else
      .error (.internalFailure
        s!"custom {signal} exporter {operation} callback returned status {status}, which is not a valid result for this callback")

/-! ### Reading a table -/

/-- What is done with memory of the application: the result, the offsets of the words read, and the
functions of the application that were called. -/
structure Read (α : Type) where
  value : α
  offsets : List Nat
  called : List UInt64

instance : Monad Read where
  pure x := ⟨x, [], []⟩
  bind r f := ⟨(f r.value).value, r.offsets ++ (f r.value).offsets,
    r.called ++ (f r.value).called⟩

@[simp] theorem Read.value_pure {α : Type} (x : α) : (pure x : Read α).value = x := rfl

@[simp] theorem Read.offsets_pure {α : Type} (x : α) : (pure x : Read α).offsets = [] := rfl

@[simp] theorem Read.value_bind {α β : Type} (r : Read α) (f : α → Read β) :
    (r >>= f).value = (f r.value).value := rfl

@[simp] theorem Read.offsets_bind {α β : Type} (r : Read α) (f : α → Read β) :
    (r >>= f).offsets = r.offsets ++ (f r.value).offsets := rfl

@[simp] theorem Read.called_pure {α : Type} (x : α) : (pure x : Read α).called = [] := rfl

@[simp] theorem Read.called_bind {α β : Type} (r : Read α) (f : α → Read β) :
    (r >>= f).called = r.called ++ (f r.value).called := rfl

def readUnaligned (memory : Memory) (offset : Nat) : Read UInt64 :=
  ⟨u64At memory offset, [offset], []⟩

@[simp] theorem value_readUnaligned (memory : Memory) (offset : Nat) :
    (readUnaligned memory offset).value = u64At memory offset := rfl

@[simp] theorem offsets_readUnaligned (memory : Memory) (offset : Nat) :
    (readUnaligned memory offset).offsets = [offset] := rfl

/-- A callback table.  The table of the Logs exporter has no force-flush member. -/
structure Callbacks where
  structSize : Nat
  exportBatch : Option UInt64
  forceFlush : Option UInt64
  shutdown : Option UInt64
  stateDestroy : Option UInt64
  deriving DecidableEq

/-- The offsets of the optional members. -/
structure Layout where
  forceFlush : Option Nat
  shutdown : Nat
  stateDestroy : Nat

def wordSize : Nat := 8

/-- The required callback follows the `struct_size` of every table. -/
def exportOffset : Nat := 8

def requiredPrefixSize : Nat := exportOffset + wordSize

/-- `member`, and the read of what it covers. -/
def readMember (memory : Memory) (structSize offset : Nat) : Read (Option UInt64) :=
  if offset + wordSize ≤ structSize then do
    let word ← readUnaligned memory offset
    pure (fnPointer word)
  else pure none

/-- The force-flush member of the tables that have one. -/
def readForceFlush (memory : Memory) (structSize : Nat) : Option Nat → Read (Option UInt64)
  | some offset => readMember memory structSize offset
  | none => pure none

/-- `read_callbacks`. -/
def readCallbacks (layout : Layout) (memory : Memory) (structSize : Nat) : Read Callbacks := do
  let exportBatch ← readUnaligned memory exportOffset
  let forceFlush ← readForceFlush memory structSize layout.forceFlush
  let shutdown ← readMember memory structSize layout.shutdown
  let stateDestroy ← readMember memory structSize layout.stateDestroy
  pure ⟨structSize, fnPointer exportBatch, forceFlush, shutdown, stateDestroy⟩

/-- What `otel_custom_…_exporter_new` is given: `callbacks` is `none` when it is NULL. -/
structure NewArgs where
  callbacks : Option Memory
  temporality : UInt32
  outNull : Bool

/-- `configured_temporality`; the preference that is not set is the cumulative one. -/
def configuredTemporality (value : UInt32) : Option Temporality :=
  match value.toNat with
  | 0 | 1 => some .cumulative
  | 2 => some .delta
  | 3 => some .lowMemory
  | _ => none

/-- `otel_custom_…_exporter_new` up to the exporter; only the Metrics exporter has a temporality. -/
def otelCustomExporterNew (signal : String) (layout : Layout) (hasTemporality : Bool)
    (args : NewArgs) : Read (Except Fail Callbacks) :=
  if args.outNull then pure (fail .invalidArgument "out pointer must not be NULL")
  else
    match args.callbacks with
    | none => pure (fail .invalidArgument s!"custom {signal} exporter callbacks must not be NULL")
    | some memory => do
      let structSize ← readUnaligned memory 0
      if structSize.toNat < requiredPrefixSize then
        pure (fail .invalidConfig
          s!"custom {signal} exporter callback structure is smaller than the required ABI size")
      else
        let callbacks ← readCallbacks layout memory structSize.toNat
        if callbacks.exportBatch = none then
          pure (fail .invalidConfig s!"custom {signal} exporter requires an export callback")
        else if hasTemporality && (configuredTemporality args.temporality).isNone then
          pure (fail .invalidConfig s!"unknown custom {signal} exporter temporality")
        else pure (.ok callbacks)

/-! ### What is read -/

theorem offsets_readMember {memory : Memory} {structSize offset o : Nat}
    (h : o ∈ (readMember memory structSize offset).offsets) : o + wordSize ≤ structSize := by
  rw [readMember] at h
  split at h
  · rename_i hcovered
    simp only [Read.offsets_bind, Read.offsets_pure, List.append_nil, offsets_readUnaligned,
      List.mem_singleton] at h
    exact h ▸ hcovered
  · cases h

theorem value_readMember_of_covered {memory : Memory} {structSize offset : Nat}
    (h : offset + wordSize ≤ structSize) :
    (readMember memory structSize offset).value = fnPointer (u64At memory offset) := by
  rw [readMember, if_pos h, Read.value_bind, Read.value_pure, value_readUnaligned]

/-- A member that is there lies below the size. -/
theorem value_readMember {memory : Memory} {structSize offset : Nat} {p : UInt64}
    (h : (readMember memory structSize offset).value = some p) :
    offset + wordSize ≤ structSize ∧ fnPointer (u64At memory offset) = some p := by
  by_cases hcovered : offset + wordSize ≤ structSize
  · rw [value_readMember_of_covered hcovered] at h
    exact ⟨hcovered, h⟩
  · rw [readMember, if_neg hcovered] at h
    cases h

@[simp] theorem called_readMember (memory : Memory) (structSize offset : Nat) :
    (readMember memory structSize offset).called = [] := by
  rw [readMember]
  split
  · rfl
  · rfl

@[simp] theorem called_readForceFlush (memory : Memory) (structSize : Nat) (offset : Option Nat) :
    (readForceFlush memory structSize offset).called = [] := by
  cases offset with
  | none => rfl
  | some offset => exact called_readMember memory structSize offset

@[simp] theorem called_readCallbacks (layout : Layout) (memory : Memory) (structSize : Nat) :
    (readCallbacks layout memory structSize).called = [] := by
  simp only [readCallbacks, Read.called_bind, Read.called_pure, called_readMember,
    called_readForceFlush, readUnaligned, List.append_nil]

theorem offsets_readForceFlush {memory : Memory} {structSize o : Nat} {offset : Option Nat}
    (h : o ∈ (readForceFlush memory structSize offset).offsets) : o + wordSize ≤ structSize := by
  cases offset with
  | none => cases h
  | some offset => exact offsets_readMember h

theorem value_readForceFlush {memory : Memory} {structSize : Nat} {offset : Option Nat} {p : UInt64}
    (h : (readForceFlush memory structSize offset).value = some p) :
    ∃ o, offset = some o ∧ o + wordSize ≤ structSize ∧ fnPointer (u64At memory o) = some p := by
  cases offset with
  | none => cases h
  | some offset => exact ⟨offset, rfl, value_readMember h⟩

theorem offsets_readCallbacks {layout : Layout} {memory : Memory} {structSize o : Nat}
    (hsize : requiredPrefixSize ≤ structSize)
    (h : o ∈ (readCallbacks layout memory structSize).offsets) : o + wordSize ≤ structSize := by
  simp only [readCallbacks, Read.offsets_bind, Read.offsets_pure, List.append_nil,
    List.mem_append, offsets_readUnaligned, List.mem_singleton] at h
  rcases h with rfl | hflush | hshutdown | hdestroy
  · exact hsize
  · exact offsets_readForceFlush hflush
  · exact offsets_readMember hshutdown
  · exact offsets_readMember hdestroy

theorem value_readCallbacks (layout : Layout) (memory : Memory) (structSize : Nat) :
    (readCallbacks layout memory structSize).value =
      ⟨structSize, fnPointer (u64At memory exportOffset),
        (readForceFlush memory structSize layout.forceFlush).value,
        (readMember memory structSize layout.shutdown).value,
        (readMember memory structSize layout.stateDestroy).value⟩ := by
  simp only [readCallbacks, Read.value_bind, Read.value_pure, value_readUnaligned]

/-- The callbacks of a table: each of them is a word of it that lies below its size. -/
structure Covered (layout : Layout) (memory : Memory) (callbacks : Callbacks) : Prop where
  structSize : callbacks.structSize = (u64At memory 0).toNat
  required : requiredPrefixSize ≤ callbacks.structSize
  exportBatch : callbacks.exportBatch = fnPointer (u64At memory exportOffset)
  forceFlush : ∀ p, callbacks.forceFlush = some p → ∃ offset, layout.forceFlush = some offset ∧
    offset + wordSize ≤ callbacks.structSize ∧ fnPointer (u64At memory offset) = some p
  shutdown : ∀ p, callbacks.shutdown = some p →
    layout.shutdown + wordSize ≤ callbacks.structSize ∧
      fnPointer (u64At memory layout.shutdown) = some p
  stateDestroy : ∀ p, callbacks.stateDestroy = some p →
    layout.stateDestroy + wordSize ≤ callbacks.structSize ∧
      fnPointer (u64At memory layout.stateDestroy) = some p
  /-- A member that lies below the size is taken over. -/
  stateDestroy_eq : layout.stateDestroy + wordSize ≤ callbacks.structSize →
    callbacks.stateDestroy = fnPointer (u64At memory layout.stateDestroy)

theorem covered_readCallbacks {layout : Layout} {memory : Memory} {structSize : Nat}
    (hword : structSize = (u64At memory 0).toNat) (hsize : requiredPrefixSize ≤ structSize) :
    Covered layout memory (readCallbacks layout memory structSize).value := by
  rw [value_readCallbacks]
  exact {
    structSize := hword
    required := hsize
    exportBatch := by dsimp only
    forceFlush := fun _ hp => value_readForceFlush hp
    shutdown := fun _ hp => value_readMember hp
    stateDestroy := fun _ hp => value_readMember hp
    stateDestroy_eq := fun hcovered => value_readMember_of_covered hcovered }

variable {signal : String} {layout : Layout} {hasTemporality : Bool} {args : NewArgs}

/-- **Of a table only its size is read, and what lies below it.** -/
theorem new_offsets {memory : Memory} (hcallbacks : args.callbacks = some memory) {o : Nat}
    (h : o ∈ (otelCustomExporterNew signal layout hasTemporality args).offsets) :
    o = 0 ∨ o + wordSize ≤ (u64At memory 0).toNat := by
  rw [otelCustomExporterNew, hcallbacks] at h
  split at h
  · cases h
  · simp only [Read.offsets_bind, List.mem_append] at h
    rcases h with hsize | h
    · exact .inl (List.mem_singleton.mp hsize)
    · split at h
      · cases h
      · rename_i hsize
        rw [Read.offsets_bind, List.mem_append] at h
        rcases h with hread | hrest
        · exact .inr (offsets_readCallbacks (Nat.le_of_not_lt hsize) hread)
        · split at hrest
          · cases hrest
          · split at hrest
            · cases hrest
            · cases hrest

/-- **A construction calls nothing**, whether it fails or not. -/
theorem new_called : (otelCustomExporterNew signal layout hasTemporality args).called = [] := by
  rw [otelCustomExporterNew]
  split
  · rfl
  · split
    · rfl
    · rw [Read.called_bind]
      split
      · rfl
      · rw [Read.called_bind, called_readCallbacks]
        split
        · rfl
        · split
          · rfl
          · rfl

/-- What an exporter takes over from its table. -/
theorem new_ok {callbacks : Callbacks}
    (h : (otelCustomExporterNew signal layout hasTemporality args).value = .ok callbacks) :
    ∃ memory, args.callbacks = some memory ∧ Covered layout memory callbacks ∧
      callbacks.exportBatch ≠ none := by
  rw [otelCustomExporterNew] at h
  split at h
  · cases h
  · split at h
    · cases h
    · rename_i memory hmemory
      rw [Read.value_bind] at h
      split at h
      · cases h
      · rename_i hsize
        rw [Read.value_bind] at h
        split at h
        · cases h
        · rename_i hexport
          split at h
          · cases h
          · obtain rfl := Except.ok.inj h
            exact ⟨memory, hmemory, covered_readCallbacks rfl (Nat.le_of_not_lt hsize), hexport⟩

end OtelC.Sdk.Custom
