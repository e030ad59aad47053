import OtelC.Lib.Scan
import OtelC.Trace.Parenting

/-!
# The options of a span in the caller's memory

`otel_tracer_start_span_ex` is handed a pointer to a struct that may be shorter or longer than the one
it was compiled with.  It reads the leading size, then the fields every struct has, and of the fields
at the end the pairs that the size covers whole.

* `footprint_startSpanEx`: beyond the size itself nothing is read that the size does not cover.
* `startSpanExAt_eq`: with every extension there it is the entry that takes the options as a record.
* `start_options_read_as_declared`: what lies behind the declared size has no say in the outcome, and
  pairs that are zero say what absent ones do.
-/

namespace OtelC.Trace

open OtelC.Context (ContextData)
open OtelC.Sdk (OtelKeyValue)
open Fields

/-! ### The entry over memory -/

/-- What stands at an address: so many elements as are asked for. -/
def ElementsBehind (α : Type) := UInt64 → (n : Nat) → {xs : List α // xs.length = n}

/-- What a handle pointer that is not NULL leads to. -/
def HandleBehind (α : Type) := UInt64 → {arg : HandleArg α // argIsNull arg = false}

/-- The extensions of a tracer's vtable that the entry asks for. -/
structure TracerVtable where
  hasSpanStartEx : Bool
  hasContext : Bool

/-- What surrounds the call: what the pointers lead to, whether a vector of so many links can be
allocated, and the thread's current context. -/
structure Surroundings (TraceState : Type) where
  parent : HandleBehind (LocalParent TraceState)
  parentContext : HandleBehind SpanContextData
  attributes : ElementsBehind OtelKeyValue
  links : ElementsBehind OtelSpanLink
  reserves : Nat → Bool
  current : Option ContextData

def HandleBehind.arg {α : Type} (handle : HandleBehind α) (pointer : UInt64) : HandleArg α :=
  if pointer = 0 then .null else (handle pointer).1

/-- A pointer with the count behind it. -/
def ElementsBehind.slice {α : Type} (elements : ElementsBehind α) (pointer count : UInt64) :
    CSlice α :=
  if pointer = 0 then .null count.toNat else .elems (elements pointer count.toNat).1

/-- The fields that every struct has after its size. -/
structure StartHead where
  kind : UInt32
  reserved : UInt32
  parent : UInt64
  parentContext : UInt64
  startTimeUnixNanos : UInt64

/-- The fields that have been read, with the defaults of those that the size does not cover. -/
structure StartFields extends StartHead where
  attributes : UInt64 × UInt64
  links : UInt64 × UInt64
  parentMode : UInt32
  reserved2 : UInt32

def readHead : Scan StartHead := do
  let kind ← Scan.u32 8
  let reserved ← Scan.u32 12
  let parent ← Scan.u64 16
  let parentContext ← Scan.u64 24
  let startTimeUnixNanos ← Scan.u64 32
  pure ⟨kind, reserved, parent, parentContext, startTimeUnixNanos⟩

/-- A pointer and the count behind it. -/
def readArray (offset : Nat) : Scan (UInt64 × UInt64) := do
  let pointer ← Scan.u64 offset
  let count ← Scan.u64 (offset + 8)
  pure (pointer, count)

/-- `parent_mode` and `reserved2`. -/
def readMode (offset : Nat) : Scan (UInt32 × UInt32) := do
  let parentMode ← Scan.u32 offset
  let reserved2 ← Scan.u32 (offset + 4)
  pure (parentMode, reserved2)

/-- The fields at the end, as far as the size covers them. -/
def readTail (structSize : Nat) (head : StartHead) : Scan StartFields := do
  let attributes ← Scan.covered structSize startOptionsExLinksOffset (readArray 40) (0, 0)
  let links ← Scan.covered structSize startOptionsExV1Size (readArray 56) (0, 0)
  let mode ← Scan.covered structSize startOptionsExSize (readMode 72) (parentExplicit, 0)
  pure { head with attributes, links, parentMode := mode.1, reserved2 := mode.2 }

/-- The refusals between the head and the tail. -/
def checkHead (head : StartHead) : Except Fail Unit :=
  if head.reserved ≠ 0 then
    fail .invalidArgument "reserved field in span-start options must be zero"
  else if head.parent ≠ 0 ∧ head.parentContext ≠ 0 then
    fail .invalidArgument "parent span handle and parent span context are mutually exclusive"
  else .ok ()

/-- The reads of `otel_tracer_start_span_ex`. -/
def readStartFields : Scan (Except Fail StartFields) := do
  let structSize ← Scan.u64 0
  if structSize.toNat < startOptionsExRequiredSize then
    pure (fail .invalidConfig "options struct_size is smaller than the required minimum")
  else
    let head ← readHead
    match checkHead head with
    | .error e => pure (.error e)
    | .ok () =>
      let fields ← readTail structSize.toNat head
      pure (.ok fields)

/-- What the entry comes to before an implementation has its say: the shared no-op span, a call of
the vtable with or without the ambient context, or NULL. -/
inductive StartOutcome (TraceState : Type) where
  | noopSpan
  | handed (name : OtelStringView) (config : OtelSpanStartConfig TraceState)
      (ambient : Option OtelContextView)
  | refused (e : Fail)

def StartOutcome.ofExcept {TraceState : Type} :
    Except Fail (StartOutcome TraceState) → StartOutcome TraceState
  | .ok outcome => outcome
  | .error e => .refused e

/-- The checks on the fields after they have been read. -/
def checkStartFields (fields : StartFields) : Except Fail Unit :=
  if fields.reserved2 ≠ 0 ∨ fields.parentMode > parentRoot then
    fail .invalidArgument "parent mode or its reserved field is invalid"
  else if fields.parentMode ≠ parentExplicit ∧ (fields.parent ≠ 0 ∨ fields.parentContext ≠ 0) then
    fail .invalidArgument "ambient/root parent mode cannot include an explicit parent"
  else if fields.attributes.1 = 0 ∧ fields.attributes.2 ≠ 0 then
    fail .invalidArgument "attribute array is NULL with a non-zero count"
  else if fields.links.1 = 0 ∧ fields.links.2 ≠ 0 then
    fail .invalidArgument "link array is NULL with a non-zero count"
  else if fields.links.2.toNat > spanStartMaxLinks then
    fail .invalidArgument "link count exceeds the maximum supported value"
  else .ok ()

section Entry

variable {TraceState : Type} (surroundings : Surroundings TraceState)

/-- The single parenting source. -/
def resolveParentPointers (fields : StartFields) :
    Except Fail (Option (SdkSpanContext TraceState) × Option OtelSpanContextView) :=
  if fields.parent ≠ 0 then do
    let parent ← checkedRef (surroundings.parent.arg fields.parent)
    .ok (if parent.sameVtable then some parent.context else none, none)
  else if fields.parentContext ≠ 0 then do
    let parent ← checkedRef (surroundings.parentContext.arg fields.parentContext)
    if parent.isValid then .ok (none, some parent.view)
    else fail .invalidArgument "parent span context is invalid"
  else .ok (none, none)

/-- The borrowed link views. -/
def buildLinkViews (links : UInt64 × UInt64) : Except Fail (List OtelSpanLinkView) :=
  if links.2 ≠ 0 then
    if surroundings.reserves links.2.toNat then
      (surroundings.links.slice links.1 links.2).read.mapM linkView
    else fail .internalError "failed to allocate space for span links"
  else .ok []

/-- The part of the entry for a tracer with a vtable. -/
def startWithVtable (vtable : TracerVtable) (name : OtelStringView) (fields : StartFields) :
    Except Fail (StartOutcome TraceState) :=
  if !vtable.hasSpanStartEx then
    fail .invalidConfig "installed trace implementation does not support extended span start"
  else do
    let parent ← resolveParentPointers surroundings fields
    let views ← buildLinkViews surroundings fields.links
    let config : OtelSpanStartConfig TraceState :=
      { kind := fields.kind
        reserved := 0
        parentSpanCtx := parent.1
        parentContext := parent.2
        startTimeUnixNanos := fields.startTimeUnixNanos
        attributes := surroundings.attributes.slice fields.attributes.1 fields.attributes.2
        links := viewsOf views }
    if fields.parentMode = parentAmbient then
      if !vtable.hasContext then
        fail .invalidConfig "installed trace implementation does not support ambient context"
      else .ok (.handed name config (some (ambientView surroundings.current)))
    else .ok (.handed name config none)

/-- What is done with the fields that have been read. -/
def startWithFields (vtable : Option TracerVtable) (name : OtelStringView) (fields : StartFields) :
    Except Fail (StartOutcome TraceState) := do
  checkStartFields fields
  match vtable with
  | none => .ok .noopSpan
  | some vtable => startWithVtable surroundings vtable name fields

/-- `otel_tracer_start_span_ex` on the memory behind `options`; `optionsIsNull` when there is none. A
tracer is its vtable, or NULL. -/
def otelTracerStartSpanExAt (tracer : HandleArg (Option TracerVtable)) (name : OtelStringView)
    (optionsIsNull : Bool) : Scan (StartOutcome TraceState) :=
  match checkedRef tracer with
  | .error e => pure (.refused e)
  | .ok vtable =>
    if optionsIsNull then pure (.refused ⟨.invalidArgument, "options must not be NULL"⟩)
    else do
      let fields ← readStartFields
      pure (.ofExcept (fields.bind (startWithFields surroundings vtable name)))

end Entry

/-! ### What is read -/

/-- `struct_size`, as it stands in the memory. -/
def sizeAt (memory : Memory) : Nat := (u64At memory 0).toNat

/-- The field of `struct_size`: its offset and its width. -/
def structSizeField : Nat × Nat := (0, 8)

theorem mem_footprint_readArray {memory : Memory} {offset : Nat} {field : Nat × Nat}
    (h : field ∈ (readArray offset).footprint memory) :
    field.1 + field.2 ≤ offset + 16 := by
  simp only [readArray, Scan.footprint_bind, Scan.footprint_u64, Scan.footprint_pure,
    List.append_nil, List.singleton_append, List.mem_cons, List.not_mem_nil, or_false] at h
  obtain rfl | rfl := h
  · show offset + 8 ≤ offset + 16
    omega
  · exact le_rfl

theorem mem_footprint_readMode {memory : Memory} {offset : Nat} {field : Nat × Nat}
    (h : field ∈ (readMode offset).footprint memory) :
    field.1 + field.2 ≤ offset + 8 := by
  simp only [readMode, Scan.footprint_bind, Scan.footprint_u32, Scan.footprint_pure,
    List.append_nil, List.singleton_append, List.mem_cons, List.not_mem_nil, or_false] at h
  obtain rfl | rfl := h
  · show offset + 4 ≤ offset + 8
    omega
  · exact le_rfl

/-- A pair at the end is read only where the size covers it. -/
theorem le_size_of_covered {α : Type} {memory : Memory} {size stop : Nat} {p : Scan α}
    {default : α} {field : Nat × Nat} (hp : field ∈ p.footprint memory → field.1 + field.2 ≤ stop)
    (h : field ∈ (Scan.covered size stop p default).footprint memory) :
    field.1 + field.2 ≤ size := by
  obtain ⟨hstop, hfield⟩ := Scan.mem_footprint_covered h
  exact (hp hfield).trans hstop

theorem mem_footprint_readHead {memory : Memory} {field : Nat × Nat}
    (h : field ∈ readHead.footprint memory) :
    field.1 + field.2 ≤ startOptionsExRequiredSize := by
  simp only [readHead, Scan.footprint_bind, Scan.footprint_u32, Scan.footprint_u64,
    Scan.footprint_pure, List.append_nil, List.singleton_append, List.mem_cons, List.not_mem_nil,
    or_false] at h
  obtain rfl | rfl | rfl | rfl | rfl := h
  all_goals decide

theorem mem_footprint_readTail {memory : Memory} {structSize : Nat} {head : StartHead}
    {field : Nat × Nat} (h : field ∈ (readTail structSize head).footprint memory) :
    field.1 + field.2 ≤ structSize := by
  simp only [readTail, Scan.footprint_bind, Scan.footprint_pure, List.append_nil,
    List.mem_append] at h
  obtain h | h | h := h
  · exact le_size_of_covered mem_footprint_readArray h
  · exact le_size_of_covered mem_footprint_readArray h
  · exact le_size_of_covered mem_footprint_readMode h

theorem mem_footprint_readStartFields {memory : Memory} {field : Nat × Nat}
    (h : field ∈ readStartFields.footprint memory) :
    field = structSizeField ∨ field.1 + field.2 ≤ sizeAt memory := by
  rw [readStartFields, Scan.footprint_bind, List.mem_append, Scan.run_u64] at h
  obtain h | h := h
  · exact .inl (by simpa [structSizeField] using h)
  right
  by_cases hsmall : (u64At memory 0).toNat < startOptionsExRequiredSize
  · rw [if_pos hsmall] at h
    cases h
  rw [if_neg hsmall, Scan.footprint_bind, List.mem_append] at h
  obtain h | h := h
  · exact (mem_footprint_readHead h).trans (Nat.le_of_not_lt hsmall)
  cases hcheck : checkHead (readHead.run memory) with
  | error e => simp [hcheck] at h
  | ok u =>
    simp only [hcheck, Scan.footprint_bind, Scan.footprint_pure, List.append_nil] at h
    exact mem_footprint_readTail h

section Outcome

variable {TraceState : Type} (surroundings : Surroundings TraceState)
  (tracer : HandleArg (Option TracerVtable)) (name : OtelStringView) (optionsIsNull : Bool)

theorem footprint_startSpanEx {memory : Memory} {field : Nat × Nat}
    (h : field ∈
      (otelTracerStartSpanExAt surroundings tracer name optionsIsNull).footprint memory) :
    field = structSizeField ∨ field.1 + field.2 ≤ sizeAt memory := by
  rw [otelTracerStartSpanExAt] at h
  cases htracer : checkedRef tracer with
  | error e => simp [htracer] at h
  | ok vtable =>
    cases optionsIsNull with
    | true => simp [htracer] at h
    | false =>
      simp only [htracer, Bool.false_eq_true, if_false, Scan.footprint_bind, Scan.footprint_pure,
        List.append_nil] at h
      exact mem_footprint_readStartFields h

end Outcome

/-! ### What the reads come to -/

/-- The head as it stands in the memory. -/
def headAt (memory : Memory) : StartHead :=
  ⟨u32At memory 8, u32At memory 12, u64At memory 16, u64At memory 24, u64At memory 32⟩

/-- A pair of the tail, or the default of a struct that does not reach its end. -/
def pairAt {α : Type} (memory : Memory) (stop : Nat) (pair default : α) : α :=
  if stop ≤ sizeAt memory then pair else default

def tailAt (memory : Memory) : StartFields :=
  { headAt memory with
    attributes := pairAt memory startOptionsExLinksOffset (u64At memory 40, u64At memory 48) (0, 0)
    links := pairAt memory startOptionsExV1Size (u64At memory 56, u64At memory 64) (0, 0)
    parentMode :=
      (pairAt memory startOptionsExSize (u32At memory 72, u32At memory 76) (parentExplicit, 0)).1
    reserved2 :=
      (pairAt memory startOptionsExSize (u32At memory 72, u32At memory 76) (parentExplicit, 0)).2 }

theorem run_readHead (memory : Memory) : readHead.run memory = headAt memory := by
  simp only [readHead, Scan.run_bind, Scan.run_u32, Scan.run_u64, Scan.run_pure]
  rfl

theorem run_readTail (memory : Memory) :
    (readTail (sizeAt memory) (headAt memory)).run memory = tailAt memory := by
  simp only [readTail, Scan.run_bind, Scan.run_pure, Scan.run_covered, readArray, readMode,
    Scan.run_u64, Scan.run_u32]
  rfl

theorem run_readStartFields (memory : Memory) : readStartFields.run memory =
    if sizeAt memory < startOptionsExRequiredSize then
      fail .invalidConfig "options struct_size is smaller than the required minimum"
    else (checkHead (headAt memory)).map fun _ => tailAt memory := by
  rw [readStartFields, Scan.run_bind, Scan.run_u64]
  by_cases hsmall : sizeAt memory < startOptionsExRequiredSize
  · rw [if_pos hsmall, if_pos (show (u64At memory 0).toNat < _ from hsmall), Scan.run_pure]
  · rw [if_neg hsmall, if_neg (show ¬(u64At memory 0).toNat < _ from hsmall), Scan.run_bind,
      run_readHead]
    cases checkHead (headAt memory) with
    | error e => rfl
    | ok u =>
      simp only [Scan.run_bind, Scan.run_pure, Except.map]
      rw [← run_readTail, sizeAt]

/-! ### The entry that takes a record -/

section Agreement

variable {TraceState : Type} (surroundings : Surroundings TraceState)

/-- The options as a record, the fields that the size does not cover included. -/
def optionsAt (memory : Memory) : OtelSpanStartOptionsEx TraceState where
  structSize := sizeAt memory
  kind := u32At memory 8
  reserved := u32At memory 12
  parent := surroundings.parent.arg (u64At memory 16)
  parentContext := surroundings.parentContext.arg (u64At memory 24)
  startTimeUnixNanos := u64At memory 32
  attributes := surroundings.attributes.slice (u64At memory 40) (u64At memory 48)
  links := surroundings.links.slice (u64At memory 56) (u64At memory 64)
  parentMode := u32At memory 72
  reserved2 := u32At memory 76

theorem optionsAt_head (memory : Memory) :
    (optionsAt surroundings memory).structSize = sizeAt memory ∧
      (optionsAt surroundings memory).reserved = (headAt memory).reserved ∧
      (optionsAt surroundings memory).parent = surroundings.parent.arg (headAt memory).parent ∧
      (optionsAt surroundings memory).parentContext =
        surroundings.parentContext.arg (headAt memory).parentContext := by
  simp only [optionsAt, headAt, and_self]

theorem argIsNull_arg {α : Type} (handle : HandleBehind α) (pointer : UInt64) :
    argIsNull (handle.arg pointer) = decide (pointer = 0) := by
  rw [HandleBehind.arg]
  by_cases h : pointer = 0
  · rw [if_pos h, decide_eq_true h]
    rfl
  · rw [if_neg h, decide_eq_false h]
    exact (handle pointer).2

theorem isNull_slice {α : Type} (elements : ElementsBehind α) (pointer count : UInt64) :
    (elements.slice pointer count).isNull = decide (pointer = 0) := by
  rw [ElementsBehind.slice]
  by_cases h : pointer = 0
  · rw [if_pos h, decide_eq_true h]
    rfl
  · rw [if_neg h, decide_eq_false h]
    rfl

theorem len_slice {α : Type} (elements : ElementsBehind α) (pointer count : UInt64) :
    (elements.slice pointer count).len = count.toNat := by
  rw [ElementsBehind.slice]
  split
  · rfl
  · exact (elements pointer count.toNat).2

theorem readAttributes_optionsAt (memory : Memory) :
    (optionsAt surroundings memory).readAttributes =
      surroundings.attributes.slice (tailAt memory).attributes.1 (tailAt memory).attributes.2 := by
  simp only [OtelSpanStartOptionsEx.readAttributes, tailAt, pairAt, optionsAt, ge_iff_le]
  split
  · rfl
  · rfl

theorem readLinks_optionsAt (memory : Memory) :
    (optionsAt surroundings memory).readLinks =
      surroundings.links.slice (tailAt memory).links.1 (tailAt memory).links.2 := by
  simp only [OtelSpanStartOptionsEx.readLinks, tailAt, pairAt, optionsAt, ge_iff_le]
  split
  · rfl
  · rfl

theorem readParentMode_optionsAt (memory : Memory) :
    (optionsAt surroundings memory).readParentMode = (tailAt memory).parentMode := by
  simp only [OtelSpanStartOptionsEx.readParentMode, tailAt, pairAt, optionsAt, ge_iff_le]
  split
  · rfl
  · rfl

theorem readReserved2_optionsAt (memory : Memory) :
    (optionsAt surroundings memory).readReserved2 = (tailAt memory).reserved2 := by
  simp only [OtelSpanStartOptionsEx.readReserved2, tailAt, pairAt, optionsAt, ge_iff_le]
  split
  · rfl
  · rfl

theorem checkStartOptions_optionsAt (memory : Memory) :
    checkStartOptions (optionsAt surroundings memory) =
      if sizeAt memory < startOptionsExRequiredSize then
        fail .invalidConfig "options struct_size is smaller than the required minimum"
      else (checkHead (headAt memory)).bind fun _ => checkStartFields (tailAt memory) := by
  have hcount : ∀ n : UInt64, n.toNat = 0 ↔ n = 0 := fun n => by
    rw [← UInt64.toNat_inj]
    rfl
  obtain ⟨hsize, hreserved, hparent, hcontext⟩ := optionsAt_head surroundings memory
  have htail : (tailAt memory).toStartHead = headAt memory := by
    rw [tailAt]
  simp only [checkStartOptions, checkHead, checkStartFields, readAttributes_optionsAt,
    readLinks_optionsAt, readParentMode_optionsAt, readReserved2_optionsAt, hsize, hreserved, hparent,
    hcontext, htail, argIsNull_arg, isNull_slice, len_slice, Bool.and_eq_true, Bool.or_eq_true,
    Bool.not_eq_true', decide_eq_true_eq, decide_eq_false_iff_not, ne_eq, hcount, fail]
  rw [Checked.guard_bind, Checked.guard_bind]
  simp only [Except.bind]

theorem explicitParent_optionsAt (memory : Memory) :
    explicitParent (optionsAt surroundings memory) =
      resolveParentPointers surroundings (tailAt memory) := by
  obtain ⟨-, -, hparent, hcontext⟩ := optionsAt_head surroundings memory
  have htail : (tailAt memory).toStartHead = headAt memory := by
    rw [tailAt]
  simp only [explicitParent, resolveParentPointers, hparent, hcontext, htail, argIsNull_arg,
    Bool.not_eq_true', decide_eq_false_iff_not, ne_eq]

theorem slice_zero {α : Type} (elements : ElementsBehind α) (pointer : UInt64) :
    (elements.slice pointer 0).read = [] := by
  rw [ElementsBehind.slice]
  split
  · rfl
  · exact List.eq_nil_of_length_eq_zero (elements pointer 0).2

theorem buildLinkViews_tailAt (hroom : ∀ n, surroundings.reserves n = true) (memory : Memory) :
    buildLinkViews surroundings (tailAt memory).links =
      (optionsAt surroundings memory).readLinks.read.mapM linkView := by
  rw [buildLinkViews, readLinks_optionsAt]
  by_cases hcount : (tailAt memory).links.2 = 0
  · rw [if_neg (not_not.mpr hcount), hcount, slice_zero]
    rfl
  · rw [if_pos hcount, if_pos (hroom _)]

/-- What an outcome comes to at the SDK. -/
def StartOutcome.call (fromStr : Str → Option TraceState) :
    StartOutcome TraceState → StartCall TraceState
  | .noopSpan => .noopSpan
  | .refused e => .refused (some e)
  | .handed name config none => .ofExcept (vtTracerStartSpanEx fromStr false name (some config))
  | .handed name config (some view) =>
    .ofExcept (vtTracerStartSpanExWithContext fromStr false name (some config) (some view))

/-- The vtable of a tracer: NULL, or that of the SDK with every extension. -/
def OtelTracer.vtable : OtelTracer → Option TracerVtable
  | .noop => none
  | .backed => some ⟨true, true⟩

theorem call_startWithVtable (fromStr : Str → Option TraceState)
    (hroom : ∀ n, surroundings.reserves n = true) (name : OtelStringView) (memory : Memory) :
    (StartOutcome.ofExcept (startWithVtable surroundings ⟨true, true⟩ name (tailAt memory))).call
        fromStr =
      .ofExcept (startSpanExBacked fromStr name (optionsAt surroundings memory)
        surroundings.current) := by
  have hkind : (optionsAt surroundings memory).kind = (tailAt memory).kind := by
    rw [optionsAt, tailAt, headAt]
  have htime : (optionsAt surroundings memory).startTimeUnixNanos =
      (tailAt memory).startTimeUnixNanos := by
    rw [optionsAt, tailAt, headAt]
  simp only [startWithVtable, startSpanExBacked, Bool.not_true, Bool.false_eq_true, if_false,
    explicitParent_optionsAt, buildLinkViews_tailAt surroundings hroom, readParentMode_optionsAt,
    readAttributes_optionsAt, hkind, htime]
  cases resolveParentPointers surroundings (tailAt memory) with
  | error e => rfl
  | ok parent =>
    cases (optionsAt surroundings memory).readLinks.read.mapM linkView with
    | error e => rfl
    | ok views =>
      simp only [Checked.ok_bind]
      split
      · rfl
      · rfl

/-- With every extension there, and no allocation failing, the entry is the one that takes the
options as a record. -/
theorem startSpanExAt_eq (fromStr : Str → Option TraceState)
    (hroom : ∀ n, surroundings.reserves n = true) (tracer : OtelTracer) (name : OtelStringView)
    (memory : Memory) :
    ((otelTracerStartSpanExAt surroundings (.live tracer.vtable) name false).run memory).call
        fromStr =
      otelTracerStartSpanEx fromStr (.live tracer) name (some (optionsAt surroundings memory))
        surroundings.current := by
  simp only [otelTracerStartSpanExAt, otelTracerStartSpanEx, checkedRef_live, Bool.false_eq_true,
    if_false, Scan.run_bind, Scan.run_pure, run_readStartFields, checkStartOptions_optionsAt]
  by_cases hsmall : sizeAt memory < startOptionsExRequiredSize
  · rw [if_pos hsmall, if_pos hsmall]
    rfl
  rw [if_neg hsmall, if_neg hsmall]
  cases checkHead (headAt memory) with
  | error e => rfl
  | ok u =>
    simp only [Except.map, Except.bind, startWithFields]
    cases checkStartFields (tailAt memory) with
    | error e => rfl
    | ok u =>
      cases tracer with
      | noop => rfl
      | backed =>
        simp only [Checked.ok_bind, OtelTracer.vtable]
        exact call_startWithVtable surroundings fromStr hroom name memory

end Agreement

/-! ### Sizes that differ -/

/-- A longer struct says what a shorter one does: the same below the shorter size, and zero in each
pair at the end that it alone covers. -/
structure Extends (shorter longer : Memory) : Prop where
  required : startOptionsExRequiredSize ≤ sizeAt shorter
  size : sizeAt shorter ≤ sizeAt longer
  same : SameAt shorter longer 8 (sizeAt shorter - 8)
  attributes : sizeAt shorter < startOptionsExLinksOffset →
    startOptionsExLinksOffset ≤ sizeAt longer → u64At longer 40 = 0 ∧ u64At longer 48 = 0
  links : sizeAt shorter < startOptionsExV1Size →
    startOptionsExV1Size ≤ sizeAt longer → u64At longer 56 = 0 ∧ u64At longer 64 = 0
  mode : sizeAt shorter < startOptionsExSize →
    startOptionsExSize ≤ sizeAt longer → u32At longer 72 = 0 ∧ u32At longer 76 = 0

theorem headAt_congr {memory memory' : Memory} (h : SameAt memory memory' 8 32) :
    headAt memory = headAt memory' := by
  rw [headAt, headAt, u32At_congr (h.mono (by omega) (by omega)),
    u32At_congr (h.mono (by omega) (by omega)), u64At_congr (h.mono (by omega) (by omega)),
    u64At_congr (h.mono (by omega) (by omega)), u64At_congr (h.mono (by omega) (by omega))]

/-- A pair that the shorter struct covers is the same, and one that it does not is its default. -/
theorem pairAt_extends {α : Type} {shorter longer : Memory} {stop : Nat} {pair pair' default : α}
    (hsize : sizeAt shorter ≤ sizeAt longer) (hsame : stop ≤ sizeAt shorter → pair = pair')
    (hzero : sizeAt shorter < stop → stop ≤ sizeAt longer → pair' = default) :
    pairAt longer stop pair' default = pairAt shorter stop pair default := by
  rw [pairAt, pairAt]
  by_cases hshorter : stop ≤ sizeAt shorter
  · rw [if_pos hshorter, if_pos (hshorter.trans hsize), hsame hshorter]
  · rw [if_neg hshorter]
    by_cases hlonger : stop ≤ sizeAt longer
    · rw [if_pos hlonger, hzero (by omega) hlonger]
    · rw [if_neg hlonger]

theorem tailAt_extends {shorter longer : Memory} (h : Extends shorter longer) :
    tailAt longer = tailAt shorter := by
  have hrequired : 40 ≤ sizeAt shorter := h.required
  have hattributes : pairAt longer startOptionsExLinksOffset (u64At longer 40, u64At longer 48)
      (0, 0) = pairAt shorter startOptionsExLinksOffset (u64At shorter 40, u64At shorter 48)
      (0, 0) := by
    refine pairAt_extends h.size (fun hstop => ?_) fun hless hstop => ?_
    · have : 56 ≤ sizeAt shorter := hstop
      rw [u64At_congr (h.same.mono (by omega) (by omega)),
        u64At_congr (h.same.mono (by omega) (by omega))]
    · obtain ⟨hpointer, hcount⟩ := h.attributes hless hstop
      rw [hpointer, hcount]
  have hlinks : pairAt longer startOptionsExV1Size (u64At longer 56, u64At longer 64) (0, 0) =
      pairAt shorter startOptionsExV1Size (u64At shorter 56, u64At shorter 64) (0, 0) := by
    refine pairAt_extends h.size (fun hstop => ?_) fun hless hstop => ?_
    · have : 72 ≤ sizeAt shorter := hstop
      rw [u64At_congr (h.same.mono (by omega) (by omega)),
        u64At_congr (h.same.mono (by omega) (by omega))]
    · obtain ⟨hpointer, hcount⟩ := h.links hless hstop
      rw [hpointer, hcount]
  have hmode : pairAt longer startOptionsExSize (u32At longer 72, u32At longer 76)
      (parentExplicit, 0) = pairAt shorter startOptionsExSize (u32At shorter 72, u32At shorter 76)
      (parentExplicit, 0) := by
    refine pairAt_extends h.size (fun hstop => ?_) fun hless hstop => ?_
    · have : 80 ≤ sizeAt shorter := hstop
      rw [u32At_congr (h.same.mono (by omega) (by omega)),
        u32At_congr (h.same.mono (by omega) (by omega))]
    · obtain ⟨hparentMode, hreserved2⟩ := h.mode hless hstop
      rw [hparentMode, hreserved2, parentExplicit]
  rw [tailAt, tailAt, headAt_congr (h.same.mono le_rfl (by omega)), hattributes, hlinks, hmode]

theorem run_readStartFields_extends {shorter longer : Memory} (h : Extends shorter longer) :
    readStartFields.run longer = readStartFields.run shorter := by
  have hshorter := h.required
  have hlonger := h.required.trans h.size
  have hsame : SameAt shorter longer 8 32 := h.same.mono le_rfl (by
    have : 40 ≤ sizeAt shorter := h.required
    omega)
  rw [run_readStartFields, run_readStartFields, if_neg (by omega), if_neg (by omega),
    tailAt_extends h, headAt_congr hsame]

section Declared

variable {TraceState : Type} (surroundings : Surroundings TraceState)
  (tracer : HandleArg (Option TracerVtable)) (name : OtelStringView) (optionsIsNull : Bool)

theorem run_startSpanEx_extends {shorter longer : Memory} (h : Extends shorter longer) :
    (otelTracerStartSpanExAt surroundings tracer name optionsIsNull).run longer =
      (otelTracerStartSpanExAt surroundings tracer name optionsIsNull).run shorter := by
  rw [otelTracerStartSpanExAt]
  cases checkedRef tracer with
  | error e => rfl
  | ok vtable =>
    cases optionsIsNull with
    | true => rfl
    | false =>
      simp only [Bool.false_eq_true, if_false, Scan.run_bind, Scan.run_pure,
        run_readStartFields_extends h]

/-- **The options are read as far as they are declared.**  Apart from the field of the size itself no
byte at or beyond the size is read, so memories that hold the same size and the same bytes below it
have the same outcome.  A longer struct has the outcome of a shorter one when the pairs that it alone
covers are zero. -/
theorem start_options_read_as_declared (memory memory' : Memory) :
    (∀ field ∈ (otelTracerStartSpanExAt surroundings tracer name optionsIsNull).footprint memory,
      field = structSizeField ∨ field.1 + field.2 ≤ sizeAt memory) ∧
    (SameAt memory memory' structSizeField.1 structSizeField.2 →
      SameAt memory memory' 0 (sizeAt memory) →
      (otelTracerStartSpanExAt surroundings tracer name optionsIsNull).run memory' =
        (otelTracerStartSpanExAt surroundings tracer name optionsIsNull).run memory) ∧
    (Extends memory memory' →
      (otelTracerStartSpanExAt surroundings tracer name optionsIsNull).run memory' =
        (otelTracerStartSpanExAt surroundings tracer name optionsIsNull).run memory) := by
  refine ⟨fun field => footprint_startSpanEx surroundings tracer name optionsIsNull, ?_,
    run_startSpanEx_extends surroundings tracer name optionsIsNull⟩
  intro hfield hbelow
  refine (Scan.run_congr _ fun field hmem => ?_).1.symm
  obtain rfl | hcovered := footprint_startSpanEx surroundings tracer name optionsIsNull hmem
  · exact hfield
  · exact hbelow.mono (Nat.zero_le _) (by omega)

end Declared

/-- Surroundings in which no pointer leads to anything live. -/
def nothingLive : Surroundings Unit where
  parent _ := ⟨.dead, rfl⟩
  parentContext _ := ⟨.dead, rfl⟩
  attributes _ n := ⟨List.replicate n ⟨.null 0, 0, ⟨.null 0, 0, 0, 0⟩⟩, List.length_replicate⟩
  links _ n := ⟨List.replicate n ⟨.null, .null 0⟩, List.length_replicate⟩
  reserves _ := true
  current := none

/-- A memory that is zero but for these bytes. -/
def zeroBut (bytes : List (Nat × UInt8)) : Memory := fun i => (bytes.lookup i).getD 0

/-- A span of the same implementation. -/
def localContext : SdkSpanContext Unit :=
  ⟨Bytes.replicate 16 1, Bytes.replicate 8 2, 1, false, ()⟩

/-- An attribute with the flag `a`. -/
def flagView : OtelKeyValue := ⟨viewOf (lit "a"), 1, ⟨.null 0, 1, 0, 0⟩⟩

/-- Surroundings in which every parent handle is a span of the same implementation. -/
def someLive : Surroundings Unit :=
  { nothingLive with
    parent := fun _ => ⟨.live ⟨true, localContext⟩, rfl⟩
    attributes := fun _ n => ⟨List.replicate n flagView, List.length_replicate⟩ }

/-- A start on a tracer with every extension. -/
def startBacked : Scan (StartOutcome Unit) :=
  otelTracerStartSpanExAt someLive (.live (some ⟨true, true⟩)) (viewOf (lit "work")) false

/-- A kind, a parent and an attribute, in a struct that ends before the links. -/
def childOptions (size : UInt8) : List (Nat × UInt8) :=
  [(0, size), (8, 3), (16, 1), (40, 1), (48, 1)]

/-- What is handed over. -/
def childConfig : OtelSpanStartConfig Unit where
  kind := 3
  reserved := 0
  parentSpanCtx := some localContext
  parentContext := none
  startTimeUnixNanos := 0
  attributes := .elems [flagView]
  links := viewsOf []

/-- Neither what lies behind the size nor a longer struct with zeros there changes what is handed
over. -/
theorem start_options_read_as_declared_child :
    startBacked.run (zeroBut (childOptions 56 ++ [(60, 7), (72, 1)])) =
        .handed (viewOf (lit "work")) childConfig none ∧
      startBacked.run (zeroBut (childOptions 80)) =
        .handed (viewOf (lit "work")) childConfig none := by
  have hdeclared := start_options_read_as_declared someLive (.live (some ⟨true, true⟩))
    (viewOf (lit "work")) false (zeroBut (childOptions 56))
  refine ⟨((hdeclared _).2.1 ?_ ?_).trans rfl, ((hdeclared _).2.2 ?_).trans rfl⟩
  · intro i _ hi
    have : i < 8 := hi
    interval_cases i <;> rfl
  · intro i _ hi
    have : i < 56 := hi
    interval_cases i <;> rfl
  · refine ⟨by decide, by decide, ?_, fun hless _ => absurd hless (by decide),
      fun _ _ => ⟨by decide, by decide⟩, fun _ _ => ⟨by decide, by decide⟩⟩
    intro i hlow hi
    have : i < 56 := hi
    interval_cases i <;> rfl
/-- A start on a no-op tracer. -/
def startNoop : Scan (StartOutcome Unit) :=
  otelTracerStartSpanExAt nothingLive (.live none) (.null 0) false

/-- The size field is read whole, also when it says that the struct ends inside it; and a pair that
the size cuts through counts as absent, so that its zero half brings in the other half. -/
theorem start_options_read_past_size :
    (sizeAt (zeroBut [(0, 4)]) = 4 ∧
      structSizeField ∈ startNoop.footprint (zeroBut [(0, 4)]) ∧
      SameAt (zeroBut [(0, 4)]) (zeroBut [(0, 4), (4, 1)]) 0 4 ∧
      startNoop.run (zeroBut [(0, 4)]) = .refused
        ⟨.invalidConfig, "options struct_size is smaller than the required minimum"⟩ ∧
      startNoop.run (zeroBut [(0, 4), (4, 1)]) = .noopSpan) ∧
    sizeAt (zeroBut [(0, 76), (16, 1), (72, 1)]) = 76 ∧
      sizeAt (zeroBut [(0, 80), (16, 1), (72, 1)]) = 80 ∧
      SameAt (zeroBut [(0, 76), (16, 1), (72, 1)]) (zeroBut [(0, 80), (16, 1), (72, 1)]) 8 68 ∧
      u32At (zeroBut [(0, 80), (16, 1), (72, 1)]) 76 = 0 ∧
      startNoop.run (zeroBut [(0, 76), (16, 1), (72, 1)]) = .noopSpan ∧
      startNoop.run (zeroBut [(0, 80), (16, 1), (72, 1)]) = .refused
        ⟨.invalidArgument, "ambient/root parent mode cannot include an explicit parent"⟩ := by
  refine ⟨⟨by decide, ?_, ?_, rfl, rfl⟩, by decide, by decide, ?_, by decide, rfl, rfl⟩
  · exact List.mem_cons_self
  · intro i _ hi
    have : i < 4 := hi
    interval_cases i <;> rfl
  · intro i hlow _
    have hbytes : ∀ size : UInt8, zeroBut [(0, size), (16, 1), (72, 1)] i =
        zeroBut [(16, 1), (72, 1)] i := by
      intro size
      have hne : (i == 0) = false := by simpa using (by omega : i ≠ 0)
      rw [zeroBut, List.lookup_cons, hne]
      rfl
    rw [hbytes, hbytes]

end OtelC.Trace
