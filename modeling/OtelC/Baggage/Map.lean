import OtelC.Baggage.Bounds
import OtelC.Lib.Loops
import OtelC.Lib.OrderedMap
import OtelC.Lib.Simulation

/-!
# Baggage is a map

The calls that read a baggage, and what all calls together come to.  To an application a builder is
a map under construction and a baggage a map that does not change: entries under keys, in the order
in which the keys came in.  A `set` is refused just when the map that it would leave is beyond the
bounds.

* `baggage_is_a_map`: no calls tell the lists of entries from such maps.
-/

namespace OtelC.Baggage

open Loops Simulation

/-! ### The calls that read -/

/-- `BAGGAGE_ENTRY_VIEW_V1_SIZE`, on a 64-bit target. -/
def baggageEntryViewV1Size : Nat := 56

/-- `otel_baggage_count`; a failure reads 0. -/
def otelBaggageCount (heap : Heap) (baggage : Handle) : Except Fail Nat := do
  let entries ← checkedRef (baggageAt heap baggage)
  .ok entries.length

/-- `otel_baggage_get`, with the size that `out` declares if it is not NULL; the view that is
written there, and a failure reads 0. -/
def otelBaggageGet (heap : Heap) (baggage : Handle) (key : OtelStringView) (outSize : Option Nat) :
    Except Fail (Option BaggageEntry) :=
  match outSize with
  | none => fail .invalidArgument "baggage entry output is NULL"
  | some size =>
    if size < baggageEntryViewV1Size then
      fail .invalidConfig "baggage entry output struct_size is too small"
    else do
      let entries ← checkedRef (baggageAt heap baggage)
      let key ← stringFromView key "baggage key is invalid UTF-8"
      .ok (entries.find? fun e => e.key = key)

/-- A visitor answers with a status, and may remember what it has seen. -/
abbrev Visitor := List BaggageEntry → BaggageEntry → OtelStatus

/-- The loop of `otel_baggage_visit`: what the visitor has seen, and its last status. -/
def visitEntries (visitor : Visitor) (seen : List BaggageEntry) :
    List BaggageEntry → List BaggageEntry × OtelStatus
  | [] => (seen, .ok)
  | e :: entries =>
    let status := visitor seen e
    if status ≠ .ok then (seen ++ [e], status) else visitEntries visitor (seen ++ [e]) entries

/-- `otel_baggage_visit`. -/
def otelBaggageVisit (heap : Heap) (baggage : Handle) (visitor : Option Visitor) :
    Except Fail (List BaggageEntry × OtelStatus) := do
  let entries ← checkedRef (baggageAt heap baggage)
  match visitor with
  | none => fail .invalidArgument "baggage visitor is NULL"
  | some visitor => .ok (visitEntries visitor [] entries)

/-! ### What all calls answer -/

inductive Request where
  | call (call : Call)
  | count (baggage : Handle)
  | get (baggage : Handle) (key : OtelStringView) (outSize : Option Nat)
  | visit (baggage : Handle) (visitor : Option Visitor)
  | inject (baggage : Handle) (bufferIsNull : Bool) (capacity : Nat) (outLenIsNull : Bool)

inductive Answer where
  | handle (result : Except Fail Nat)
  | out (call : OutCall Nat)
  | status (result : Except Fail Unit)
  | destroyed
  | count (result : Except Fail Nat)
  | entry (result : Except Fail (Option BaggageEntry))
  | visited (result : Except Fail (List BaggageEntry × OtelStatus))
  | injected (call : InjectCall)

/-- The handle that a call gives through `out` is the next address. -/
def OutCall.at {α : Type} (call : OutCall α) (address : Nat) : OutCall Nat :=
  ⟨call.status, call.message, call.out.map (Option.map fun _ => address)⟩

def answer (heap : Heap) : Call → Answer
  | .builderCreate => .handle (.ok heap.length)
  | .builderSet builder key value metadata =>
    .status (Commit.exec (otelBaggageBuilderSet builder key value metadata) heap).1
  | .builderRemove builder key =>
    .status (Commit.exec (otelBaggageBuilderRemove builder key) heap).1
  | .builderBuild builder outIsNull =>
    .out (OutCall.at (otelBaggageBuilderBuild (builderAt heap builder) outIsNull) heap.length)
  | .builderDestroy _ => .destroyed
  | .clone baggage => .handle (Commit.exec (otelBaggageClone baggage) heap).1
  | .destroy _ => .destroyed
  | .extract header outIsNull =>
    .out (OutCall.at (otelBaggagePropagationExtract header outIsNull) heap.length)

def exec (heap : Heap) : Request → Answer × Heap
  | .call call => (answer heap call, step heap call)
  | .count baggage => (.count (otelBaggageCount heap baggage), heap)
  | .get baggage key outSize => (.entry (otelBaggageGet heap baggage key outSize), heap)
  | .visit baggage visitor => (.visited (otelBaggageVisit heap baggage visitor), heap)
  | .inject baggage bufferIsNull capacity outLenIsNull =>
    (.injected (otelBaggagePropagationInject (baggageAt heap baggage) bufferIsNull capacity
      outLenIsNull), heap)

/-! ### Maps -/

abbrev EntryMap := OrderedMap Str BaggageEntry

/-- The bytes that are stored. -/
def EntryMap.size (m : EntryMap) : Nat := (m.values.map BaggageEntry.storedLen).sum

/-- The map with one entry more, if it is within the bounds. -/
def EntryMap.set (m : EntryMap) (e : BaggageEntry) : Except Fail EntryMap :=
  if EntryMap.size (m.insert e.key e) > maxBaggageBytes then
    fail .invalidConfig "baggage stored data exceeds 8192 bytes"
  else if (m.insert e.key e).count > maxBaggageItems then
    fail .invalidConfig "baggage exceeds 64 entries"
  else .ok (m.insert e.key e)

/-- The entry that the inputs of a `set` spell. -/
def readEntry (key value metadata : OtelStringView) : Except Fail BaggageEntry :=
  if !viewShapeIsValid key || !viewShapeIsValid value || !viewShapeIsValid metadata then
    fail .invalidArgument "baggage input has a NULL pointer with non-zero length"
  else if saturatingAdd (saturatingAdd key.len value.len) metadata.len > maxBaggageBytes then
    fail .invalidConfig "baggage entry exceeds the 8192-byte storage limit"
  else do
    let key ← stringFromView key "baggage key is invalid UTF-8"
    if key.isEmpty then fail .invalidArgument "baggage key is empty"
    else do
      let value ← stringFromView value "baggage value is invalid UTF-8"
      let metadata ← stringFromView metadata "baggage metadata is invalid UTF-8"
      .ok ⟨key, value, metadata⟩

/-- A member of a header, which is left out when it is unreadable or has no room for its key. -/
def EntryMap.offer (m : EntryMap) (member : Str) : EntryMap :=
  match parseMember member with
  | none => m
  | some e => if (m.find e.key).isSome ∨ m.count < maxBaggageItems then m.insert e.key e else m

def extractMap (header : OtelStringView) : Except Fail EntryMap :=
  if !viewShapeIsValid header then
    fail .invalidArgument "baggage header has a NULL pointer with non-zero length"
  else if header.len ≤ maxBaggageBytes then do
    let text ← stringFromView header "baggage header is invalid UTF-8"
    .ok ((text.splitOn ',').foldl EntryMap.offer .empty)
  else .ok .empty

def HandleArg.map {α β : Type} (f : α → β) : HandleArg α → HandleArg β
  | .null => .null
  | .dead => .dead
  | .wrongKind => .wrongKind
  | .live x => .live (f x)

/-- What an application has under a handle. -/
inductive Held where
  | builder (m : EntryMap)
  | baggage (m : EntryMap)
  | destroyed

abbrev Table := List Held

namespace Table

variable (t : Table)

def builderAt : Handle → HandleArg EntryMap
  | none => .null
  | some address =>
    match t[address]? with
    | some (.builder m) => .live m
    | some (.baggage _) => .wrongKind
    | _ => .dead

def baggageAt : Handle → HandleArg EntryMap
  | none => .null
  | some address =>
    match t[address]? with
    | some (.baggage m) => .live m
    | some (.builder _) => .wrongKind
    | _ => .dead

def store (handle : Handle) (held : Held) : Table :=
  match handle with
  | none => t
  | some address => t.set address held

/-- A builder after a call, or as it was. -/
def update (builder : Handle) (f : EntryMap → Except Fail EntryMap) : Answer × Table :=
  match checkedRef (t.builderAt builder) >>= f with
  | .error e => (.status (.error e), t)
  | .ok m => (.status (.ok ()), t.store builder (.builder m))

/-- A new baggage through `out`. -/
def give (outIsNull : Bool) (made : Except Fail EntryMap) : Answer × Table :=
  (.out (OutCall.at (withOut outIsNull "baggage output is NULL" made) t.length),
    match outIsNull, made with
    | false, .ok m => t ++ [.baggage m]
    | _, _ => t)

def clone (baggage : Handle) : Answer × Table :=
  match checkedRef (t.baggageAt baggage) with
  | .error e => (.handle (.error e), t)
  | .ok m => (.handle (.ok t.length), t ++ [.baggage m])

def destroyAt (handle : Handle) (found : HandleArg EntryMap) : Table :=
  match found with
  | .live _ => t.store handle .destroyed
  | _ => t

def call : Call → Answer × Table
  | .builderCreate => (.handle (.ok t.length), t ++ [.builder .empty])
  | .builderSet builder key value metadata =>
    t.update builder fun m => do
      let e ← readEntry key value metadata
      m.set e
  | .builderRemove builder key =>
    t.update builder fun m => do
      let key ← stringFromView key "baggage key is invalid UTF-8"
      .ok (m.erase key)
  | .builderBuild builder outIsNull => t.give outIsNull (checkedRef (t.builderAt builder))
  | .builderDestroy builder => (.destroyed, t.destroyAt builder (t.builderAt builder))
  | .clone baggage => t.clone baggage
  | .destroy baggage => (.destroyed, t.destroyAt baggage (t.baggageAt baggage))
  | .extract header outIsNull => t.give outIsNull (extractMap header)

def get (baggage : Handle) (key : OtelStringView) (outSize : Option Nat) :
    Except Fail (Option BaggageEntry) :=
  match outSize with
  | none => fail .invalidArgument "baggage entry output is NULL"
  | some size =>
    if size < baggageEntryViewV1Size then
      fail .invalidConfig "baggage entry output struct_size is too small"
    else do
      let m ← checkedRef (t.baggageAt baggage)
      let key ← stringFromView key "baggage key is invalid UTF-8"
      .ok (m.find key)

def visit (baggage : Handle) (visitor : Option Visitor) :
    Except Fail (List BaggageEntry × OtelStatus) := do
  let m ← checkedRef (t.baggageAt baggage)
  match visitor with
  | none => fail .invalidArgument "baggage visitor is NULL"
  | some visitor => .ok (visitEntries visitor [] m.values)

end Table

def Table.exec (t : Table) : Request → Answer × Table
  | .call call => t.call call
  | .count baggage => (.count ((checkedRef (t.baggageAt baggage)).map OrderedMap.count), t)
  | .get baggage key outSize => (.entry (t.get baggage key outSize), t)
  | .visit baggage visitor => (.visited (t.visit baggage visitor), t)
  | .inject baggage bufferIsNull capacity outLenIsNull =>
    (.injected (otelBaggagePropagationInject (HandleArg.map OrderedMap.values (t.baggageAt baggage))
      bufferIsNull capacity outLenIsNull), t)

/-! ### One call on a list and on a map -/

abbrev Spells (entries : List BaggageEntry) (m : EntryMap) : Prop :=
  OrderedMap.Represents BaggageEntry.key entries m

variable {entries : List BaggageEntry} {m : EntryMap}

theorem size_eq (h : Spells entries m) : EntryMap.size m = storedBytes entries := by
  rw [EntryMap.size, h.values_eq, storedBytes]

/-- The second half of `otel_baggage_builder_set`: the entry goes in, if there is room. -/
def setEntry (entries : List BaggageEntry) (e : BaggageEntry) : Except Fail (List BaggageEntry) :=
  if storedBytes entries - replacedLen entries e.key + e.storedLen > maxBaggageBytes then
    fail .invalidConfig "baggage stored data exceeds 8192 bytes"
  else if (position entries e.key).isNone ∧ entries.length = maxBaggageItems then
    fail .invalidConfig "baggage exceeds 64 entries"
  else match position entries e.key with
    | some i => .ok (entries.set i e)
    | none => .ok (entries ++ [e])

theorem builderSet_eq (entries : List BaggageEntry) (key value metadata : OtelStringView) :
    Commit.after (builderSet key value metadata) entries =
      readEntry key value metadata >>= setEntry entries := by
  unfold builderSet readEntry
  rw [Commit.after_ite]
  split
  · rfl
  · rw [Commit.after_ite]
    split
    · rfl
    · rw [Commit.after_ofExcept_bind]
      cases stringFromView key "baggage key is invalid UTF-8" with
      | error e => rfl
      | ok key =>
        rw [Checked.ok_bind, Checked.ok_bind, Commit.after_ite]
        split
        · rfl
        · rw [Commit.after_ofExcept_bind]
          cases stringFromView value "baggage value is invalid UTF-8" with
          | error e => rfl
          | ok value =>
            rw [Checked.ok_bind, Checked.ok_bind, Commit.after_ofExcept_bind]
            cases stringFromView metadata "baggage metadata is invalid UTF-8" with
            | error e => rfl
            | ok metadata =>
              rw [Checked.ok_bind, Checked.ok_bind, Checked.ok_bind, Commit.after_state_bind,
                setEntry, replacedLen]
              simp only [Commit.after_ite]
              cases position entries key with
              | some i => rfl
              | none => rfl

/-- The size that `set` projects is the size that the map would have. -/
theorem projected_eq (h : Spells entries m) (e : BaggageEntry) :
    storedBytes entries - replacedLen entries e.key + e.storedLen =
      EntryMap.size (m.insert e.key e) := by
  cases hpos : position entries e.key with
  | none =>
    rw [size_eq (OrderedMap.represents_append h hpos), replacedLen_none hpos, storedBytes,
      storedBytes, List.map_append, List.sum_append, List.map_singleton, List.sum_singleton,
      Nat.sub_zero]
  | some i =>
    obtain ⟨hi, hlen⟩ := replacedLen_some hpos
    have hle := replacedLen_le entries e.key
    have hsum := Keyed.sum_set BaggageEntry.storedLen hi e
    rw [size_eq (OrderedMap.represents_set h hpos), hlen]
    rw [hlen] at hle
    rw [storedBytes] at hle ⊢
    rw [storedBytes]
    omega

theorem setEntry_agrees (h : Spells entries m) (hlen : entries.length ≤ maxBaggageItems)
    (e : BaggageEntry) : Agrees Spells (setEntry entries e) (m.set e) := by
  rw [setEntry, EntryMap.set, projected_eq h]
  by_cases hsize : EntryMap.size (m.insert e.key e) > maxBaggageBytes
  · rw [if_pos hsize, if_pos hsize]
    rfl
  · rw [if_neg hsize, if_neg hsize]
    cases hpos : position entries e.key with
    | some i =>
      have hspells := OrderedMap.represents_set h hpos
      have hcount : ¬(m.insert e.key e).count > maxBaggageItems := by
        rw [hspells.count_eq, List.length_set]
        omega
      rw [if_neg hcount, if_neg (by simp)]
      exact hspells
    | none =>
      have hspells := OrderedMap.represents_append h hpos
      by_cases hfull : entries.length = maxBaggageItems
      · have hcount : (m.insert e.key e).count > maxBaggageItems := by
          rw [hspells.count_eq, List.length_append, List.length_singleton]
          omega
        rw [if_pos hcount, if_pos ⟨rfl, hfull⟩]
        rfl
      · have hcount : ¬(m.insert e.key e).count > maxBaggageItems := by
          rw [hspells.count_eq, List.length_append, List.length_singleton]
          omega
        rw [if_neg hcount, if_neg fun hc => hfull hc.2]
        exact hspells

theorem builderSet_agrees (h : Spells entries m) (hlen : entries.length ≤ maxBaggageItems)
    (key value metadata : OtelStringView) :
    Agrees Spells (Commit.after (builderSet key value metadata) entries)
      (do
        let e ← readEntry key value metadata
        m.set e) := by
  rw [builderSet_eq]
  exact agrees_bind_same fun e _ => setEntry_agrees h hlen e

/-- The second half of `otel_baggage_builder_remove`. -/
def eraseEntry (entries : List BaggageEntry) (key : Str) : Except Fail (List BaggageEntry) :=
  match position entries key with
  | some i => .ok (entries.eraseIdx i)
  | none => .ok entries

theorem builderRemove_eq (entries : List BaggageEntry) (key : OtelStringView) :
    Commit.after (builderRemove key) entries =
      stringFromView key "baggage key is invalid UTF-8" >>= eraseEntry entries := by
  rw [builderRemove, Commit.after_ofExcept_bind]
  refine congrArg (Bind.bind _) (funext fun key => ?_)
  rw [Commit.after_state_bind, eraseEntry]
  cases position entries key with
  | some i => rfl
  | none => rfl

theorem builderRemove_agrees (h : Spells entries m) (key : OtelStringView) :
    Agrees Spells (Commit.after (builderRemove key) entries)
      (do
        let key ← stringFromView key "baggage key is invalid UTF-8"
        .ok (m.erase key)) := by
  rw [builderRemove_eq]
  refine agrees_bind_same fun k _ => ?_
  unfold eraseEntry
  cases hpos : position entries k with
  | some i => exact OrderedMap.represents_eraseIdx h hpos
  | none => exact OrderedMap.represents_erase_none h hpos

theorem extractStep_spells (h : Spells entries m) (member : Str) :
    Spells (extractStep entries member) (m.offer member) := by
  unfold extractStep EntryMap.offer
  cases parseMember member with
  | none => exact h
  | some e =>
    have hthere : (m.find e.key).isSome = (position entries e.key).isSome := h.find_isSome e.key
    cases hpos : position entries e.key with
    | some i =>
      rw [hpos] at hthere
      simp only [hpos]
      rw [if_pos (.inl hthere)]
      exact OrderedMap.represents_set h hpos
    | none =>
      rw [hpos] at hthere
      simp only [hpos, hthere, h.count_eq, Option.isSome_none, Bool.false_eq_true, false_or]
      by_cases hroom : entries.length < maxBaggageItems
      · rw [if_pos hroom, if_pos hroom]
        exact OrderedMap.represents_append h hpos
      · rw [if_neg hroom, if_neg hroom]
        exact h

theorem extractBody_agrees (header : OtelStringView) :
    Agrees Spells (extractBody header) (extractMap header) := by
  unfold extractBody extractMap
  split
  · rfl
  · split
    · refine agrees_bind_same fun text _ => ?_
      exact List.foldl_rel OrderedMap.represents_empty fun member _ _ _ h =>
        extractStep_spells h member
    · exact OrderedMap.represents_empty

/-! ### The heap and the table -/

/-- An object is what the application has there. -/
inductive Same : Object → Held → Prop
  | builder {entries : List BaggageEntry} {m : EntryMap} (h : Spells entries m) :
    Same (.builder entries) (.builder m)
  | baggage {entries : List BaggageEntry} {m : EntryMap} (h : Spells entries m) :
    Same (.baggage entries) (.baggage m)
  | destroyed : Same .destroyed .destroyed

/-- A handle argument and what the application knows of it. -/
inductive SameArg : HandleArg (List BaggageEntry) → HandleArg EntryMap → Prop
  | null : SameArg .null .null
  | dead : SameArg .dead .dead
  | wrongKind : SameArg .wrongKind .wrongKind
  | live {entries : List BaggageEntry} {m : EntryMap} (h : Spells entries m) :
    SameArg (.live entries) (.live m)

theorem SameArg.checked {arg : HandleArg (List BaggageEntry)} {arg' : HandleArg EntryMap}
    (h : SameArg arg arg') : Agrees Spells (checkedRef arg) (checkedRef arg') := by
  cases h with
  | live h => exact h
  | _ => rfl

variable {heap : Heap} {t : Table}

theorem same_getElem? (h : List.Forall₂ Same heap t) (address : Nat) :
    heap[address]? = none ∧ t[address]? = none ∨
      ∃ x y, heap[address]? = some x ∧ t[address]? = some y ∧ Same x y := by
  induction h generalizing address with
  | nil => exact .inl ⟨rfl, rfl⟩
  | cons hsame _ ih =>
    cases address with
    | zero => exact .inr ⟨_, _, rfl, rfl, hsame⟩
    | succ address => exact ih address

theorem same_builderAt (h : List.Forall₂ Same heap t) (handle : Handle) :
    SameArg (builderAt heap handle) (t.builderAt handle) := by
  cases handle with
  | none => exact .null
  | some address =>
    rcases same_getElem? h address with ⟨hx, hy⟩ | ⟨x, y, hx, hy, hsame⟩
    · simp only [builderAt, Table.builderAt, hx, hy]
      exact .dead
    · simp only [builderAt, Table.builderAt, hx, hy]
      cases hsame with
      | builder hspells => exact .live hspells
      | baggage _ => exact .wrongKind
      | destroyed => exact .dead

theorem same_baggageAt (h : List.Forall₂ Same heap t) (handle : Handle) :
    SameArg (baggageAt heap handle) (t.baggageAt handle) := by
  cases handle with
  | none => exact .null
  | some address =>
    rcases same_getElem? h address with ⟨hx, hy⟩ | ⟨x, y, hx, hy, hsame⟩
    · simp only [baggageAt, Table.baggageAt, hx, hy]
      exact .dead
    · simp only [baggageAt, Table.baggageAt, hx, hy]
      cases hsame with
      | builder _ => exact .wrongKind
      | baggage hspells => exact .live hspells
      | destroyed => exact .dead

/-- A call either refuses a builder with the same text, or has its entries and its map. -/
theorem builder_cases (h : List.Forall₂ Same heap t) (builder : Handle) :
    (∃ e, checkedRef (builderAt heap builder) = .error e ∧
      checkedRef (t.builderAt builder) = .error e) ∨
    ∃ entries m, checkedRef (builderAt heap builder) = .ok entries ∧
      checkedRef (t.builderAt builder) = .ok m ∧ Spells entries m :=
  agrees_iff.mp (same_builderAt h builder).checked

theorem baggage_cases (h : List.Forall₂ Same heap t) (baggage : Handle) :
    (∃ e, checkedRef (baggageAt heap baggage) = .error e ∧
      checkedRef (t.baggageAt baggage) = .error e) ∨
    ∃ entries m, checkedRef (baggageAt heap baggage) = .ok entries ∧
      checkedRef (t.baggageAt baggage) = .ok m ∧ Spells entries m :=
  agrees_iff.mp (same_baggageAt h baggage).checked

theorem same_set (h : List.Forall₂ Same heap t) {x : Object} {y : Held} (hxy : Same x y)
    (address : Nat) : List.Forall₂ Same (heap.set address x) (t.set address y) := by
  induction h generalizing address with
  | nil => exact .nil
  | cons hsame hrest ih =>
    cases address with
    | zero => exact .cons hxy hrest
    | succ address => exact .cons hsame (ih address)

theorem same_store (h : List.Forall₂ Same heap t) {x : Object} {y : Held} (hxy : Same x y)
    (handle : Handle) : List.Forall₂ Same (store heap handle x) (t.store handle y) := by
  cases handle with
  | none => exact h
  | some address => exact same_set h hxy address

theorem same_push (h : List.Forall₂ Same heap t) {x : Object} {y : Held} (hxy : Same x y) :
    List.Forall₂ Same (heap ++ [x]) (t ++ [y]) :=
  List.rel_append h (.cons hxy .nil)

theorem same_destroyAt (h : List.Forall₂ Same heap t) (handle : Handle)
    {arg : HandleArg (List BaggageEntry)} {arg' : HandleArg EntryMap} (harg : SameArg arg arg') :
    List.Forall₂ Same (destroyAt heap handle arg) (t.destroyAt handle arg') := by
  cases harg with
  | live _ => exact same_store h .destroyed handle
  | _ => exact h

/-! ### One call on the heap and on the table -/

/-- What a call makes is given through `out` in the same way. -/
theorem alike_give (h : List.Forall₂ Same heap t) (outIsNull : Bool)
    {body : Except Fail (List BaggageEntry)} {made : Except Fail EntryMap}
    (hmade : Agrees Spells body made) :
    Alike (List.Forall₂ Same)
      (.out (OutCall.at (withOut outIsNull "baggage output is NULL" body) heap.length),
        allocate heap (withOut outIsNull "baggage output is NULL" body))
      (t.give outIsNull made) := by
  rcases agrees_iff.mp hmade with ⟨e, rfl, rfl⟩ | ⟨entries, m, rfl, rfl, hspells⟩
  · cases outIsNull with
    | true => exact ⟨rfl, h⟩
    | false => exact ⟨rfl, h⟩
  · cases outIsNull with
    | true => exact ⟨rfl, h⟩
    | false =>
      refine ⟨?_, same_push h (.baggage hspells)⟩
      rw [h.length_eq]
      rfl

theorem alike_clone (h : List.Forall₂ Same heap t) (baggage : Handle) :
    Alike (List.Forall₂ Same) (exec heap (.call (.clone baggage))) (t.clone baggage) := by
  unfold Table.clone
  simp only [exec, answer, step, otelBaggageClone, Commit.exec_bind_of_ok (Commit.exec_state heap),
    Commit.exec_ofExcept_bind]
  rcases baggage_cases h baggage with ⟨e, hx, hy⟩ | ⟨entries, m, hx, hy, hspells⟩
  · rw [hx, hy]
    exact ⟨rfl, h⟩
  · rw [hx, hy]
    refine ⟨?_, same_push h (.baggage hspells)⟩
    rw [h.length_eq]
    rfl

/-- A call on a builder, from what it does to the entries and to the map. -/
theorem alike_update {body : Commit.Call (List BaggageEntry) Fail Unit}
    {g : EntryMap → Except Fail EntryMap} (h : List.Forall₂ Same heap t) (builder : Handle)
    (hbody : Commit.Atomic body)
    (hagrees : ∀ entries m, Object.builder entries ∈ heap → Spells entries m →
      Agrees Spells (Commit.after body entries) (g m)) :
    Alike (List.Forall₂ Same) (.status (Commit.exec (onBuilder builder body) heap).1,
      (Commit.exec (onBuilder builder body) heap).2) (t.update builder g) := by
  unfold Table.update
  rcases builder_cases h builder with ⟨e, hx, hy⟩ | ⟨entries, m, hx, hy, hspells⟩
  · rw [exec_onBuilder_of_error hx, hy]
    exact ⟨rfl, h⟩
  · rw [exec_onBuilder_of_ok hx, hbody.exec_eq, hy]
    simp only [Checked.ok_bind]
    rcases agrees_iff.mp (hagrees entries m (builderAt_mem hx) hspells) with
      ⟨e, hf, hg⟩ | ⟨made, m', hf, hg, hmade⟩
    · rw [hf, hg]
      refine ⟨rfl, ?_⟩
      rw [store_builderAt hx]
      exact h
    · rw [hf, hg]
      exact ⟨rfl, same_store h (.builder hmade) builder⟩

/-- Any call, on objects within the bounds. -/
theorem alike_call (h : List.Forall₂ Same heap t) (hinv : ∀ x ∈ heap, Invariant x.entries)
    (call : Call) : Alike (List.Forall₂ Same) (exec heap (.call call)) (t.call call) := by
  cases call with
  | builderCreate =>
    refine ⟨?_, same_push h (.builder OrderedMap.represents_empty)⟩
    show Answer.handle (.ok heap.length) = .handle (.ok t.length)
    rw [h.length_eq]
  | builderSet builder key value metadata =>
    refine alike_update h builder (atomic_builderSet key value metadata)
      fun entries m hmem hspells => ?_
    exact builderSet_agrees hspells (hinv _ hmem).length_le key value metadata
  | builderRemove builder key =>
    exact alike_update h builder (atomic_builderRemove key) fun entries m _ hspells =>
      builderRemove_agrees hspells key
  | builderBuild builder outIsNull =>
    refine alike_give h outIsNull ?_
    rcases builder_cases h builder with ⟨e, hx, hy⟩ | ⟨entries, m, hx, hy, hspells⟩
    · rw [hx, hy]
      rfl
    · have hbuild : builderBuild entries = .ok entries :=
        (hinv (.builder entries) (builderAt_mem hx)).builderBuild_eq
      rw [hx, hy, Checked.ok_bind, hbuild]
      exact hspells
  | builderDestroy builder => exact ⟨rfl, same_destroyAt h builder (same_builderAt h builder)⟩
  | clone baggage => exact alike_clone h baggage
  | destroy baggage => exact ⟨rfl, same_destroyAt h baggage (same_baggageAt h baggage)⟩
  | extract header outIsNull => exact alike_give h outIsNull (extractBody_agrees header)

/-! ### The calls that read -/

theorem count_eq (h : List.Forall₂ Same heap t) (baggage : Handle) :
    otelBaggageCount heap baggage = (checkedRef (t.baggageAt baggage)).map OrderedMap.count := by
  unfold otelBaggageCount
  rcases baggage_cases h baggage with ⟨e, hx, hy⟩ | ⟨entries, m, hx, hy, hspells⟩
  · rw [hx, hy]
    rfl
  · rw [hx, hy]
    exact congrArg Except.ok hspells.count_eq.symm

theorem get_eq (h : List.Forall₂ Same heap t) (baggage : Handle) (key : OtelStringView)
    (outSize : Option Nat) :
    otelBaggageGet heap baggage key outSize = t.get baggage key outSize := by
  unfold otelBaggageGet Table.get
  rcases baggage_cases h baggage with ⟨e, hx, hy⟩ | ⟨entries, m, hx, hy, hspells⟩
  · rw [hx, hy]
    rfl
  · have hfind : ∀ k, (entries.find? fun e => e.key = k) = m.find k :=
      fun k => (hspells.find k).symm
    simp only [hx, hy, Checked.ok_bind, hfind]

theorem visit_eq (h : List.Forall₂ Same heap t) (baggage : Handle) (visitor : Option Visitor) :
    otelBaggageVisit heap baggage visitor = t.visit baggage visitor := by
  unfold otelBaggageVisit Table.visit
  rcases baggage_cases h baggage with ⟨e, hx, hy⟩ | ⟨entries, m, hx, hy, hspells⟩
  · rw [hx, hy]
    rfl
  · rw [hx, hy]
    simp only [Checked.ok_bind, hspells.values_eq]

/-- What `inject` writes is read off the map in the order of its keys. -/
theorem map_values_eq {arg : HandleArg (List BaggageEntry)} {arg' : HandleArg EntryMap}
    (h : SameArg arg arg') : HandleArg.map OrderedMap.values arg' = arg := by
  cases h with
  | live hspells => exact congrArg HandleArg.live hspells.values_eq
  | _ => rfl

theorem alike_exec (h : List.Forall₂ Same heap t) (hinv : ∀ x ∈ heap, Invariant x.entries)
    (request : Request) : Alike (List.Forall₂ Same) (exec heap request) (t.exec request) := by
  cases request with
  | call call => exact alike_call h hinv call
  | count baggage => exact ⟨congrArg Answer.count (count_eq h baggage), h⟩
  | get baggage key outSize => exact ⟨congrArg Answer.entry (get_eq h baggage key outSize), h⟩
  | visit baggage visitor => exact ⟨congrArg Answer.visited (visit_eq h baggage visitor), h⟩
  | inject baggage bufferIsNull capacity outLenIsNull =>
    refine ⟨?_, h⟩
    show Answer.injected _ = Answer.injected _
    rw [map_values_eq (same_baggageAt h baggage)]

/-! ### Whole runs -/

/-- The heap comes from calls, and is the table. -/
def Reached (heap : Heap) (t : Table) : Prop :=
  (∃ calls, heap = run calls) ∧ List.Forall₂ Same heap t

theorem Reached.exec (h : Reached heap t) (request : Request) :
    Alike (List.Forall₂ Same) (Baggage.exec heap request) (t.exec request) := by
  obtain ⟨⟨calls, rfl⟩, hsame⟩ := h
  exact alike_exec hsame (fun x hx => invariant_run hx) request

theorem reached_exec (h : Reached heap t) (request : Request) :
    ∃ calls, (exec heap request).2 = run calls := by
  obtain ⟨calls, rfl⟩ := h.1
  cases request with
  | call call =>
    refine ⟨calls ++ [call], ?_⟩
    show step (run calls) call = _
    rw [run, run, Run.run_append]
    rfl
  | _ => exact ⟨calls, rfl⟩

theorem simulates_table : Simulates exec Table.exec Reached where
  reply _ _ request h := (h.exec request).1
  next _ _ request h := ⟨reached_exec h request, (h.exec request).2⟩

/-- **A builder is a map under construction, and a baggage a map that does not change.**  Whatever
is called on them, in whatever order, the answers are those of a table of maps: a `set` is refused
just when the map it would leave stores more than 8192 bytes or has more than 64 keys, an entry
keeps its place when it is replaced, and `build`, `clone` and `extract` give maps of their own. -/
theorem baggage_is_a_map (requests : List Request) :
    replies exec [] requests = replies Table.exec [] requests :=
  simulates_table.replies_eq ⟨⟨[], rfl⟩, .nil⟩ requests

end OtelC.Baggage
