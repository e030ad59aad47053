import OtelC.Lib.Loops
import OtelC.Sdk.Otlp

/-!
# Headers of OTLP exporters

What becomes of the headers that are added to a builder of an OTLP exporter, over any calls.

* `headers_carried`: every header that was accepted is handed over, once and with its value.
* `diagnostics_eq`: no status and no message says anything about the value of a header.
-/

namespace OtelC.Otlp

open Loops (Agrees agrees_bind_same)
open Simulation

section Runs

variable {ν μ : Type} {signal : Signal} (features : Features) (tonic : Tonic ν μ)

/-! ### What a builder keeps -/

/-- What every configuration keeps: its keys are non-empty and differ in more than case, and its
temporality is one of the four. -/
structure Kept (config : Config) : Prop where
  keys_ne : ∀ header ∈ config.headers, header.1 ≠ []
  distinct : config.headers.Pairwise fun a b => toAsciiLowercase a.1 ≠ toAsciiLowercase b.1
  temporality : config.temporality ≤ 3

theorem kept_default : Kept .default where
  keys_ne _ h := by cases h
  distinct := List.Pairwise.nil
  temporality := by decide

theorem addHeader_iff {config config' : Config} {key value : OtelStringView} :
    addHeader signal (.live config) key value = .ok config' ↔
      ∃ k v, asStr key = .ok k ∧ asStr value = .ok v ∧ k ≠ [] ∧
        (∀ header ∈ config.headers, toAsciiLowercase header.1 ≠ toAsciiLowercase k) ∧
        config' = { config with headers := config.headers ++ [(k, v)] } := by
  rw [addHeader, checkedRef_live, Checked.ok_bind, Checked.bind_eq_ok]
  constructor
  · rintro ⟨k, hkey, h⟩
    obtain ⟨hne, h⟩ := Checked.guard_eq_ok.mp h
    obtain ⟨hfresh, h⟩ := Checked.guard_eq_ok.mp h
    obtain ⟨v, hvalue, h⟩ := Checked.bind_eq_ok.mp h
    refine ⟨k, v, hkey, hvalue, fun hnil => hne (List.isEmpty_iff.mpr hnil), ?_,
      (Except.ok.inj h).symm⟩
    intro header hheader heq
    exact hfresh (List.any_eq_true.mpr ⟨header, hheader, decide_eq_true heq⟩)
  · rintro ⟨k, v, hkey, hvalue, hne, hfresh, rfl⟩
    refine ⟨k, hkey, Checked.guard_eq_ok.mpr ⟨fun hnil => hne (List.isEmpty_iff.mp hnil),
      Checked.guard_eq_ok.mpr ⟨fun hany => ?_, Checked.bind_eq_ok.mpr ⟨v, hvalue, rfl⟩⟩⟩⟩
    obtain ⟨header, hheader, heq⟩ := List.any_eq_true.mp hany
    exact hfresh header hheader (of_decide_eq_true heq)

theorem kept_of_addHeader {config config' : Config} {key value : OtelStringView} (h : Kept config)
    (hset : addHeader signal (.live config) key value = .ok config') : Kept config' := by
  obtain ⟨k, v, -, -, hne, hfresh, rfl⟩ := addHeader_iff.mp hset
  refine ⟨?_, ?_, h.temporality⟩
  · intro header hheader
    rcases List.mem_append.mp hheader with hold | hnew
    · exact h.keys_ne header hold
    · obtain rfl := List.mem_singleton.mp hnew
      exact hne
  · refine List.pairwise_append.mpr ⟨h.distinct, List.pairwise_singleton _ _, ?_⟩
    intro a ha b hb
    obtain rfl := List.mem_singleton.mp hb
    exact hfresh a ha

/-- A setter that is not about headers. -/
structure Leaves (config config' : Config) : Prop where
  headers : config'.headers = config.headers
  temporality : config.temporality ≤ 3 → config'.temporality ≤ 3

theorem leaves_setEndpoint {config config' : Config} {endpoint : OtelStringView}
    (h : setEndpoint (.live config) endpoint = .ok config') : Leaves config config' := by
  rw [setEndpoint, checkedRef_live, Checked.ok_bind] at h
  obtain ⟨e, -, h⟩ := Checked.bind_eq_ok.mp h
  obtain rfl := Except.ok.inj h
  exact ⟨rfl, id⟩

theorem leaves_setTimeoutMillis {config config' : Config} {timeoutMillis : UInt64}
    (h : setTimeoutMillis (.live config) timeoutMillis = .ok config') : Leaves config config' := by
  obtain rfl := Except.ok.inj h
  exact ⟨rfl, id⟩

theorem leaves_setTransport {config config' : Config} {transport : UInt32}
    (h : setTransport signal (.live config) transport = .ok config') : Leaves config config' := by
  rw [setTransport, checkedRef_live, Checked.ok_bind] at h
  split at h
  · obtain rfl := Except.ok.inj h
    exact ⟨rfl, id⟩
  · obtain rfl := Except.ok.inj h
    exact ⟨rfl, id⟩
  · cases h

theorem leaves_setCompression {config config' : Config} {compression : UInt32}
    (h : setCompression signal (.live config) compression = .ok config') :
    Leaves config config' := by
  rw [setCompression, checkedRef_live, Checked.ok_bind] at h
  split at h
  · obtain rfl := Except.ok.inj h
    exact ⟨rfl, id⟩
  · obtain rfl := Except.ok.inj h
    exact ⟨rfl, id⟩
  · obtain rfl := Except.ok.inj h
    exact ⟨rfl, id⟩
  · cases h

theorem leaves_setTemporality {config config' : Config} {temporality : UInt32}
    (h : setTemporality (.live config) temporality = .ok config') : Leaves config config' := by
  rw [setTemporality, checkedRef_live, Checked.ok_bind] at h
  obtain ⟨hle, h⟩ := Checked.guard_eq_ok.mp h
  obtain rfl := Except.ok.inj h
  exact ⟨rfl, fun _ => UInt32.not_lt.mp hle⟩

/-- What a call adds to the headers, and that it keeps the rest in order. -/
structure Steps (config : Config) (call : Call signal) (result : Reply μ × Config) : Prop where
  kept : Kept config → Kept result.2
  headers : result.2.headers = config.headers ++ (added (call, result.1)).toList

theorem steps_set {config : Config} {call : Call signal} {result : Except Fail Config}
    (hadded : ∀ reply : Reply μ, added (call, reply) = none)
    (h : ∀ config', result = .ok config' → Leaves config config') :
    Steps config call (set config result : Reply μ × Config) := by
  cases result with
  | error e =>
    refine ⟨id, ?_⟩
    rw [hadded, Option.toList_none, List.append_nil]
    rfl
  | ok config' =>
    have hleaves := h config' rfl
    refine ⟨fun hkept => ?_, ?_⟩
    · exact ⟨by rw [set, hleaves.headers]; exact hkept.keys_ne,
        by rw [set, hleaves.headers]; exact hkept.distinct, hleaves.temporality hkept.temporality⟩
    · rw [hadded, Option.toList_none, List.append_nil]
      exact hleaves.headers

theorem steps (config : Config) (call : Call signal) :
    Steps config call (step features tonic config call) := by
  cases call with
  | setEndpoint endpoint => exact steps_set (fun _ => rfl) fun _ => leaves_setEndpoint
  | setTimeoutMillis timeoutMillis =>
    exact steps_set (fun _ => rfl) fun _ => leaves_setTimeoutMillis
  | setTransport transport => exact steps_set (fun _ => rfl) fun _ => leaves_setTransport
  | setCompression compression => exact steps_set (fun _ => rfl) fun _ => leaves_setCompression
  | setTemporality temporality _ => exact steps_set (fun _ => rfl) fun _ => leaves_setTemporality
  | build runtimeError exporterError outIsNull =>
    exact ⟨id, (List.append_nil _).symm⟩
  | addHeader key value =>
    rw [step]
    cases hset : addHeader signal (.live config) key value with
    | error e =>
      exact ⟨id, (List.append_nil _).symm⟩
    | ok config' =>
      obtain ⟨k, v, hkey, hvalue, -, -, rfl⟩ := addHeader_iff.mp hset
      refine ⟨fun hkept => kept_of_addHeader hkept hset, ?_⟩
      simp [set, added, hkey, hvalue]

theorem kept_after {config : Config} (h : Kept config) (calls : List (Call signal)) :
    Kept (after (step features tonic) config calls) :=
  after_invariant (fun config call hkept => (steps features tonic config call).kept hkept) h calls

/-- The headers are those that were accepted, in the order in which they were added. -/
theorem headers_after (config : Config) (calls : List (Call signal)) :
    (after (step features tonic) config calls).headers =
      config.headers ++ (calls.zip (replies (step features tonic) config calls)).filterMap added := by
  induction calls generalizing config with
  | nil => exact (List.append_nil _).symm
  | cons call calls ih =>
    rw [after_cons, ih, (steps features tonic config call).headers, replies_cons, List.zip_cons_cons,
      List.append_assoc]
    cases hadded : added (call, (step features tonic config call).1) with
    | none => rw [List.filterMap_cons_none hadded, Option.toList_none, List.nil_append]
    | some header => rw [List.filterMap_cons_some hadded, Option.toList_some, List.singleton_append]

/-- The branch that was thought unreachable is. -/
theorem configuredTemporality_kept {config : Config} (h : Kept config) :
    ∃ temporality, configuredTemporality config.temporality = .ok temporality := by
  have hle : config.temporality.toNat ≤ 3 := UInt32.le_iff_toNat_le.mp h.temporality
  rw [configuredTemporality]
  rcases htag : config.temporality.toNat with _ | _ | _ | _ | n
  · exact ⟨_, rfl⟩
  · exact ⟨_, rfl⟩
  · exact ⟨_, rfl⟩
  · exact ⟨_, rfl⟩
  · omega

/-! ### What is handed over -/

/-- A lookup finds these entries and nothing else. -/
structure Holds {ν : Type} (lookup : Str → Option ν) (entries : List (Str × ν)) : Prop where
  get : ∀ entry ∈ entries, lookup entry.1 = some entry.2
  only : ∀ key value, lookup key = some value → key ∈ entries.map Prod.fst

theorem holds_ofList {ν : Type} {entries : List (Str × ν)}
    (h : entries.Pairwise fun a b => a.1 ≠ b.1) :
    Holds (fun key => (Std.HashMap.ofList entries)[key]?) entries where
  get entry hentry := by
    have hdistinct : entries.Pairwise fun a b => (a.1 == b.1) = false :=
      h.imp fun hne => beq_eq_false_iff_ne.mpr hne
    exact Std.HashMap.getElem?_ofList_of_mem (beq_self_eq_true _) hdistinct hentry
  only key value hkey := by
    have hmem : key ∈ Std.HashMap.ofList entries := by
      rw [Std.HashMap.mem_iff_isSome_getElem?, hkey]
      rfl
    exact List.contains_iff_mem.mp (Std.HashMap.mem_ofList.mp hmem)

theorem holds_nil {ν : Type} : Holds (fun _ => none : Str → Option ν) [] where
  get _ h := by cases h
  only _ _ h := by cases h

/-- What the documentation of tonic and of its `MetadataMap` says: a key is sent in lower case, and
an insertion replaces the value of its own key and of no other. -/
structure Tonic.Documented (tonic : Tonic ν μ) : Prop where
  folds : ∀ key sent, tonic.keyFromBytes key = some sent → sent = toAsciiLowercase key
  get_new : ∀ key, tonic.get tonic.new key = none
  get_insert : ∀ metadata key value other, tonic.get (tonic.insert metadata key value) other =
    if other = key then some value else tonic.get metadata other
  isEmpty_iff : ∀ metadata, tonic.isEmpty metadata = true ↔ ∀ key, tonic.get metadata key = none

theorem Tonic.Documented.holds_new {tonic : Tonic ν μ} (h : tonic.Documented) :
    Holds (tonic.get tonic.new) [] where
  get _ hentry := by cases hentry
  only key _ hkey := by cases (h.get_new key).symm.trans hkey

theorem Tonic.Documented.holds_insert {tonic : Tonic ν μ} (h : tonic.Documented) {metadata : μ}
    {entries : List (Str × ν)} {key : Str} {value : ν} (hold : Holds (tonic.get metadata) entries)
    (hfresh : ∀ entry ∈ entries, entry.1 ≠ key) :
    Holds (tonic.get (tonic.insert metadata key value)) (entries ++ [(key, value)]) where
  get entry hentry := by
    rw [h.get_insert]
    rcases List.mem_append.mp hentry with hentry | hnew
    · rw [if_neg (hfresh entry hentry)]
      exact hold.get entry hentry
    · obtain rfl := List.mem_singleton.mp hnew
      exact if_pos rfl
  only k v hk := by
    rw [h.get_insert] at hk
    rw [List.map_append, List.mem_append]
    split at hk
    · rename_i heq
      exact .inr (List.mem_singleton.mpr heq)
    · exact .inl (hold.only k v hk)

/-- An entry of the metadata that stands for a header. -/
def Stands (tonic : Tonic ν μ) (header : Str × Str) (entry : Str × ν) : Prop :=
  entry.1 = toAsciiLowercase header.1 ∧ tonic.valueTryFrom header.2 = some entry.2

/-- An exporter sends these headers, each of them once and with its value; without a table it sends
none. -/
def Handed.Carries (tonic : Tonic ν μ) (headers : List (Str × Str)) : Handed μ → Prop
  | .http builder =>
    Holds (builder.headers.elim (fun _ => none) fun table key => table[key]?) headers
  | .grpc builder => ∃ entries, List.Forall₂ (Stands tonic) headers entries ∧
    Holds (builder.headers.elim (fun _ => none) tonic.get) entries

theorem insertMetadata_ok {tonic : Tonic ν μ} (hdoc : tonic.Documented) {m m' : μ}
    {header : Str × Str} (h : insertMetadata tonic m header = .ok m') :
    ∃ entry, Stands tonic header entry ∧ m' = tonic.insert m entry.1 entry.2 := by
  obtain ⟨-, h⟩ := Checked.guard_eq_ok.mp h
  cases hkey : tonic.keyFromBytes header.1 with
  | none =>
    rw [hkey] at h
    cases h
  | some sent =>
    cases hvalue : tonic.valueTryFrom header.2 with
    | none =>
      rw [hkey, hvalue] at h
      cases h
    | some value =>
      rw [hkey, hvalue] at h
      exact ⟨(sent, value), ⟨hdoc.folds _ _ hkey, hvalue⟩, (Except.ok.inj h).symm⟩

theorem exists_of_stands {tonic : Tonic ν μ} {headers : List (Str × Str)} {entries : List (Str × ν)}
    (h : List.Forall₂ (Stands tonic) headers entries) {entry : Str × ν} (hentry : entry ∈ entries) :
    ∃ header ∈ headers, Stands tonic header entry := by
  induction h with
  | nil => cases hentry
  | cons hstands _ ih =>
    rcases List.mem_cons.mp hentry with rfl | hentry
    · exact ⟨_, List.mem_cons_self, hstands⟩
    · obtain ⟨header, hheader, hstands⟩ := ih hentry
      exact ⟨header, List.mem_cons_of_mem _ hheader, hstands⟩

/-- The metadata of the headers, behind what was inserted before. -/
theorem foldlM_insertMetadata {tonic : Tonic ν μ} (hdoc : tonic.Documented)
    {headers before : List (Str × Str)} {entries : List (Str × ν)} {m m' : μ}
    (hbefore : List.Forall₂ (Stands tonic) before entries) (hm : Holds (tonic.get m) entries)
    (hdistinct : (before ++ headers).Pairwise fun a b => toAsciiLowercase a.1 ≠ toAsciiLowercase b.1)
    (h : headers.foldlM (insertMetadata tonic) m = .ok m') :
    ∃ all, List.Forall₂ (Stands tonic) (before ++ headers) all ∧ Holds (tonic.get m') all := by
  induction headers generalizing before entries m with
  | nil =>
    obtain rfl := Except.ok.inj h
    rw [List.append_nil]
    exact ⟨entries, hbefore, hm⟩
  | cons header headers ih =>
    rw [List.foldlM_cons] at h
    obtain ⟨m₁, hinsert, h⟩ := Checked.bind_eq_ok.mp h
    obtain ⟨entry, hstands, rfl⟩ := insertMetadata_ok hdoc hinsert
    have hfresh : ∀ other ∈ entries, other.1 ≠ entry.1 := by
      intro other hother heq
      obtain ⟨old, hold, hold'⟩ := exists_of_stands hbefore hother
      have hne := (List.pairwise_append.mp hdistinct).2.2 old hold header List.mem_cons_self
      exact hne (by rw [← hold'.1, heq, hstands.1])
    rw [List.append_cons] at hdistinct ⊢
    exact ih (List.rel_append hbefore (.cons hstands .nil)) (hdoc.holds_insert hm hfresh) hdistinct h

/-- Metadata that is left out because it is empty. -/
theorem Tonic.Documented.holds_given {tonic : Tonic ν μ} (h : tonic.Documented) {m : μ}
    {entries : List (Str × ν)} (hm : Holds (tonic.get m) entries) :
    Holds ((if tonic.isEmpty m then none else some m).elim (fun _ => none) tonic.get) entries := by
  cases hempty : tonic.isEmpty m with
  | false => exact hm
  | true =>
    refine ⟨fun entry hentry => ?_, fun key value hkey => by cases hkey⟩
    cases ((h.isEmpty_iff m).mp hempty entry.1).symm.trans (hm.get entry hentry)

theorem carries_of_buildExporter {config : Config} (h : Kept config)
    {tonic : Tonic ν μ} (hdoc : tonic.Documented) {features : Features}
    {runtimeError : Option String} {handed : Handed μ}
    (hbuild : buildExporter signal features tonic runtimeError config = .ok handed) :
    handed.Carries tonic config.headers := by
  obtain ⟨⟨⟩, -, hbuild⟩ := Checked.bind_eq_ok.mp hbuild
  obtain ⟨⟨⟩, -, hbuild⟩ := Checked.bind_eq_ok.mp hbuild
  split at hbuild
  · obtain ⟨temporality, -, hbuild⟩ := Checked.bind_eq_ok.mp hbuild
    obtain rfl := Except.ok.inj hbuild
    have hdistinct : config.headers.Pairwise fun a b => a.1 ≠ b.1 :=
      h.distinct.imp fun hne heq => hne (congrArg toAsciiLowercase heq)
    have hholds := holds_ofList hdistinct
    cases hheaders : config.headers with
    | nil => exact holds_nil
    | cons header headers =>
      rw [hheaders] at hholds
      exact hholds
  · obtain ⟨metadata, hmetadata, hbuild⟩ := Checked.bind_eq_ok.mp hbuild
    cases runtimeError with
    | some err => cases hbuild
    | none =>
      obtain ⟨temporality, -, hbuild⟩ := Checked.bind_eq_ok.mp hbuild
      obtain rfl := Except.ok.inj hbuild
      obtain ⟨entries, hentries, hholds⟩ :=
        foldlM_insertMetadata hdoc .nil hdoc.holds_new h.distinct hmetadata
      exact ⟨entries, hentries, hdoc.holds_given hholds⟩

/-- **No header is lost**: after any calls, an exporter that is handed over carries every header
whose `add_header` was accepted, once and with the value that it was given, and no other. -/
theorem headers_carried (signal : Signal) (features : Features) (tonic : Tonic ν μ)
    (hdoc : tonic.Documented) (calls : List (Call signal)) (runtimeError : Option String)
    (handed : Handed μ)
    (h : buildExporter signal features tonic runtimeError
      (after (step features tonic) .default calls) = .ok handed) :
    handed.Carries tonic
      ((calls.zip (replies (step features tonic) .default calls)).filterMap added) := by
  have hheaders := headers_after features tonic .default calls
  have hcarries := carries_of_buildExporter (kept_after features tonic kept_default calls) hdoc h
  rw [hheaders] at hcarries
  exact hcarries

/-- Every cargo feature of the transports. -/
def Features.all : Features := ⟨true, true, true, true, true, true⟩

/-- A tonic that takes keys of letters and values of one byte, and puts each insertion before those
it replaces. -/
def letterTonic : Tonic UInt8 (List (Str × UInt8)) where
  keyFromBytes key := if key.all Char.isAlpha then some (toAsciiLowercase key) else none
  valueTryFrom value := value.head?.map fun c => UInt8.ofNat c.toNat
  new := []
  insert table key value := (key, value) :: table
  get table key := table.lookup key
  isEmpty table := table.isEmpty

theorem letterTonic_documented : letterTonic.Documented where
  folds key sent h := by
    have h : (if key.all Char.isAlpha then some (toAsciiLowercase key) else none) = some sent := h
    split at h
    · exact (Option.some.inj h).symm
    · cases h
  get_new _ := rfl
  get_insert table key value other := by
    show ((key, value) :: table).lookup other = _
    by_cases heq : other = key
    · subst heq
      rw [List.lookup_cons_self, if_pos rfl]
    · rw [List.lookup_cons, beq_eq_false_iff_ne.mpr heq, if_neg heq]
      rfl
  isEmpty_iff table := by
    cases table with
    | nil => exact ⟨fun _ _ => rfl, fun _ => rfl⟩
    | cons entry table =>
      refine ⟨fun h => (by cases h), fun h => ?_⟩
      cases List.lookup_cons_self.symm.trans (h entry.1)

/-- The headers `A` and `a`, for gRPC. -/
def twoHeaders : List (Call .trace) :=
  [.setTransport 1, .addHeader (.elems [0x41]) (.elems [0x31]),
    .addHeader (.elems [0x61]) (.elems [0x32])]

/-- The first of the two is sent, in lower case. -/
theorem headers_carried_first :
    (Handed.grpc ⟨none, none, some [(['a'], 0x31)], none,
      none⟩).Carries letterTonic [(['A'], ['1'])] :=
  headers_carried .trace .all letterTonic letterTonic_documented twoHeaders none _ rfl

/-! ### What the messages say -/

/-- What a caller is told: the status, the message, and whether there is an exporter. -/
def Reply.diagnostics : Reply μ → OtelStatus × Option String × Bool
  | .status (.ok _) => (.ok, none, false)
  | .status (.error e) => (e.status, some e.message, false)
  | .exporter call => (call.status, call.message, (call.out.bind id).isSome)

def Call.isBuild : Call signal → Bool
  | .build _ _ _ => true
  | _ => false

/-- Two calls that differ in the value of a header only, which both are texts that tonic takes, or
that it does not take.  Of what tokio and opentelemetry-otlp answer to a `build` it is assumed that
it does not depend on such values. -/
inductive SameButValue (tonic : Tonic ν μ) : Call signal → Call signal → Prop where
  | refl (call : Call signal) (hsetter : call.isBuild = false) : SameButValue tonic call call
  | addHeader (key value value' : OtelStringView) {v v' : Str} (hvalue : asStr value = .ok v)
      (hvalue' : asStr value' = .ok v')
      (htaken : (tonic.valueTryFrom v).isSome = (tonic.valueTryFrom v').isSome) :
      SameButValue tonic (.addHeader key value) (.addHeader key value')
  | build {runtimeError runtimeError' exporterError exporterError' : Option String}
      (outIsNull : Bool) (hruntime : runtimeError = runtimeError')
      (hexporter : exporterError = exporterError') :
      SameButValue tonic (.build runtimeError exporterError outIsNull)
        (.build runtimeError' exporterError' outIsNull)

/-- Two headers with the same key, and values that tonic takes or does not take. -/
def SameKey (tonic : Tonic ν μ) (a b : Str × Str) : Prop :=
  a.1 = b.1 ∧ (tonic.valueTryFrom a.2).isSome = (tonic.valueTryFrom b.2).isSome

/-- Two configurations that differ in the values of headers only. -/
def SameButValues (tonic : Tonic ν μ) (a b : Config) : Prop :=
  ∃ headers, b = { a with headers := headers } ∧ List.Forall₂ (SameKey tonic) a.headers headers

section Agrees

variable {tonic : Tonic ν μ} {config : Config} {headers : List (Str × Str)}

theorem any_sameKey {a b : List (Str × Str)} (h : List.Forall₂ (SameKey tonic) a b) (key : Str) :
    (a.any fun header => eqIgnoreAsciiCase header.1 key) =
      b.any fun header => eqIgnoreAsciiCase header.1 key := by
  induction h with
  | nil => rfl
  | cons hsame _ ih => rw [List.any_cons, List.any_cons, ih, hsame.1]

theorem addHeader_agrees (h : List.Forall₂ (SameKey tonic) config.headers headers)
    {key value value' : OtelStringView}
    (hvalue : Agrees (fun v v' => (tonic.valueTryFrom v).isSome = (tonic.valueTryFrom v').isSome)
      (asStr value) (asStr value')) :
    Agrees (SameButValues tonic) (addHeader signal (.live config) key value)
      (addHeader signal (.live { config with headers := headers }) key value') := by
  rw [addHeader, addHeader, checkedRef_live, checkedRef_live, Checked.ok_bind, Checked.ok_bind]
  refine agrees_bind_same fun k _ => ?_
  split
  · rfl
  · simp only [any_sameKey h]
    split
    · rfl
    · refine hvalue.bind fun v v' htaken => ⟨headers ++ [(k, v')], rfl, ?_⟩
      exact List.rel_append h (.cons ⟨rfl, htaken⟩ .nil)

/-- A header is refused by the metadata for its key, or for a value that tonic does not take. -/
theorem insertMetadata_agrees {a b : Str × Str} (h : SameKey tonic a b) (m m' : μ) :
    Agrees (fun _ _ => True) (insertMetadata tonic m a) (insertMetadata tonic m' b) := by
  obtain ⟨key, value⟩ := a
  obtain ⟨key', value'⟩ := b
  obtain ⟨rfl, htaken⟩ := h
  unfold insertMetadata
  split
  · rfl
  · cases tonic.keyFromBytes key with
    | none => rfl
    | some sent =>
      simp only at htaken ⊢
      cases hvalue : tonic.valueTryFrom value with
      | none =>
        cases hvalue' : tonic.valueTryFrom value' with
        | none => rfl
        | some _ => simp [hvalue, hvalue'] at htaken
      | some _ =>
        cases hvalue' : tonic.valueTryFrom value' with
        | none => simp [hvalue, hvalue'] at htaken
        | some _ => exact trivial

theorem buildGrpcMetadata_agrees {a b : List (Str × Str)} (h : List.Forall₂ (SameKey tonic) a b)
    (m m' : μ) :
    Agrees (fun _ _ => True) (a.foldlM (insertMetadata tonic) m)
      (b.foldlM (insertMetadata tonic) m') := by
  induction h generalizing m m' with
  | nil => exact trivial
  | cons hsame _ ih =>
    rw [List.foldlM_cons, List.foldlM_cons]
    exact (insertMetadata_agrees hsame m m').bind fun m₁ m₁' _ => ih m₁ m₁'

/-- Two exporters of one transport. -/
def SameTransport : Handed μ → Handed μ → Prop
  | .http _, .http _ => True
  | .grpc _, .grpc _ => True
  | _, _ => False

theorem buildExporter_agrees (features : Features) (runtimeError : Option String)
    (h : List.Forall₂ (SameKey tonic) config.headers headers) :
    Agrees SameTransport (buildExporter signal features tonic runtimeError config)
      (buildExporter signal features tonic runtimeError { config with headers := headers }) := by
  refine agrees_bind_same fun _ _ => agrees_bind_same fun _ _ => ?_
  cases config.transport with
  | httpProtobuf => exact agrees_bind_same fun _ _ => trivial
  | grpc =>
    refine (buildGrpcMetadata_agrees h tonic.new tonic.new).bind fun m m' _ => ?_
    cases runtimeError with
    | some err => rfl
    | none => exact agrees_bind_same fun _ _ => trivial

theorem finish_agrees {a b : Handed μ} (h : SameTransport a b) (exporterError : Option String) :
    Agrees SameTransport (finish signal exporterError a) (finish signal exporterError b) := by
  cases exporterError with
  | none => exact h
  | some err =>
    cases a with
    | http _ =>
      cases b with
      | http _ => rfl
      | grpc _ => cases h
    | grpc _ =>
      cases b with
      | http _ => cases h
      | grpc _ => rfl

theorem set_agrees {a b : Config} {ra rb : Except Fail Config} (h : SameButValues tonic a b)
    (hresult : Agrees (SameButValues tonic) ra rb) :
    (set a ra : Reply μ × Config).1.diagnostics = (set b rb : Reply μ × Config).1.diagnostics ∧
      SameButValues tonic (set a ra : Reply μ × Config).2 (set b rb : Reply μ × Config).2 := by
  rcases Loops.agrees_iff.mp hresult with ⟨e, rfl, rfl⟩ | ⟨a', b', rfl, rfl, h'⟩
  · exact ⟨rfl, h⟩
  · exact ⟨rfl, h'⟩

end Agrees

theorem step_diagnostics (features : Features) {tonic : Tonic ν μ} {a b : Config}
    {call call' : Call signal} (h : SameButValues tonic a b) (hcall : SameButValue tonic call call') :
    (step features tonic a call).1.diagnostics = (step features tonic b call').1.diagnostics ∧
      SameButValues tonic (step features tonic a call).2 (step features tonic b call').2 := by
  obtain ⟨headers, rfl, hheaders⟩ := h
  have h : SameButValues tonic a { a with headers := headers } := ⟨headers, rfl, hheaders⟩
  cases hcall with
  | addHeader key value value' hvalue hvalue' htaken =>
    refine set_agrees h (addHeader_agrees hheaders ?_)
    rw [hvalue, hvalue']
    exact htaken
  | build outIsNull hruntime hexporter =>
    subst hruntime hexporter
    rename_i runtimeError exporterError
    refine ⟨?_, h⟩
    have hbuilt : Agrees SameTransport
        (buildExporter signal features tonic runtimeError a >>= finish signal exporterError)
        (buildExporter signal features tonic runtimeError { a with headers := headers } >>=
          finish signal exporterError) :=
      (buildExporter_agrees features runtimeError hheaders).bind
        fun _ _ hsame => finish_agrees hsame exporterError
    cases outIsNull with
    | true => rfl
    | false =>
      rcases Loops.agrees_iff.mp hbuilt with ⟨e, ha, hb⟩ | ⟨x, y, ha, hb, -⟩
      · simp only [step, build, checkedRef_live, Checked.ok_bind, ha, hb, withOut_error,
          Reply.diagnostics]
      · simp only [step, build, checkedRef_live, Checked.ok_bind, ha, hb, withOut_ok,
          Reply.diagnostics]
        rfl
  | refl _ hsetter =>
    cases call with
    | setEndpoint endpoint =>
      refine set_agrees h ?_
      rw [setEndpoint, setEndpoint, checkedRef_live, checkedRef_live, Checked.ok_bind,
        Checked.ok_bind]
      exact agrees_bind_same fun _ _ => ⟨headers, rfl, hheaders⟩
    | addHeader key value =>
      refine set_agrees h (addHeader_agrees hheaders ?_)
      cases asStr value with
      | error e => rfl
      | ok v => rfl
    | setTimeoutMillis timeoutMillis =>
      have hset (timeout : Option UInt64) : SameButValues tonic { a with timeoutMillis := timeout }
          { a with timeoutMillis := timeout, headers := headers } :=
        ⟨headers, rfl, hheaders⟩
      exact set_agrees h (Loops.agrees_iff.mpr (.inr ⟨_, _, rfl, rfl, hset _⟩))
    | setTransport transport =>
      refine set_agrees h ?_
      rw [setTransport, setTransport, checkedRef_live, checkedRef_live, Checked.ok_bind,
        Checked.ok_bind]
      split
      · exact ⟨headers, rfl, hheaders⟩
      · exact ⟨headers, rfl, hheaders⟩
      · rfl
    | setCompression compression =>
      refine set_agrees h ?_
      rw [setCompression, setCompression, checkedRef_live, checkedRef_live, Checked.ok_bind,
        Checked.ok_bind]
      split
      · exact ⟨headers, rfl, hheaders⟩
      · exact ⟨headers, rfl, hheaders⟩
      · exact ⟨headers, rfl, hheaders⟩
      · rfl
    | setTemporality temporality _ =>
      refine set_agrees h ?_
      rw [setTemporality, setTemporality, checkedRef_live, checkedRef_live, Checked.ok_bind,
        Checked.ok_bind]
      split
      · rfl
      · exact ⟨headers, rfl, hheaders⟩
    | build runtimeError exporterError outIsNull => cases hsetter

/-- **The value of a header is never told**: two runs that differ in such values only get the same
statuses and the same messages, and an exporter in the same calls. -/
theorem diagnostics_eq (signal : Signal) (features : Features) (tonic : Tonic ν μ)
    {calls calls' : List (Call signal)} (h : List.Forall₂ (SameButValue tonic) calls calls') :
    (replies (step features tonic) .default calls).map Reply.diagnostics =
      (replies (step features tonic) .default calls').map Reply.diagnostics :=
  map_replies_eq (fun _ _ _ _ hconfig hcall => step_diagnostics features hconfig hcall)
    ⟨[], rfl, .nil⟩ h

/-- A header and the exporter that sends it. -/
def oneHeader (value : List UInt8) : List (Call .log) :=
  [.addHeader (.elems [0x41]) (.elems value), .build none none false]

/-- A password and another one. -/
theorem diagnostics_eq_password :
    (replies (step .all letterTonic) .default (oneHeader [0x31])).map Reply.diagnostics =
      (replies (step .all letterTonic) .default (oneHeader [0x32])).map Reply.diagnostics :=
  diagnostics_eq .log .all letterTonic
    (.cons (.addHeader _ _ _ rfl rfl rfl) (.cons (.build false rfl rfl) .nil))

end Runs

end OtelC.Otlp
