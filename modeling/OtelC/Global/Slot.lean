import OtelC.Abi
import OtelC.Lib.Ticket

/-!
# The global provider slot

The Metrics and the Logs half of the library each own one slot for the process-global provider,
behind a lock of its own.  Both are the same code with other texts: installing takes the next
registration id and swaps the slot, and a provider can be taken out again with its id only.

What stands behind the lock is a value; a critical section is one step from value to value.
-/

namespace OtelC.Global

/-- The texts in which the two signals differ. -/
structure Signal where
  nullVtable : String
  incompatibleVtable : String
  nullOut : String
  zeroToken : String

def metrics : Signal where
  nullVtable := "register_global_meter_provider: vtable must not be NULL"
  incompatibleVtable :=
    "register_global_meter_provider: incompatible metrics implementation ABI"
  nullOut := "register_global_meter_provider_with_token: out_id must not be NULL"
  zeroToken := "unregister_global_meter_provider: registration_id must not be zero"

def logs : Signal where
  nullVtable := "register_global_logger_provider: vtable must not be NULL"
  incompatibleVtable :=
    "register_global_logger_provider: incompatible logs implementation ABI"
  nullOut := "register_global_logger_provider_with_token: out_id must not be NULL"
  zeroToken := "unregister_global_logger_provider: registration_id must not be zero"

/-- `GlobalMeterProvider` and `GlobalLoggerProvider`: the provider is `none` while the vtable is
NULL. -/
structure GlobalProvider (κ : Type) where
  provider : Option κ
  registrationId : UInt64
  deriving DecidableEq

variable {κ : Type}

def GlobalProvider.empty : GlobalProvider κ := ⟨none, 0⟩

/-- A vtable argument, as far as its header is read. -/
inductive Vtable where
  | null
  | incompatible
  | compatible
  deriving DecidableEq

/-- The checks of `install_global_…_provider`. -/
def checkVtable (signal : Signal) : Vtable → Except Fail Unit
  | .null => fail .invalidArgument signal.nullVtable
  | .incompatible => fail .invalidConfig signal.incompatibleVtable
  | .compatible => .ok ()

/-- The `out_id` of a registration; the entry point of the Metrics signal without a token has
none. -/
inductive OutId where
  | absent
  | null
  | writable
  deriving DecidableEq

/-- The checks of a registration, before anything is changed. -/
def checkRegister (signal : Signal) (outId : OutId) (vtable : Vtable) : Except Fail Unit :=
  match outId with
  | .null => fail .invalidArgument signal.nullOut
  | _ => checkVtable signal vtable

/-- `next_registration_id`, with the counter it leaves: zero is skipped. -/
def nextRegistrationId (counter : UInt64) : UInt64 × UInt64 :=
  if counter = 0 then (counter + 1, counter + 1 + 1) else (counter, counter + 1)

/-- The write-locked part of `install_global_…_provider`, with the provider it takes out. -/
def GlobalProvider.install (global : GlobalProvider κ) (provider : κ) (registrationId : UInt64) :
    GlobalProvider κ × Option κ := (⟨some provider, registrationId⟩, global.provider)

/-- The write-locked part of `unregister_global_…_provider`: with another id than the installed
one nothing is changed. -/
def GlobalProvider.unregister (global : GlobalProvider κ) (registrationId : UInt64) :
    GlobalProvider κ × Option κ :=
  if global.registrationId ≠ registrationId then (global, none) else (.empty, global.provider)

theorem unregister_of_ne {global : GlobalProvider κ} {registrationId : UInt64}
    (h : global.registrationId ≠ registrationId) :
    global.unregister registrationId = (global, none) := if_pos h

theorem unregister_self (global : GlobalProvider κ) :
    global.unregister global.registrationId = (.empty, global.provider) := if_neg (by simp)

/-! ### Registration ids -/

/-- Registration ids are counted in 64 bits. -/
def idRange : Nat := 2 ^ 64

theorem one_lt_idRange : 1 < idRange := Ticket.one_lt_range

theorem nextRegistrationId_fst (counter : UInt64) :
    (nextRegistrationId counter).1.toNat = Ticket.skipZero counter.toNat := by
  rw [nextRegistrationId]
  by_cases h : counter = 0
  · subst h
    rfl
  · rw [if_neg h, Ticket.skipZero_toNat h]

theorem nextRegistrationId_snd (counter : UInt64) : (nextRegistrationId counter).2.toNat =
    (Ticket.skipZero counter.toNat + 1) % idRange := by
  rw [nextRegistrationId]
  by_cases h : counter = 0
  · subst h
    rfl
  · rw [if_neg h, Ticket.skipZero_toNat h]
    exact Ticket.toNat_succ counter

/-- The ids that were taken are the first tickets of the counter. -/
structure Ids (counter : UInt64) (taken : List UInt64) : Prop where
  counter_eq : Ticket.skipZero counter.toNat = Ticket.nth idRange taken.length
  taken_eq : taken.map UInt64.toNat = Ticket.firstTickets idRange taken.length

theorem ids_start : Ids 1 [] := ⟨rfl, rfl⟩

theorem Ids.next {counter : UInt64} {taken : List UInt64} (h : Ids counter taken) :
    Ids (nextRegistrationId counter).2 (taken ++ [(nextRegistrationId counter).1]) := by
  constructor
  · rw [nextRegistrationId_snd, h.counter_eq, List.length_append, List.length_singleton]
    exact Ticket.skipZero_succ one_lt_idRange _
  · rw [List.map_append, List.map_singleton, h.taken_eq, List.length_append, List.length_singleton,
      Ticket.firstTickets_succ, nextRegistrationId_fst, h.counter_eq]

theorem Ids.ne_zero {counter : UInt64} {taken : List UInt64} (h : Ids counter taken) {id : UInt64}
    (hid : id ∈ taken) : id ≠ 0 := by
  rintro rfl
  have hmem := List.mem_map_of_mem (f := UInt64.toNat) hid
  rw [h.taken_eq] at hmem
  obtain ⟨k, -, hk⟩ := Ticket.mem_firstTickets.mp hmem
  exact absurd hk (Ticket.nth_pos k).ne'

theorem nextRegistrationId_ne_zero (counter : UInt64) : (nextRegistrationId counter).1 ≠ 0 := by
  rw [nextRegistrationId]
  by_cases h : counter = 0
  · subst h
    decide
  · rw [if_neg h]
    exact h

/-- The ids are distinct just while there are fewer than `2 ^ 64` of them. -/
theorem Ids.nodup_iff {counter : UInt64} {taken : List UInt64} (h : Ids counter taken) :
    taken.Nodup ↔ taken.length < idRange := by
  rw [← Ticket.nodup_firstTickets_iff one_lt_idRange, ← h.taken_eq]
  exact (List.nodup_map_iff fun _ _ => UInt64.toNat_inj.mp).symm

end OtelC.Global
