import OtelC.Global.Slot
import OtelC.Lib.Ledger

/-!
# Who owns a global provider

Any number of threads register, unregister and use the global provider of one signal.  A call takes
several steps, and the steps of different calls interleave: taking a registration id, swapping the
slot behind its lock, and freeing the provider that came out of it, outside the lock.  A ledger
tells who holds which provider context.

* `Invariant.step`: the ledger stays sound, and what the slot and the calls hold is what the ledger
  says they hold.
* `invariant_run`: the same in every state that a run reaches.
-/

namespace OtelC.Global

open Ledger (Life)

/-! ### Steps -/

/-- Who holds a provider context. -/
inductive Holder where
  | caller
  | slot
  | call (thread : Nat)
  deriving DecidableEq

abbrev Entry := Ledger.Event Nat Holder

/-- What a thread is doing. -/
inductive Pc where
  | idle
  | installing (ctx : Nat) (id : UInt64)
  | freeing (ctx : Nat) (id : Option UInt64)
  | retaining (ctx : Nat)
  deriving DecidableEq

/-- The context a call holds. -/
def Pc.ctx : Pc → Option Nat
  | .idle => none
  | .installing ctx _ => some ctx
  | .freeing ctx _ => some ctx
  | .retaining ctx => some ctx

/-- What a finished call answers. -/
structure Answer where
  status : OtelStatus
  message : Option String
  id : Option UInt64

structure State where
  global : GlobalProvider Nat
  counter : UInt64
  calls : Nat → Pc
  /-- What happened to the contexts so far. -/
  ledger : List Entry
  /-- The contexts whose registration succeeded. -/
  registered : List Nat
  /-- The ids that were taken, and those that were handed out to a caller. -/
  taken : List UInt64
  handedOut : List UInt64

def State.initial : State := ⟨.empty, 1, fun _ => .idle, [], [], [], []⟩

def State.life (s : State) (ctx : Nat) : Life Holder := Ledger.lives s.ledger ctx

def State.setCall (s : State) (thread : Nat) (pc : Pc) : State :=
  { s with calls := Function.update s.calls thread pc }

def State.handOut (s : State) (id : Option UInt64) : State :=
  { s with handedOut := s.handedOut ++ id.toList }

def State.log (s : State) (e : Entry) : State := { s with ledger := s.ledger ++ [e] }

inductive Action where
  /-- An implementation makes a context, which the caller then owns. -/
  | create (ctx : Nat)
  /-- The caller frees a context of its own. -/
  | discard (ctx : Nat)
  | register (thread : Nat) (vtable : Vtable) (outId : OutId) (ctx : Nat)
  | swap (thread : Nat)
  | unregister (thread : Nat) (id : UInt64)
  | free (thread : Nat)
  /-- `retain_global_…`, with what `provider_retain` returns. -/
  | retain (thread : Nat) (made : Option Nat)
  | use (thread : Nat)
  | release (thread : Nat)

def answered (s : State) (answer : Answer) : Option (State × Option Answer) := some (s, some answer)

def continued (s : State) : Option (State × Option Answer) := some (s, none)

/-- Put the provider that came out of the slot into the hands of the call that took it out. -/
def takeOut (s : State) (thread : Nat) (old : Option Nat) (id : Option UInt64) :
    Option (State × Option Answer) :=
  match old with
  | none => answered ((s.setCall thread .idle).handOut id) ⟨.ok, none, id⟩
  | some ctx => continued ((s.setCall thread (.freeing ctx id)).log (.move ctx (.call thread)))

/-- One step of one thread; `none` when the thread is not there or the caller does not own what it
passes. -/
def step (signal : Signal) (s : State) : Action → Option (State × Option Answer)
  | .create ctx => if s.life ctx = .unborn then continued (s.log (.acquire ctx .caller)) else none
  | .discard ctx =>
    if s.life ctx = .held .caller then continued (s.log (.release ctx)) else none
  | .register thread vtable outId ctx =>
    if s.calls thread = .idle ∧ s.life ctx = .held .caller then
      match checkRegister signal outId vtable with
      | .error e => answered s ⟨e.status, some e.message, none⟩
      | .ok () =>
        let (id, counter) := nextRegistrationId s.counter
        continued (({ s with counter := counter, taken := s.taken ++ [id] }.setCall thread
          (.installing ctx id)).log (.move ctx (.call thread)))
    else none
  | .swap thread =>
    match s.calls thread with
    | .installing ctx id =>
      let (global, old) := s.global.install ctx id
      takeOut ({ s with global := global, registered := s.registered ++ [ctx] }.log
        (.move ctx .slot)) thread old (some id)
    | _ => none
  | .unregister thread id =>
    if s.calls thread = .idle then
      if id = 0 then answered s ⟨.invalidArgument, some signal.zeroToken, none⟩
      else
        let (global, old) := s.global.unregister id
        takeOut { s with global := global } thread old none
    else none
  | .free thread =>
    match s.calls thread with
    | .freeing ctx id =>
      answered (((s.setCall thread .idle).log (.release ctx)).handOut id) ⟨.ok, none, id⟩
    | _ => none
  | .retain thread made =>
    if s.calls thread = .idle then
      match s.global.provider with
      | none => continued s
      | some ctx =>
        match made with
        | none => continued (s.log (.use ctx))
        | some retained =>
          if s.life retained = .unborn then
            continued (((s.log (.use ctx)).setCall thread (.retaining retained)).log
              (.acquire retained (.call thread)))
          else none
    else none
  | .use thread =>
    match s.calls thread with
    | .retaining ctx => continued (s.log (.use ctx))
    | _ => none
  | .release thread =>
    match s.calls thread with
    | .retaining ctx => continued ((s.setCall thread .idle).log (.release ctx))
    | _ => none

/-- The state after an interleaving of steps. -/
def run (signal : Signal) (s : State) : List Action → Option State
  | [] => some s
  | action :: actions => (step signal s action).bind fun result => run signal result.1 actions

/-! ### The invariant -/

/-- The holders of a state, the callers apart. -/
def State.holds (s : State) : Holder → Nat → Prop
  | .caller, _ => False
  | .slot, ctx => s.global.provider = some ctx
  | .call thread, ctx => (s.calls thread).ctx = some ctx

def Tracked (holder : Holder) : Prop := holder ≠ .caller

/-- A registered context is in the slot, on its way out of it, or released. -/
def State.Settled (s : State) (ctx : Nat) : Prop :=
  s.life ctx = .held .slot ∨ (∃ thread id, s.calls thread = .freeing ctx id) ∨
    s.life ctx = .released

structure Invariant (s : State) : Prop where
  sound : Ledger.Sound s.ledger
  agrees : Ledger.Agrees Tracked s.life s.holds
  ids : Ids s.counter s.taken
  registered : ∀ ctx ∈ s.registered, s.Settled ctx

theorem life_log (s : State) (e : Entry) : (s.log e).life = Ledger.apply s.life e :=
  Ledger.lives_concat s.ledger e

theorem sound_log {s : State} (h : Ledger.Sound s.ledger) {e : Entry}
    (hlegal : Ledger.Legal s.life e) : Ledger.Sound (s.log e).ledger := .concat h hlegal

theorem setCall_self (s : State) (thread : Nat) (pc : Pc) : (s.setCall thread pc).calls thread = pc :=
  Function.update_self _ _ _

theorem setCall_of_ne (s : State) {thread other : Nat} (pc : Pc) (h : other ≠ thread) :
    (s.setCall thread pc).calls other = s.calls other := Function.update_of_ne h _ _

theorem invariant_initial : Invariant State.initial := {
  sound := .nil
  agrees := by
    intro holder _ ctx
    cases holder with
    | caller => exact ⟨fun h => (by cases h), fun h => h.elim⟩
    | slot => exact ⟨fun h => (by cases h), fun h => (by cases h)⟩
    | call thread => exact ⟨fun h => (by cases h), fun h => (by cases h)⟩
  ids := ids_start
  registered := fun ctx h => absurd h List.not_mem_nil }

/-! ### Who holds what after a step -/

theorem tracked_slot : Tracked .slot := Holder.noConfusion

theorem tracked_call (thread : Nat) : Tracked (.call thread) := Holder.noConfusion

section Agreement

variable {s : State} {ctx thread : Nat} {pc : Pc}

/-- What is unborn or with its caller is held neither by the slot nor by a call. -/
theorem not_holds_of_life (h : Ledger.Agrees Tracked s.life s.holds)
    (hlife : ∀ holder, Tracked holder → s.life ctx ≠ .held holder) {holder : Holder}
    (hholder : Tracked holder) : ¬s.holds holder ctx :=
  fun hholds => hlife holder hholder ((h holder hholder ctx).mpr hholds)

/-- A context nobody here holds is taken by a call. -/
theorem agrees_take (h : Ledger.Agrees Tracked s.life s.holds)
    (hlife : ∀ holder, Tracked holder → s.life ctx ≠ .held holder)
    (hidle : (s.calls thread).ctx = none) (hpc : pc.ctx = some ctx) :
    Ledger.Agrees Tracked (Function.update s.life ctx (.held (.call thread)))
      (s.setCall thread pc).holds := by
  refine h.update ?_ ?_
  · intro holder hholder
    have hnot := not_holds_of_life h hlife hholder
    cases holder with
    | caller => exact absurd rfl hholder
    | slot => exact ⟨fun heq => (by cases heq), fun hslot => absurd hslot hnot⟩
    | call other =>
      by_cases hthread : other = thread
      · subst hthread
        rw [State.holds, setCall_self, hpc]
        exact ⟨fun _ => rfl, fun _ => rfl⟩
      · rw [State.holds, setCall_of_ne s pc hthread]
        refine ⟨fun heq => ?_, fun hcall => absurd hcall hnot⟩
        exact absurd (Holder.call.inj (Life.held.inj heq)).symm hthread
  · intro holder _ x hx
    cases holder with
    | caller => exact Iff.rfl
    | slot => exact Iff.rfl
    | call other =>
      by_cases hthread : other = thread
      · subst hthread
        rw [State.holds, State.holds, setCall_self, hpc, hidle]
        exact ⟨fun heq => absurd (Option.some.inj heq).symm hx, fun heq => (by cases heq)⟩
      · rw [State.holds, State.holds, setCall_of_ne s pc hthread]

/-- A call lets go of its context. -/
theorem agrees_release (h : Ledger.Agrees Tracked s.life s.holds)
    (hcall : (s.calls thread).ctx = some ctx) (hpc : pc.ctx = none) :
    Ledger.Agrees Tracked (Function.update s.life ctx .released) (s.setCall thread pc).holds := by
  have honly : ∀ holder, Tracked holder → s.holds holder ctx → holder = .call thread :=
    fun holder hholder hholds => h.holder_eq hholder (tracked_call thread) hholds hcall
  refine h.update ?_ ?_
  · intro holder hholder
    refine ⟨fun heq => (by cases heq), fun hholds => ?_⟩
    cases holder with
    | caller => exact absurd rfl hholder
    | slot => cases honly .slot hholder hholds
    | call other =>
      by_cases hthread : other = thread
      · subst hthread
        rw [State.holds, setCall_self, hpc] at hholds
        cases hholds
      · rw [State.holds, setCall_of_ne s pc hthread] at hholds
        exact absurd (Holder.call.inj (honly _ hholder hholds)) hthread
  · intro holder _ x hx
    cases holder with
    | caller => exact Iff.rfl
    | slot => exact Iff.rfl
    | call other =>
      by_cases hthread : other = thread
      · subst hthread
        rw [State.holds, State.holds, setCall_self, hpc, hcall]
        exact ⟨fun heq => (by cases heq), fun heq => absurd (Option.some.inj heq).symm hx⟩
      · rw [State.holds, State.holds, setCall_of_ne s pc hthread]

/-- The holders inside a critical section: the slot still holds what came out of it, and the call
of the thread holds nothing. -/
def State.holdsInside (s : State) (thread : Nat) (old : Option Nat) : Holder → Nat → Prop
  | .caller, _ => False
  | .slot, ctx => s.global.provider = some ctx ∨ old = some ctx
  | .call other, ctx => other ≠ thread ∧ (s.calls other).ctx = some ctx

/-- At its end the call takes what came out of the slot. -/
theorem agrees_takeOut {old : Nat}
    (h : Ledger.Agrees Tracked s.life (s.holdsInside thread (some old)))
    (hprovider : s.global.provider ≠ some old) (hpc : pc.ctx = some old) :
    Ledger.Agrees Tracked (Function.update s.life old (.held (.call thread)))
      (s.setCall thread pc).holds := by
  have honly : ∀ holder, Tracked holder → s.holdsInside thread (some old) holder old →
      holder = .slot :=
    fun holder hholder hholds => h.holder_eq hholder tracked_slot hholds (.inr rfl)
  refine h.update ?_ ?_
  · intro holder hholder
    cases holder with
    | caller => exact absurd rfl hholder
    | slot => exact ⟨fun heq => (by cases heq), fun hslot => absurd hslot hprovider⟩
    | call other =>
      by_cases hthread : other = thread
      · subst hthread
        rw [State.holds, setCall_self, hpc]
        exact ⟨fun _ => rfl, fun _ => rfl⟩
      · rw [State.holds, setCall_of_ne s pc hthread]
        refine ⟨fun heq => ?_, fun hcall => ?_⟩
        · exact absurd (Holder.call.inj (Life.held.inj heq)).symm hthread
        · cases honly _ hholder ⟨hthread, hcall⟩
  · intro holder _ x hx
    cases holder with
    | caller => exact Iff.rfl
    | slot =>
      refine ⟨.inl, fun hslot => hslot.resolve_right fun heq => ?_⟩
      exact hx (Option.some.inj heq).symm
    | call other =>
      by_cases hthread : other = thread
      · subst hthread
        rw [State.holds, setCall_self, hpc]
        refine ⟨fun heq => absurd (Option.some.inj heq).symm hx, fun hcall => ?_⟩
        exact absurd rfl hcall.1
      · rw [State.holds, setCall_of_ne s pc hthread]
        exact ⟨fun hcall => ⟨hthread, hcall⟩, fun hcall => hcall.2⟩

theorem agrees_leave (h : Ledger.Agrees Tracked s.life (s.holdsInside thread none))
    (hpc : pc.ctx = none) : Ledger.Agrees Tracked s.life (s.setCall thread pc).holds := by
  refine h.congr ?_
  intro holder _ x
  cases holder with
  | caller => exact Iff.rfl
  | slot => exact ⟨.inl, fun hslot => hslot.resolve_right (by simp)⟩
  | call other =>
    by_cases hthread : other = thread
    · subst hthread
      rw [State.holds, setCall_self, hpc]
      exact ⟨fun heq => (by cases heq), fun hcall => absurd rfl hcall.1⟩
    · rw [State.holds, setCall_of_ne s pc hthread]
      exact ⟨fun hcall => ⟨hthread, hcall⟩, fun hcall => hcall.2⟩

end Agreement

/-! ### One step -/

theorem State.Settled.keep {s s' : State} {ctx : Nat} (h : s.Settled ctx)
    (hlife : s'.life ctx = s.life ctx)
    (hcalls : ∀ thread id, s.calls thread = .freeing ctx id → s'.calls thread = .freeing ctx id) :
    s'.Settled ctx := by
  rcases h with h | ⟨thread, id, h⟩ | h
  · exact .inl (hlife.trans h)
  · exact .inr (.inl ⟨thread, id, hcalls thread id h⟩)
  · exact .inr (.inr (hlife.trans h))

/-- A registered context is not with its caller any more, and no call holds it but to free it. -/
theorem Invariant.registered_life {s : State} (h : Invariant s) {ctx : Nat}
    (hctx : ctx ∈ s.registered) : s.life ctx ≠ .unborn ∧ s.life ctx ≠ .held .caller ∧
      ∀ thread, (s.calls thread).ctx = some ctx → ∃ id, s.calls thread = .freeing ctx id := by
  have hheld : ∀ thread, (s.calls thread).ctx = some ctx → s.life ctx = .held (.call thread) :=
    fun thread hthread => (h.agrees _ (tracked_call thread) ctx).mpr hthread
  rcases h.registered ctx hctx with hlife | ⟨thread, id, hfreeing⟩ | hlife
  · rw [hlife]
    refine ⟨fun heq => (by cases heq), fun heq => (by cases heq), fun thread hthread => ?_⟩
    cases hlife.symm.trans (hheld thread hthread)
  · have hlife := hheld thread (by rw [hfreeing]; rfl)
    rw [hlife]
    refine ⟨fun heq => (by cases heq), fun heq => (by cases heq), fun other hother => ?_⟩
    have hthread := Life.held.inj (hlife.symm.trans (hheld other hother))
    rw [← Holder.call.inj hthread]
    exact ⟨id, hfreeing⟩
  · rw [hlife]
    refine ⟨fun heq => (by cases heq), fun heq => (by cases heq), fun thread hthread => ?_⟩
    cases hlife.symm.trans (hheld thread hthread)

/-- A step that concerns no registered context leaves them settled. -/
theorem Invariant.settled_of_ne {s s' : State} (h : Invariant s) (thread : Nat) {ctx : Nat}
    (hctx : ctx ∈ s.registered) (hlife : s'.life ctx = s.life ctx)
    (hthread : ∀ id, s.calls thread ≠ .freeing ctx id)
    (hcalls : ∀ other ≠ thread, s'.calls other = s.calls other) : s'.Settled ctx := by
  refine (h.registered ctx hctx).keep hlife ?_
  intro other id hfreeing
  have hne : other ≠ thread := by
    rintro rfl
    exact hthread id hfreeing
  rw [hcalls other hne]
  exact hfreeing

theorem Invariant.create {s : State} (h : Invariant s) {ctx : Nat} (hctx : s.life ctx = .unborn) :
    Invariant (s.log (.acquire ctx .caller)) := by
  have hlife : ∀ holder, Tracked holder → s.life ctx ≠ .held holder := by
    intro holder _ heq
    cases hctx.symm.trans heq
  have hnot : ∀ holder, Tracked holder → ¬s.holds holder ctx :=
    fun holder => not_holds_of_life h.agrees hlife
  exact {
    sound := sound_log h.sound hctx
    agrees := by
      rw [life_log]
      refine h.agrees.update ?_ (fun _ _ _ _ => Iff.rfl)
      intro holder hholder
      refine ⟨fun heq => ?_, fun hholds => absurd hholds (hnot holder hholder)⟩
      exact absurd (Life.held.inj heq).symm hholder
    ids := h.ids
    registered := by
      intro other hother
      have hne : other ≠ ctx := by
        rintro rfl
        exact (h.registered_life hother).1 hctx
      refine (h.registered other hother).keep ?_ (fun _ _ => id)
      rw [life_log]
      exact Ledger.apply_of_ne hne }

theorem Invariant.discard {s : State} (h : Invariant s) {ctx : Nat}
    (hctx : s.life ctx = .held .caller) : Invariant (s.log (.release ctx)) := by
  have hlife : ∀ holder, Tracked holder → s.life ctx ≠ .held holder := by
    intro holder hholder heq
    exact hholder (Life.held.inj (hctx.symm.trans heq)).symm
  have hnot : ∀ holder, Tracked holder → ¬s.holds holder ctx :=
    fun holder => not_holds_of_life h.agrees hlife
  exact {
    sound := sound_log h.sound ⟨_, hctx⟩
    agrees := by
      rw [life_log]
      refine h.agrees.update ?_ (fun _ _ _ _ => Iff.rfl)
      intro holder hholder
      exact ⟨fun heq => (by cases heq), fun hholds => absurd hholds (hnot holder hholder)⟩
    ids := h.ids
    registered := by
      intro other hother
      have hne : other ≠ ctx := by
        rintro rfl
        exact (h.registered_life hother).2.1 hctx
      refine (h.registered other hother).keep ?_ (fun _ _ => id)
      rw [life_log]
      exact Ledger.apply_of_ne hne }

/-- A registration that passed its checks takes an id and the context. -/
theorem Invariant.beginInstall {s : State} (h : Invariant s) {ctx thread : Nat}
    (hidle : s.calls thread = .idle) (hctx : s.life ctx = .held .caller) :
    Invariant (({ s with
      counter := (nextRegistrationId s.counter).2
      taken := s.taken ++ [(nextRegistrationId s.counter).1] }.setCall thread
        (.installing ctx (nextRegistrationId s.counter).1)).log (.move ctx (.call thread))) := by
  have hlife : ∀ holder, Tracked holder → s.life ctx ≠ .held holder := by
    intro holder hholder heq
    exact hholder (Life.held.inj (hctx.symm.trans heq)).symm
  exact {
    sound := .concat h.sound ⟨_, hctx⟩
    agrees := by
      rw [life_log]
      exact agrees_take h.agrees hlife (by rw [hidle]; rfl) rfl
    ids := h.ids.next
    registered := by
      intro other hother
      have hne : other ≠ ctx := by
        rintro rfl
        exact (h.registered_life hother).2.1 hctx
      refine h.settled_of_ne thread hother ?_ ?_ fun t ht => setCall_of_ne _ _ ht
      · rw [life_log]
        exact Ledger.apply_of_ne hne
      · intro id hfreeing
        cases hidle.symm.trans hfreeing }

/-- The invariant inside a critical section, whose thread has nothing else to do. -/
structure Inside (s : State) (thread : Nat) (old : Option Nat) : Prop where
  sound : Ledger.Sound s.ledger
  agrees : Ledger.Agrees Tracked s.life (s.holdsInside thread old)
  ids : Ids s.counter s.taken
  replaced : ∀ ctx, old = some ctx → s.global.provider ≠ some ctx
  registered : ∀ ctx ∈ s.registered, s.life ctx = .held .slot ∨
    (∃ other id, other ≠ thread ∧ s.calls other = .freeing ctx id) ∨ s.life ctx = .released

theorem Inside.takeOut {s s' : State} {thread : Nat} {old : Option Nat} {id : Option UInt64}
    {answer : Option Answer} (h : Inside s thread old)
    (hstep : takeOut s thread old id = some (s', answer)) : Invariant s' := by
  cases old with
  | none =>
    obtain rfl := congrArg Prod.fst (Option.some.inj hstep).symm
    exact {
      sound := h.sound
      agrees := agrees_leave h.agrees rfl
      ids := h.ids
      registered := by
        intro ctx hctx
        rcases h.registered ctx hctx with hlife | ⟨other, id, hother, hfreeing⟩ | hlife
        · exact .inl hlife
        · exact .inr (.inl ⟨other, id, (setCall_of_ne s _ hother).trans hfreeing⟩)
        · exact .inr (.inr hlife) }
  | some old =>
    obtain rfl := congrArg Prod.fst (Option.some.inj hstep).symm
    have hold : s.life old = .held .slot := (h.agrees .slot tracked_slot old).mpr (.inr rfl)
    exact {
      sound := .concat h.sound ⟨_, hold⟩
      agrees := by
        show Ledger.Agrees Tracked ((s.setCall thread _).log _).life _
        rw [life_log]
        exact agrees_takeOut h.agrees (h.replaced old rfl) rfl
      ids := h.ids
      registered := by
        intro ctx hctx
        by_cases hne : ctx = old
        · subst hne
          exact .inr (.inl ⟨thread, id, setCall_self _ _ _⟩)
        · have hlife' : ((s.setCall thread (.freeing old id)).log
              (.move old (.call thread))).life ctx = s.life ctx := by
            rw [life_log]
            exact Ledger.apply_of_ne hne
          rcases h.registered ctx hctx with hlife | ⟨other, id, hother, hfreeing⟩ | hlife
          · exact .inl (hlife'.trans hlife)
          · exact .inr (.inl ⟨other, id, (setCall_of_ne s _ hother).trans hfreeing⟩)
          · exact .inr (.inr (hlife'.trans hlife)) }

/-- Swapping the slot: the new context goes in, and the old one is still to be taken out. -/
theorem Invariant.inside_swap {s : State} (h : Invariant s) {ctx thread : Nat} {id : UInt64}
    (hcall : s.calls thread = .installing ctx id) :
    Inside ({ s with
      global := (s.global.install ctx id).1, registered := s.registered ++ [ctx] }.log
        (.move ctx .slot)) thread s.global.provider := by
  have hholds : s.holds (.call thread) ctx := by
    rw [State.holds, hcall]
    rfl
  have hlife := (h.agrees _ (tracked_call thread) ctx).mpr hholds
  have hreplaced : s.global.provider ≠ some ctx := by
    intro hslot
    cases h.agrees.holder_eq (tracked_call thread) tracked_slot hholds hslot
  exact {
    sound := .concat h.sound ⟨_, hlife⟩
    agrees := by
      rw [life_log]
      refine h.agrees.update ?_ ?_
      · intro holder hholder
        cases holder with
        | caller => exact absurd rfl hholder
        | slot => exact ⟨fun _ => .inl rfl, fun _ => rfl⟩
        | call other =>
          refine ⟨fun heq => (by cases heq), fun hother => ?_⟩
          have hsame := h.agrees.holder_eq (tracked_call other) (tracked_call thread) hother.2 hholds
          exact absurd (Holder.call.inj hsame) hother.1
      · intro holder _ x hx
        cases holder with
        | caller => exact Iff.rfl
        | slot =>
          refine ⟨fun hslot => hslot.resolve_left fun heq => ?_, .inr⟩
          exact hx (Option.some.inj heq).symm
        | call other =>
          refine ⟨fun hother => hother.2, fun hother => ⟨?_, hother⟩⟩
          rintro rfl
          rw [State.holds, hcall] at hother
          exact hx (Option.some.inj hother).symm
    ids := h.ids
    replaced := by
      intro old hold heq
      rw [hold, ← heq] at hreplaced
      exact hreplaced rfl
    registered := by
      intro other hother
      by_cases hne : other = ctx
      · subst hne
        refine .inl ?_
        rw [life_log]
        exact Ledger.apply_move_self _ _ _
      · have hlife' : ({ s with
            global := (s.global.install ctx id).1, registered := s.registered ++ [ctx] }.log
              (.move ctx .slot)).life other = s.life other := by
          rw [life_log]
          exact Ledger.apply_of_ne hne
        have hmem : other ∈ s.registered :=
          (List.mem_append.mp hother).resolve_right fun hx => hne (List.mem_singleton.mp hx)
        rcases h.registered other hmem with hlife | ⟨t, id, hfreeing⟩ | hlife
        · exact .inl (hlife'.trans hlife)
        · refine .inr (.inl ⟨t, id, ?_, hfreeing⟩)
          rintro rfl
          cases hcall.symm.trans hfreeing
        · exact .inr (.inr (hlife'.trans hlife)) }

/-- Clearing the slot, or finding another registration in it. -/
theorem Invariant.inside_unregister {s : State} (h : Invariant s) {thread : Nat}
    (hidle : s.calls thread = .idle) (id : UInt64) :
    Inside { s with global := (s.global.unregister id).1 } thread (s.global.unregister id).2 := by
  have hcalls : ∀ other x, (s.calls other).ctx = some x → other ≠ thread := by
    rintro other x hother rfl
    rw [hidle] at hother
    cases hother
  have hregistered : ∀ ctx ∈ s.registered, s.life ctx = .held .slot ∨
      (∃ other id, other ≠ thread ∧ s.calls other = .freeing ctx id) ∨
        s.life ctx = .released := by
    intro ctx hctx
    rcases h.registered ctx hctx with hlife | ⟨other, id, hfreeing⟩ | hlife
    · exact .inl hlife
    · refine .inr (.inl ⟨other, id, ?_, hfreeing⟩)
      exact hcalls other ctx (by rw [hfreeing]; rfl)
    · exact .inr (.inr hlife)
  by_cases hid : s.global.registrationId = id
  · subst hid
    rw [unregister_self]
    exact {
      sound := h.sound
      agrees := by
        refine h.agrees.congr ?_
        intro holder _ x
        cases holder with
        | caller => exact Iff.rfl
        | slot => exact ⟨fun hslot => hslot.resolve_left (fun heq => by cases heq), .inr⟩
        | call other => exact ⟨fun hother => hother.2, fun hother => ⟨hcalls other x hother, hother⟩⟩
      ids := h.ids
      replaced := fun ctx _ heq => by cases heq
      registered := hregistered }
  · rw [unregister_of_ne hid]
    exact {
      sound := h.sound
      agrees := by
        refine h.agrees.congr ?_
        intro holder _ x
        cases holder with
        | caller => exact Iff.rfl
        | slot => exact ⟨fun hslot => hslot.resolve_right (fun heq => by cases heq), .inl⟩
        | call other => exact ⟨fun hother => hother.2, fun hother => ⟨hcalls other x hother, hother⟩⟩
      ids := h.ids
      replaced := fun ctx heq _ => by cases heq
      registered := hregistered }

/-- A call frees the context it holds and is finished. -/
theorem Invariant.release {s : State} (h : Invariant s) {ctx thread : Nat}
    (hcall : (s.calls thread).ctx = some ctx) :
    Invariant ((s.setCall thread .idle).log (.release ctx)) := by
  have hlife := (h.agrees _ (tracked_call thread) ctx).mpr hcall
  exact {
    sound := .concat h.sound ⟨_, hlife⟩
    agrees := by
      rw [life_log]
      exact agrees_release h.agrees hcall rfl
    ids := h.ids
    registered := by
      intro other hother
      by_cases hne : other = ctx
      · subst hne
        refine .inr (.inr ?_)
        rw [life_log]
        exact Ledger.apply_release_self _ _
      · refine h.settled_of_ne thread hother ?_ ?_ fun t ht => setCall_of_ne _ _ ht
        · rw [life_log]
          exact Ledger.apply_of_ne hne
        · intro id hfreeing
          rw [hfreeing] at hcall
          exact hne (Option.some.inj hcall) }

theorem Invariant.handOut {s : State} (h : Invariant s) (id : Option UInt64) :
    Invariant (s.handOut id) := ⟨h.sound, h.agrees, h.ids, h.registered⟩

/-- Using a context that somebody holds. -/
theorem Invariant.useCtx {s : State} (h : Invariant s) {ctx : Nat} {holder : Holder}
    (hlife : s.life ctx = .held holder) : Invariant (s.log (.use ctx)) := by
  have hsame : (s.log (.use ctx)).life = s.life := by
    rw [life_log]
    rfl
  exact {
    sound := sound_log h.sound ⟨_, hlife⟩
    agrees := by
      rw [hsame]
      exact h.agrees
    ids := h.ids
    registered := fun other hother =>
      (h.registered other hother).keep (congrFun hsame other) fun _ _ => id }

/-- Taking a reference of one's own to the installed provider. -/
theorem Invariant.retained {s : State} (h : Invariant s) {ctx thread : Nat}
    (hidle : s.calls thread = .idle) (hctx : s.life ctx = .unborn) :
    Invariant ((s.setCall thread (.retaining ctx)).log (.acquire ctx (.call thread))) := by
  have hlife : ∀ holder, Tracked holder → s.life ctx ≠ .held holder := by
    intro holder _ heq
    cases hctx.symm.trans heq
  exact {
    sound := .concat h.sound hctx
    agrees := by
      rw [life_log]
      exact agrees_take h.agrees hlife (by rw [hidle]; rfl) rfl
    ids := h.ids
    registered := by
      intro other hother
      have hne : other ≠ ctx := by
        rintro rfl
        exact (h.registered_life hother).1 hctx
      refine h.settled_of_ne thread hother ?_ ?_ fun t ht => setCall_of_ne _ _ ht
      · rw [life_log]
        exact Ledger.apply_of_ne hne
      · intro id hfreeing
        cases hidle.symm.trans hfreeing }

/-- **One step keeps the invariant.** -/
theorem Invariant.step {signal : Signal} {s s' : State} {action : Action} {answer : Option Answer}
    (h : Invariant s) (hstep : Global.step signal s action = some (s', answer)) : Invariant s' := by
  cases action with
  | create ctx =>
    rw [Global.step] at hstep
    split at hstep
    · rename_i hctx
      obtain rfl := congrArg Prod.fst (Option.some.inj hstep).symm
      exact h.create hctx
    · cases hstep
  | discard ctx =>
    rw [Global.step] at hstep
    split at hstep
    · rename_i hctx
      obtain rfl := congrArg Prod.fst (Option.some.inj hstep).symm
      exact h.discard hctx
    · cases hstep
  | register thread vtable outId ctx =>
    rw [Global.step] at hstep
    split at hstep
    · rename_i hready
      split at hstep
      · obtain rfl := congrArg Prod.fst (Option.some.inj hstep).symm
        exact h
      · obtain rfl := congrArg Prod.fst (Option.some.inj hstep).symm
        exact h.beginInstall hready.1 hready.2
    · cases hstep
  | swap thread =>
    rw [Global.step] at hstep
    split at hstep
    · rename_i ctx id hcall
      exact (h.inside_swap hcall).takeOut hstep
    · cases hstep
  | unregister thread id =>
    rw [Global.step] at hstep
    split at hstep
    · rename_i hidle
      split at hstep
      · obtain rfl := congrArg Prod.fst (Option.some.inj hstep).symm
        exact h
      · exact (h.inside_unregister hidle id).takeOut hstep
    · cases hstep
  | free thread =>
    rw [Global.step] at hstep
    split at hstep
    · rename_i ctx id hcall
      obtain rfl := congrArg Prod.fst (Option.some.inj hstep).symm
      exact (h.release (by rw [hcall]; rfl)).handOut id
    · cases hstep
  | retain thread made =>
    rw [Global.step] at hstep
    split at hstep
    · rename_i hidle
      split at hstep
      · obtain rfl := congrArg Prod.fst (Option.some.inj hstep).symm
        exact h
      · rename_i ctx hprovider
        have hlife := (h.agrees .slot tracked_slot ctx).mpr hprovider
        split at hstep
        · obtain rfl := congrArg Prod.fst (Option.some.inj hstep).symm
          exact h.useCtx hlife
        · rename_i retained
          split at hstep
          · rename_i hunborn
            obtain rfl := congrArg Prod.fst (Option.some.inj hstep).symm
            have hsame : (s.log (.use ctx)).life retained = s.life retained := by
              rw [life_log]
              rfl
            exact (h.useCtx hlife).retained hidle (hsame.trans hunborn)
          · cases hstep
    · cases hstep
  | use thread =>
    rw [Global.step] at hstep
    split at hstep
    · rename_i ctx hcall
      obtain rfl := congrArg Prod.fst (Option.some.inj hstep).symm
      have hholds : s.holds (.call thread) ctx := by
        rw [State.holds, hcall]
        rfl
      exact h.useCtx ((h.agrees _ (tracked_call thread) ctx).mpr hholds)
    · cases hstep
  | release thread =>
    rw [Global.step] at hstep
    split at hstep
    · rename_i ctx hcall
      obtain rfl := congrArg Prod.fst (Option.some.inj hstep).symm
      exact h.release (by rw [hcall]; rfl)
    · cases hstep

theorem Invariant.run {signal : Signal} {actions : List Action} {s s' : State} (h : Invariant s)
    (hrun : Global.run signal s actions = some s') : Invariant s' := by
  induction actions generalizing s with
  | nil =>
    obtain rfl := Option.some.inj hrun
    exact h
  | cons action actions ih =>
    obtain ⟨⟨s₁, answer⟩, hstep, hrest⟩ := Option.bind_eq_some_iff.mp hrun
    exact ih (h.step hstep) hrest

theorem invariant_run {signal : Signal} {actions : List Action} {s : State}
    (hrun : run signal .initial actions = some s) : Invariant s := invariant_initial.run hrun

end OtelC.Global
