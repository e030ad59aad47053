import OtelC.Global.Exact
import OtelC.Trace.Handles

/-!
# The slot of the trace API on many threads

The slot for the process-global tracer provider has no registration ids and is never emptied: a
provider goes out of it only when another is registered.  Apart from that its threads do what those
of the other two signals do, and every interleaving of theirs is one of the slot with ids.

* `follows_step`: a step here is a step there.
* `trace_slot_owns_providers`: the consequences for every run.
-/

namespace OtelC.Trace.Slot

open Handles
open Ledger (Life)

abbrev Holder := Global.Holder

/-! ### Steps -/

/-- What a thread is doing. -/
inductive Pc where
  | idle
  | installing (ctx : Nat)
  /-- `ctx` is registered, and `old` came out of the slot for it. -/
  | freeing (ctx old : Nat)
  | retaining (ctx : Nat)
  deriving DecidableEq

/-- The context a call holds. -/
def Pc.ctx : Pc → Option Nat
  | .idle => none
  | .installing ctx => some ctx
  | .freeing _ old => some old
  | .retaining ctx => some ctx

/-- `GLOBAL` and the calls in progress; a context stands for the vtable it belongs to as well. -/
structure State where
  provider : Option Nat
  calls : Nat → Pc
  /-- What happened to the contexts so far. -/
  ledger : List (Ledger.Event Nat Holder)
  /-- The contexts that were put into the slot, in that order. -/
  registered : List Nat

def State.initial : State := ⟨none, fun _ => .idle, [], []⟩

def State.life (s : State) (ctx : Nat) : Life Holder := Ledger.lives s.ledger ctx

def State.setCall (s : State) (thread : Nat) (pc : Pc) : State :=
  { s with calls := Function.update s.calls thread pc }

def State.log (s : State) (e : Ledger.Event Nat Holder) : State :=
  { s with ledger := s.ledger ++ [e] }

inductive Action where
  /-- An implementation makes a context, which the caller then owns. -/
  | create (ctx : Nat)
  /-- The caller frees a context of its own. -/
  | discard (ctx : Nat)
  | register (thread : Nat) (vtable : Option Vtable) (ctx : Nat)
  | swap (thread : Nat)
  | free (thread : Nat)
  /-- `retain_global`, with what `provider_retain` returns. -/
  | retain (thread : Nat) (made : Option Nat)
  /-- `provider_get_tracer` of the retained context. -/
  | use (thread : Nat)
  | release (thread : Nat)

/-- What a step answers that ends a call, or a retain that gives no context. -/
inductive Reply where
  | status (result : Except Fail Unit)
  | noProvider
  | retainFailed

/-- One step of one thread; `none` when the thread is not there or the caller does not own what it
passes. -/
def step (s : State) : Action → Option (State × Option Reply)
  | .create ctx => if s.life ctx = .unborn then some (s.log (.acquire ctx .caller), none) else none
  | .discard ctx =>
    if s.life ctx = .held .caller then some (s.log (.release ctx), none) else none
  | .register thread vtable ctx =>
    if s.calls thread = .idle ∧ s.life ctx = .held .caller then
      match checkVtable registerNull registerIncompatible vtable with
      | .error e => some (s, some (.status (.error e)))
      | .ok _ => some ((s.setCall thread (.installing ctx)).log (.move ctx (.call thread)), none)
    else none
  | .swap thread =>
    match s.calls thread with
    | .installing ctx =>
      let swapped := { s with provider := some ctx, registered := s.registered ++ [ctx] }.log
        (.move ctx .slot)
      match s.provider with
      | none => some (swapped.setCall thread .idle, some (.status (.ok ())))
      | some old =>
        some ((swapped.setCall thread (.freeing ctx old)).log (.move old (.call thread)), none)
    | _ => none
  | .free thread =>
    match s.calls thread with
    | .freeing _ old =>
      some ((s.setCall thread .idle).log (.release old), some (.status (.ok ())))
    | _ => none
  | .retain thread made =>
    if s.calls thread = .idle then
      match s.provider with
      | none => some (s, some .noProvider)
      | some ctx =>
        match made with
        | none => some (s.log (.use ctx), some .retainFailed)
        | some retained =>
          if s.life retained = .unborn then
            some (((s.log (.use ctx)).setCall thread (.retaining retained)).log
              (.acquire retained (.call thread)), none)
          else none
    else none
  | .use thread =>
    match s.calls thread with
    | .retaining ctx => some (s.log (.use ctx), none)
    | _ => none
  | .release thread =>
    match s.calls thread with
    | .retaining ctx => some ((s.setCall thread .idle).log (.release ctx), none)
    | _ => none

/-- The state after an interleaving of steps. -/
def run (s : State) : List Action → Option State
  | [] => some s
  | action :: actions => (step s action).bind fun result => run result.1 actions

/-! ### The slot with ids -/

/-- A thread does the same, the ids apart. -/
inductive Matches : Pc → Global.Pc → Prop
  | idle : Matches .idle .idle
  | installing (ctx : Nat) (id : UInt64) : Matches (.installing ctx) (.installing ctx id)
  | freeing (ctx old : Nat) (id : Option UInt64) : Matches (.freeing ctx old) (.freeing old id)
  | retaining (ctx : Nat) : Matches (.retaining ctx) (.retaining ctx)

def Action.withIds : Action → Global.Action
  | .create ctx => .create ctx
  | .discard ctx => .discard ctx
  | .register thread _ ctx => .register thread .compatible .absent ctx
  | .swap thread => .swap thread
  | .free thread => .free thread
  | .retain thread made => .retain thread made
  | .use thread => .use thread
  | .release thread => .release thread

structure Follows (s : State) (g : Global.State) : Prop where
  provider : s.provider = g.global.provider
  calls : ∀ thread, Matches (s.calls thread) (g.calls thread)
  ledger : s.ledger = g.ledger
  registered : s.registered = g.registered

variable {s s' : State} {g : Global.State} {action : Action} {reply : Option Reply}

theorem setCall_self (s : State) (thread : Nat) (pc : Pc) :
    (s.setCall thread pc).calls thread = pc := Function.update_self _ _ _

theorem setCall_of_ne (s : State) {thread other : Nat} (pc : Pc) (h : other ≠ thread) :
    (s.setCall thread pc).calls other = s.calls other := Function.update_of_ne h _ _

theorem Follows.life (h : Follows s g) : s.life = g.life := by
  funext ctx
  rw [State.life, Global.State.life, h.ledger]

theorem Follows.log (h : Follows s g) (e : Ledger.Event Nat Holder) :
    Follows (s.log e) (g.log e) where
  provider := h.provider
  calls := h.calls
  ledger := congrArg (· ++ [e]) h.ledger
  registered := h.registered

theorem Follows.setCall (h : Follows s g) (thread : Nat) {pc : Pc} {pc' : Global.Pc}
    (hpc : Matches pc pc') : Follows (s.setCall thread pc) (g.setCall thread pc') where
  provider := h.provider
  calls other := by
    by_cases hother : other = thread
    · subst hother
      rw [setCall_self, Global.setCall_self]
      exact hpc
    · rw [setCall_of_ne s pc hother, Global.setCall_of_ne g pc' hother]
      exact h.calls other
  ledger := h.ledger
  registered := h.registered

theorem Follows.handOut (h : Follows s g) (id : Option UInt64) : Follows s (g.handOut id) :=
  ⟨h.provider, h.calls, h.ledger, h.registered⟩

theorem Follows.idle (h : Follows s g) {thread : Nat} (hcall : s.calls thread = .idle) :
    g.calls thread = .idle := by
  have hmatches := h.calls thread
  rw [hcall] at hmatches
  generalize g.calls thread = pc at hmatches ⊢
  cases hmatches
  rfl

theorem Follows.installing (h : Follows s g) {thread ctx : Nat}
    (hcall : s.calls thread = .installing ctx) : ∃ id, g.calls thread = .installing ctx id := by
  have hmatches := h.calls thread
  rw [hcall] at hmatches
  generalize g.calls thread = pc at hmatches ⊢
  cases hmatches with
  | installing _ id => exact ⟨id, rfl⟩

theorem Follows.freeing (h : Follows s g) {thread ctx old : Nat}
    (hcall : s.calls thread = .freeing ctx old) : ∃ id, g.calls thread = .freeing old id := by
  have hmatches := h.calls thread
  rw [hcall] at hmatches
  generalize g.calls thread = pc at hmatches ⊢
  cases hmatches with
  | freeing _ _ id => exact ⟨id, rfl⟩

theorem Follows.freeing_of (h : Follows s g) {thread old : Nat} {id : Option UInt64}
    (hcall : g.calls thread = .freeing old id) : ∃ ctx, s.calls thread = .freeing ctx old := by
  have hmatches := h.calls thread
  rw [hcall] at hmatches
  generalize s.calls thread = pc at hmatches ⊢
  cases hmatches with
  | freeing ctx _ _ => exact ⟨ctx, rfl⟩

theorem Follows.retaining (h : Follows s g) {thread ctx : Nat} :
    s.calls thread = .retaining ctx ↔ g.calls thread = .retaining ctx := by
  have hmatches := h.calls thread
  generalize s.calls thread = pc at hmatches ⊢
  generalize g.calls thread = pc' at hmatches ⊢
  cases hmatches with
  | retaining other => rw [Pc.retaining.injEq, Global.Pc.retaining.injEq]
  | idle => exact iff_of_false Pc.noConfusion Global.Pc.noConfusion
  | installing _ _ => exact iff_of_false Pc.noConfusion Global.Pc.noConfusion
  | freeing _ _ _ => exact iff_of_false Pc.noConfusion Global.Pc.noConfusion

/-- The same contexts are held. -/
theorem Follows.ctx (h : Follows s g) (thread : Nat) :
    (s.calls thread).ctx = (g.calls thread).ctx := by
  have hmatches := h.calls thread
  generalize s.calls thread = pc at hmatches ⊢
  generalize g.calls thread = pc' at hmatches ⊢
  cases hmatches <;> rfl

/-! ### A step here is a step there -/

/-- What a step leads to is followed, by the same step or by none. -/
def Stays (s' : State) (g : Global.State) (action : Action) : Prop :=
  ∃ g', Follows s' g' ∧
    (g' = g ∨ ∃ answer, Global.step Global.metrics g action.withIds = some (g', answer))

theorem Follows.stays {g' : Global.State} (h : Follows s' g') (answer : Option Global.Answer)
    (hstep : Global.step Global.metrics g action.withIds = some (g', answer)) : Stays s' g action :=
  ⟨g', h, .inr ⟨answer, hstep⟩⟩

theorem follows_register {thread ctx : Nat} {vtable : Option Vtable} (h : Follows s g)
    (hstep : step s (.register thread vtable ctx) = some (s', reply)) :
    Stays s' g (.register thread vtable ctx) := by
  rw [step] at hstep
  split at hstep
  · rename_i hready
    split at hstep
    · obtain rfl := congrArg Prod.fst (Option.some.inj hstep)
      exact ⟨g, h, .inl rfl⟩
    · obtain rfl := congrArg Prod.fst (Option.some.inj hstep)
      have hlife : g.life ctx = .held .caller := h.life ▸ hready.2
      let id := (Global.nextRegistrationId g.counter).1
      let taken : Global.State := { g with
        counter := (Global.nextRegistrationId g.counter).2
        taken := g.taken ++ [id] }
      have htaken : Follows s taken := ⟨h.provider, h.calls, h.ledger, h.registered⟩
      refine ((htaken.setCall thread (.installing ctx id)).log _).stays none ?_
      rw [Action.withIds, Global.step, if_pos ⟨h.idle hready.1, hlife⟩]
      rfl
  · cases hstep

theorem follows_swap {thread : Nat} (h : Follows s g)
    (hstep : step s (.swap thread) = some (s', reply)) : Stays s' g (.swap thread) := by
  rw [step] at hstep
  split at hstep
  · rename_i ctx hcall
    obtain ⟨id, hg⟩ := h.installing hcall
    let installed : State := { s with provider := some ctx, registered := s.registered ++ [ctx] }
    let there : Global.State :=
      { g with global := ⟨some ctx, id⟩, registered := g.registered ++ [ctx] }
    have hinstalled : Follows installed there :=
      ⟨rfl, h.calls, h.ledger, congrArg (· ++ [ctx]) h.registered⟩
    have hswapped : Follows (installed.log (.move ctx .slot)) (there.log (.move ctx .slot)) :=
      hinstalled.log _
    have hthere : Global.step Global.metrics g (.swap thread) =
        Global.takeOut (there.log (.move ctx .slot)) thread g.global.provider (some id) := by
      rw [Global.step, hg]
      rfl
    dsimp only at hstep
    split at hstep
    · rename_i hnone
      obtain rfl := congrArg Prod.fst (Option.some.inj hstep)
      rw [← h.provider, hnone] at hthere
      exact ((hswapped.setCall thread .idle).handOut (some id)).stays _ hthere
    · rename_i old hold
      obtain rfl := congrArg Prod.fst (Option.some.inj hstep)
      rw [← h.provider, hold] at hthere
      exact ((hswapped.setCall thread (.freeing ctx old (some id))).log _).stays none hthere
  · cases hstep

theorem follows_retain {thread : Nat} {made : Option Nat} (h : Follows s g)
    (hstep : step s (.retain thread made) = some (s', reply)) :
    Stays s' g (.retain thread made) := by
  rw [step] at hstep
  split at hstep
  · rename_i hidle
    split at hstep
    · obtain rfl := congrArg Prod.fst (Option.some.inj hstep)
      exact ⟨g, h, .inl rfl⟩
    · rename_i ctx hprovider
      have hg : g.global.provider = some ctx := h.provider ▸ hprovider
      split at hstep
      · obtain rfl := congrArg Prod.fst (Option.some.inj hstep)
        refine (h.log (.use ctx)).stays none ?_
        rw [Action.withIds, Global.step, if_pos (h.idle hidle), hg]
        rfl
      · rename_i retained
        split at hstep
        · rename_i hlife
          obtain rfl := congrArg Prod.fst (Option.some.inj hstep)
          refine (((h.log (.use ctx)).setCall thread (.retaining retained)).log _).stays
            none ?_
          rw [Action.withIds, Global.step, if_pos (h.idle hidle), hg]
          exact if_pos (h.life ▸ hlife)
        · cases hstep
  · cases hstep

theorem follows_free {thread : Nat} (h : Follows s g)
    (hstep : step s (.free thread) = some (s', reply)) : Stays s' g (.free thread) := by
  rw [step] at hstep
  split at hstep
  · rename_i ctx old hcall
    obtain ⟨id, hg⟩ := h.freeing hcall
    obtain rfl := congrArg Prod.fst (Option.some.inj hstep)
    exact (((h.setCall thread .idle).log (.release old)).handOut id).stays _ (Global.step_free hg)
  · cases hstep

/-- **A step of the slot is a step of the slot with ids**, or a call that changes nothing. -/
theorem follows_step (h : Follows s g) (hstep : step s action = some (s', reply)) :
    Stays s' g action := by
  cases action with
  | create ctx =>
    rw [step] at hstep
    split at hstep
    · rename_i hlife
      obtain rfl := congrArg Prod.fst (Option.some.inj hstep)
      exact (h.log _).stays none (Global.step_create (h.life ▸ hlife))
    · cases hstep
  | discard ctx =>
    rw [step] at hstep
    split at hstep
    · rename_i hlife
      obtain rfl := congrArg Prod.fst (Option.some.inj hstep)
      have hlife' : g.life ctx = .held .caller := h.life ▸ hlife
      exact (h.log (.release ctx)).stays none (if_pos hlife')
    · cases hstep
  | register thread vtable ctx => exact follows_register h hstep
  | swap thread => exact follows_swap h hstep
  | free thread => exact follows_free h hstep
  | retain thread made => exact follows_retain h hstep
  | use thread =>
    rw [step] at hstep
    split at hstep
    · rename_i ctx hcall
      obtain rfl := congrArg Prod.fst (Option.some.inj hstep)
      exact (h.log _).stays none (Global.use_retained (h.retaining.mp hcall))
    · cases hstep
  | release thread =>
    rw [step] at hstep
    split at hstep
    · rename_i ctx hcall
      obtain rfl := congrArg Prod.fst (Option.some.inj hstep)
      exact ((h.setCall thread .idle).log _).stays none
        (Global.release_retained (h.retaining.mp hcall))
    · cases hstep

/-! ### What the calls do -/

section Calls

variable {thread ctx : Nat} {vtable : Option Vtable}

theorem step_register {header : Vtable} (hidle : s.calls thread = .idle)
    (hlife : s.life ctx = .held .caller)
    (hcheck : checkVtable registerNull registerIncompatible vtable = .ok header) :
    step s (.register thread vtable ctx) =
      some ((s.setCall thread (.installing ctx)).log (.move ctx (.call thread)), none) := by
  rw [step, if_pos ⟨hidle, hlife⟩, hcheck]

theorem step_register_refused {e : Fail} (hidle : s.calls thread = .idle)
    (hlife : s.life ctx = .held .caller)
    (hcheck : checkVtable registerNull registerIncompatible vtable = .error e) :
    step s (.register thread vtable ctx) = some (s, some (.status (.error e))) := by
  rw [step, if_pos ⟨hidle, hlife⟩, hcheck]

/-- A context is in the slot. -/
def State.installed (s : State) (ctx : Nat) : State :=
  { s with provider := some ctx, registered := s.registered ++ [ctx] }.log (.move ctx .slot)

/-- The slot was empty: the swap is the end of the registration. -/
theorem step_swap_empty (hcall : s.calls thread = .installing ctx) (hnone : s.provider = none) :
    step s (.swap thread) =
      some ((s.installed ctx).setCall thread .idle, some (.status (.ok ()))) := by
  rw [step, hcall]
  dsimp only
  rw [hnone]
  rfl

theorem step_swap {old : Nat} (hcall : s.calls thread = .installing ctx)
    (hold : s.provider = some old) : step s (.swap thread) =
      some (((s.installed ctx).setCall thread (.freeing ctx old)).log
        (.move old (.call thread)), none) := by
  rw [step, hcall]
  dsimp only
  rw [hold]
  rfl

theorem step_free {old : Nat} (hcall : s.calls thread = .freeing ctx old) :
    step s (.free thread) =
      some ((s.setCall thread .idle).log (.release old), some (.status (.ok ()))) := by
  rw [step, hcall]

theorem step_retain {retained : Nat} (hidle : s.calls thread = .idle)
    (hprovider : s.provider = some ctx) (hlife : s.life retained = .unborn) :
    step s (.retain thread (some retained)) =
      some (((s.log (.use ctx)).setCall thread (.retaining retained)).log
        (.acquire retained (.call thread)), none) := by
  rw [step, if_pos hidle, hprovider]
  exact if_pos hlife

theorem step_use (hcall : s.calls thread = .retaining ctx) :
    step s (.use thread) = some (s.log (.use ctx), none) := by
  rw [step, hcall]

theorem step_release (hcall : s.calls thread = .retaining ctx) :
    step s (.release thread) = some ((s.setCall thread .idle).log (.release ctx), none) := by
  rw [step, hcall]

end Calls

/-- **What one step can do** to the slot and to what is freed: nothing, the end of a call that
freed, or the swap of an installing call, which takes what was there. -/
inductive Effect (s s' : State) (reply : Option Reply) : Action → Prop where
  | quiet {action : Action} (hprovider : s'.provider = s.provider)
      (hregistered : s'.registered = s.registered) (hreply : reply ≠ some (.status (.ok ())))
      (hcalls : ∀ thread ctx old, s'.calls thread = .freeing ctx old →
        s.calls thread = .freeing ctx old) : Effect s s' reply action
  | freed {thread ctx old : Nat} (hcall : s.calls thread = .freeing ctx old)
      (hprovider : s'.provider = s.provider) (hregistered : s'.registered = s.registered)
      (hcalls : ∀ thread ctx old, s'.calls thread = .freeing ctx old →
        s.calls thread = .freeing ctx old) : Effect s s' reply (.free thread)
  | swapped {thread ctx : Nat} (hcall : s.calls thread = .installing ctx)
      (hprovider : s'.provider = some ctx) (hregistered : s'.registered = s.registered ++ [ctx])
      (hold : ∀ old, s.provider = some old → s'.calls thread = .freeing ctx old)
      (hcalls : ∀ other ctx' old, s'.calls other = .freeing ctx' old →
        s.calls other = .freeing ctx' old ∨ ctx' = ctx) : Effect s s' reply (.swap thread)

/-- A call that goes on to something else frees only if it did. -/
theorem freeing_setCall {thread other ctx old : Nat} {pc : Pc}
    (hcall : (s.setCall thread pc).calls other = .freeing ctx old) :
    s.calls other = .freeing ctx old ∨ pc = .freeing ctx old := by
  by_cases hother : other = thread
  · subst hother
    rw [setCall_self] at hcall
    exact .inr hcall
  · rw [setCall_of_ne s pc hother] at hcall
    exact .inl hcall

theorem step_effect (hstep : step s action = some (s', reply)) : Effect s s' reply action := by
  have hsame : ∀ thread ctx old, s.calls thread = .freeing ctx old →
      s.calls thread = .freeing ctx old := fun _ _ _ hcall => hcall
  cases action with
  | swap thread =>
    cases hcall : s.calls thread with
    | installing ctx =>
      cases hold : s.provider with
      | none =>
        rw [step_swap_empty hcall hold] at hstep
        obtain rfl := congrArg Prod.fst (Option.some.inj hstep)
        refine .swapped hcall rfl rfl (fun old heq => ?_) fun other ctx' old hfreeing => ?_
        · cases hold.symm.trans heq
        · rcases freeing_setCall hfreeing with hfreeing | hfreeing
          · exact .inl hfreeing
          · cases hfreeing
      | some old =>
        rw [step_swap hcall hold] at hstep
        obtain rfl := congrArg Prod.fst (Option.some.inj hstep)
        refine .swapped hcall rfl rfl (fun old' heq => ?_) fun other ctx' old' hfreeing => ?_
        · obtain rfl := Option.some.inj (hold.symm.trans heq)
          exact setCall_self _ _ _
        · rcases freeing_setCall hfreeing with hfreeing | hfreeing
          · exact .inl hfreeing
          · exact .inr (Pc.freeing.inj hfreeing).1.symm
    | _ =>
      rw [step, hcall] at hstep
      cases hstep
  | free thread =>
    rw [step] at hstep
    split at hstep
    · rename_i hcall
      obtain rfl := congrArg Prod.fst (Option.some.inj hstep)
      refine .freed hcall rfl rfl fun other ctx old hfreeing => ?_
      rcases freeing_setCall hfreeing with hfreeing | hfreeing
      · exact hfreeing
      · cases hfreeing
    · cases hstep
  | create _ | discard _ | use _ =>
    rw [step] at hstep
    split at hstep
    · obtain ⟨rfl, rfl⟩ := Prod.mk.inj (Option.some.inj hstep)
      exact .quiet rfl rfl (fun heq => by cases heq) hsame
    · cases hstep
  | release _ =>
    rw [step] at hstep
    split at hstep
    · obtain ⟨rfl, rfl⟩ := Prod.mk.inj (Option.some.inj hstep)
      refine .quiet rfl rfl (fun heq => by cases heq) fun other ctx old hfreeing => ?_
      rcases freeing_setCall hfreeing with hfreeing | hfreeing
      · exact hfreeing
      · cases hfreeing
    · cases hstep
  | register _ _ _ =>
    rw [step] at hstep
    split at hstep
    · split at hstep
      · obtain ⟨rfl, rfl⟩ := Prod.mk.inj (Option.some.inj hstep)
        exact .quiet rfl rfl (fun heq => by cases heq) hsame
      · obtain ⟨rfl, rfl⟩ := Prod.mk.inj (Option.some.inj hstep)
        refine .quiet rfl rfl (fun heq => by cases heq) fun other ctx old hfreeing => ?_
        rcases freeing_setCall hfreeing with hfreeing | hfreeing
        · exact hfreeing
        · cases hfreeing
    · cases hstep
  | retain _ _ =>
    rw [step] at hstep
    split at hstep
    · split at hstep
      · obtain ⟨rfl, rfl⟩ := Prod.mk.inj (Option.some.inj hstep)
        exact .quiet rfl rfl (fun heq => by cases heq) hsame
      · split at hstep
        · obtain ⟨rfl, rfl⟩ := Prod.mk.inj (Option.some.inj hstep)
          exact .quiet rfl rfl (fun heq => by cases heq) hsame
        · split at hstep
          · obtain ⟨rfl, rfl⟩ := Prod.mk.inj (Option.some.inj hstep)
            refine .quiet rfl rfl (fun heq => by cases heq) fun other ctx old hfreeing => ?_
            rcases freeing_setCall hfreeing with hfreeing | hfreeing
            · exact hfreeing
            · cases hfreeing
          · cases hstep
    · cases hstep

/-! ### Every run -/

/-- What every state that a run reaches keeps to. -/
structure Invariant (s : State) : Prop where
  follows : ∃ g, Global.Invariant g ∧ Follows s g
  latest : s.provider = s.registered.getLast?
  nodup : s.registered.Nodup
  served : ∀ thread ctx old, s.calls thread = .freeing ctx old → ctx ∈ s.registered

/-- What a call is about to put into the slot was not there before. -/
theorem Invariant.installing (h : Invariant s) {thread ctx : Nat}
    (hcall : s.calls thread = .installing ctx) : ctx ∉ s.registered := by
  obtain ⟨g, hg, hfollows⟩ := h.follows
  obtain ⟨id, hcall'⟩ := hfollows.installing hcall
  intro hctx
  rw [hfollows.registered] at hctx
  obtain ⟨id', hfreeing⟩ := (hg.registered_life hctx).2.2 thread (by rw [hcall']; rfl)
  cases hcall'.symm.trans hfreeing

theorem invariant_initial : Invariant .initial where
  follows := ⟨_, Global.invariant_initial, rfl, fun _ => .idle, rfl, rfl⟩
  latest := rfl
  nodup := List.nodup_nil
  served _ _ _ hcall := by cases hcall

theorem Invariant.step (h : Invariant s) (hstep : Slot.step s action = some (s', reply)) :
    Invariant s' := by
  obtain ⟨g, hg, hfollows⟩ := h.follows
  obtain ⟨g', hg', hthere⟩ := follows_step hfollows hstep
  have hinvariant : Global.Invariant g' := by
    rcases hthere with rfl | ⟨answer, hthere⟩
    · exact hg
    · exact hg.step hthere
  have hunchanged (hprovider : s'.provider = s.provider)
      (hregistered : s'.registered = s.registered)
      (hcalls : ∀ thread ctx old, s'.calls thread = .freeing ctx old →
        s.calls thread = .freeing ctx old) : Invariant s' := by
    refine ⟨⟨g', hinvariant, hg'⟩, ?_, ?_, fun thread ctx old hcall => ?_⟩
    · rw [hprovider, hregistered, h.latest]
    · rw [hregistered]
      exact h.nodup
    · rw [hregistered]
      exact h.served thread ctx old (hcalls thread ctx old hcall)
  cases step_effect hstep with
  | quiet hprovider hregistered _ hcalls => exact hunchanged hprovider hregistered hcalls
  | freed _ hprovider hregistered hcalls => exact hunchanged hprovider hregistered hcalls
  | swapped hcall hprovider hregistered _ hcalls =>
    refine ⟨⟨g', hinvariant, hg'⟩, ?_, ?_, fun thread ctx old hfreeing => ?_⟩
    · rw [hprovider, hregistered, List.getLast?_concat]
    · rw [hregistered, ← List.concat_eq_append]
      exact h.nodup.concat (h.installing hcall)
    · rw [hregistered, List.mem_append, List.mem_singleton]
      exact (hcalls thread ctx old hfreeing).imp (h.served thread ctx old) fun heq => heq

theorem invariant_run {actions : List Action} (h : Invariant s) (hrun : run s actions = some s') :
    Invariant s' := by
  induction actions generalizing s with
  | nil =>
    obtain rfl := Option.some.inj hrun
    exact h
  | cons action actions ih =>
    obtain ⟨⟨s₁, reply⟩, hstep, hrest⟩ := Option.bind_eq_some_iff.mp hrun
    exact ih (h.step hstep) hrest

/-! ### Exact ownership -/

/-- What becomes of a registered context: it is in the slot and was not freed, one call is about to
free it, or it was freed once. -/
inductive Fate (s : State) (ctx : Nat) : Prop where
  | installed (hslot : s.provider = some ctx) (hcount : Ledger.releaseCount s.ledger ctx = 0)
  | leaving {thread new : Nat} (hcall : s.calls thread = .freeing new ctx)
      (honly : ∀ other, (s.calls other).ctx = some ctx → other = thread)
      (hslot : s.provider ≠ some ctx) (hcount : Ledger.releaseCount s.ledger ctx = 0)
  | freed (hslot : s.provider ≠ some ctx) (hcalls : ∀ thread, (s.calls thread).ctx ≠ some ctx)
      (hcount : Ledger.releaseCount s.ledger ctx = 1)

theorem Follows.fate (h : Follows s g) {ctx : Nat} (hfate : Global.Fate g ctx) : Fate s ctx := by
  cases hfate with
  | installed hslot hcount => exact .installed (h.provider.trans hslot) (h.ledger ▸ hcount)
  | @leaving thread id hcall honly hslot hcount =>
    obtain ⟨new, hcall'⟩ := h.freeing_of hcall
    refine .leaving hcall' (fun other hother => ?_) (h.provider ▸ hslot) (h.ledger ▸ hcount)
    rw [h.ctx] at hother
    exact honly other hother
  | freed hslot hcalls hcount =>
    refine .freed (h.provider ▸ hslot) (fun thread => ?_) (h.ledger ▸ hcount)
    rw [h.ctx]
    exact hcalls thread

/-- Only the call that took a registered context out of the slot frees it. -/
theorem Invariant.freed_by (h : Invariant s) (hstep : Slot.step s action = some (s', reply))
    {ctx : Nat} (hctx : ctx ∈ s.registered)
    (hne : Ledger.releaseCount s'.ledger ctx ≠ Ledger.releaseCount s.ledger ctx) :
    ∃ thread new, action = .free thread ∧ s.calls thread = .freeing new ctx := by
  obtain ⟨g, hg, hfollows⟩ := h.follows
  obtain ⟨g', hg', rfl | ⟨answer, hthere⟩⟩ := follows_step hfollows hstep
  · rw [hg'.ledger, hfollows.ledger] at hne
    contradiction
  · rw [hg'.ledger, hfollows.ledger] at hne
    obtain ⟨-, hcaller, hcalls⟩ := hg.registered_life (hfollows.registered ▸ hctx)
    rcases Global.releaseCount_step hthere hne with hlife | ⟨thread, id, hfree, hcall⟩ |
      ⟨thread, -, hcall⟩
    · exact absurd hlife hcaller
    · obtain ⟨new, hcall'⟩ := hfollows.freeing_of hcall
      refine ⟨thread, new, ?_, hcall'⟩
      cases action <;> cases hfree
      rfl
    · obtain ⟨id, hfreeing⟩ := hcalls thread (by rw [hcall]; rfl)
      cases hcall.symm.trans hfreeing

/-- A retained reference stays with its thread until that thread releases it. -/
theorem Invariant.keeps_retained (h : Invariant s) (hstep : Slot.step s action = some (s', reply))
    {thread ctx : Nat} (hcall : s.calls thread = .retaining ctx)
    (haction : action ≠ .release thread) : s'.calls thread = .retaining ctx := by
  obtain ⟨g, hg, hfollows⟩ := h.follows
  have hcall' := hfollows.retaining.mp hcall
  obtain ⟨g', hg', rfl | ⟨answer, hthere⟩⟩ := follows_step hfollows hstep
  · exact hg'.retaining.mpr hcall'
  · have hne : action.withIds ≠ .release thread := by
      intro heq
      cases action <;> cases heq
      exact haction rfl
    exact hg'.retaining.mpr (Global.retaining_of_step hcall' hthere hne)

/-- What a call holds is not freed yet. -/
theorem Invariant.releaseCount_held (h : Invariant s) {thread ctx : Nat}
    (hcall : (s.calls thread).ctx = some ctx) : Ledger.releaseCount s.ledger ctx = 0 := by
  obtain ⟨g, hg, hfollows⟩ := h.follows
  have hholds : g.holds (.call thread) ctx := by
    rw [Global.State.holds, ← hfollows.ctx]
    exact hcall
  rw [hfollows.ledger]
  exact hg.releaseCount_held ((hg.agrees _ (Global.tracked_call thread) ctx).mpr hholds)

/-- What a call frees was not freed before. -/
theorem Invariant.releaseCount_release (h : Invariant s) {thread ctx : Nat}
    (hcall : (s.calls thread).ctx = some ctx) :
    Ledger.releaseCount (((s.setCall thread .idle).log (.release ctx)).ledger) ctx = 1 := by
  show Ledger.releaseCount (s.ledger ++ [.release ctx]) ctx = 1
  rw [Ledger.releaseCount_concat, h.releaseCount_held hcall]
  simp [Ledger.isRelease]

/-- What the slot and its users keep to. -/
structure Exact (s : State) : Prop where
  /-- Nothing is freed twice, and nothing is used after it was freed. -/
  sound : Ledger.Sound s.ledger
  /-- The slot has what was put into it last, and so is not emptied. -/
  latest : s.provider = s.registered.getLast?
  nodup : s.registered.Nodup
  fate : ∀ ctx ∈ s.registered, Fate s ctx
  /-- An accepted registration takes the context from its caller. -/
  registers : ∀ thread vtable ctx header, s.calls thread = .idle → s.life ctx = .held .caller →
    checkVtable registerNull registerIncompatible vtable = .ok header →
    ∃ s', step s (.register thread vtable ctx) = some (s', none) ∧
      s'.calls thread = .installing ctx ∧ s'.provider = s.provider
  /-- A refused one leaves the slot and the context as they are. -/
  refuses : ∀ thread vtable ctx e, s.calls thread = .idle → s.life ctx = .held .caller →
    checkVtable registerNull registerIncompatible vtable = .error e →
    step s (.register thread vtable ctx) = some (s, some (.status (.error e)))
  /-- The context goes into the slot; what was there is for the call to free, and where nothing was
  the call is done. -/
  installs : ∀ thread ctx, s.calls thread = .installing ctx →
    ∃ s' reply, step s (.swap thread) = some (s', reply) ∧ s'.provider = some ctx ∧
      s'.registered = s.registered ++ [ctx] ∧
      (s.provider = none → s'.calls thread = .idle ∧ reply = some (.status (.ok ()))) ∧
      ∀ old, s.provider = some old → s'.calls thread = .freeing ctx old ∧ reply = none
  /-- What came out of the slot is freed once, and then the call is done. -/
  frees : ∀ thread ctx old, s.calls thread = .freeing ctx old →
    Ledger.releaseCount s.ledger old = 0 ∧
      ∃ s', step s (.free thread) = some (s', some (.status (.ok ()))) ∧
        s'.calls thread = .idle ∧ s'.provider = s.provider ∧
        Ledger.releaseCount s'.ledger old = 1
  /-- A registration that is told of its success has put its context into the slot. -/
  accepted : ∀ action s', step s action = some (s', some (.status (.ok ()))) →
    ∃ thread ctx, ctx ∈ s'.registered ∧
      (action = .swap thread ∧ s.calls thread = .installing ctx ∨
        action = .free thread ∧ ∃ old, s.calls thread = .freeing ctx old)
  leaves : ∀ action s' reply, step s action = some (s', reply) → s'.provider ≠ s.provider →
    ∃ thread ctx, action = .swap thread ∧ s.calls thread = .installing ctx ∧
      s'.provider = some ctx ∧ ∀ old, s.provider = some old → s'.calls thread = .freeing ctx old
  /-- Only the call that took a registered context out of the slot frees it. -/
  freed_by : ∀ action s' reply, step s action = some (s', reply) → ∀ ctx ∈ s.registered,
    Ledger.releaseCount s'.ledger ctx ≠ Ledger.releaseCount s.ledger ctx →
      ∃ thread new, action = .free thread ∧ s.calls thread = .freeing new ctx
  /-- The installed provider gives out a reference of its own. -/
  retains : ∀ thread ctx retained, s.calls thread = .idle → s.provider = some ctx →
    s.life retained = .unborn →
    ∃ s', step s (.retain thread (some retained)) = some (s', none) ∧
      s'.calls thread = .retaining retained ∧ s'.provider = s.provider
  /-- A retained reference was not freed, can be used and released, and no other step takes it. -/
  retained : ∀ thread ctx, s.calls thread = .retaining ctx →
    Ledger.releaseCount s.ledger ctx = 0 ∧ (step s (.use thread)).isSome ∧
      (∃ s', step s (.release thread) = some (s', none) ∧ s'.calls thread = .idle ∧
        Ledger.releaseCount s'.ledger ctx = 1) ∧
      ∀ action s' reply, step s action = some (s', reply) → action ≠ .release thread →
        s'.calls thread = .retaining ctx

theorem Invariant.exact (h : Invariant s) : Exact s where
  sound := by
    obtain ⟨g, hg, hfollows⟩ := h.follows
    exact hfollows.ledger ▸ hg.sound
  latest := h.latest
  nodup := h.nodup
  fate ctx hctx := by
    obtain ⟨g, hg, hfollows⟩ := h.follows
    rw [hfollows.registered] at hctx
    exact hfollows.fate (hg.fate hctx)
  registers thread _ ctx _ hidle hlife hcheck :=
    ⟨_, step_register hidle hlife hcheck, setCall_self s thread (.installing ctx), rfl⟩
  refuses _ _ _ _ := step_register_refused
  installs thread ctx hcall := by
    cases hold : s.provider with
    | none =>
      refine ⟨_, _, step_swap_empty hcall hold, rfl, rfl,
        fun _ => ⟨setCall_self _ _ _, rfl⟩, fun old heq => ?_⟩
      cases heq
    | some old =>
      refine ⟨_, _, step_swap hcall hold, rfl, rfl, fun heq => (by cases heq), fun old' heq => ?_⟩
      obtain rfl := Option.some.inj heq
      exact ⟨setCall_self _ _ _, rfl⟩
  frees thread ctx old hcall := by
    have hheld : (s.calls thread).ctx = some old := by
      rw [hcall]
      rfl
    exact ⟨h.releaseCount_held hheld, _, step_free hcall, setCall_self _ _ _, rfl,
      h.releaseCount_release hheld⟩
  accepted action s' hstep := by
    cases step_effect hstep with
    | quiet _ _ hreply _ => exact absurd rfl hreply
    | @freed thread ctx old hcall _ hregistered _ =>
      refine ⟨thread, ctx, ?_, .inr ⟨rfl, old, hcall⟩⟩
      rw [hregistered]
      exact h.served thread ctx old hcall
    | @swapped thread ctx hcall _ hregistered _ _ =>
      refine ⟨thread, ctx, ?_, .inl ⟨rfl, hcall⟩⟩
      rw [hregistered]
      exact List.mem_append_right _ (List.mem_singleton_self _)
  leaves action s' reply hstep hne := by
    cases step_effect hstep with
    | quiet hprovider _ _ _ => exact absurd hprovider hne
    | freed _ hprovider _ _ => exact absurd hprovider hne
    | @swapped thread ctx hcall hprovider _ hold _ =>
      exact ⟨thread, ctx, rfl, hcall, hprovider, hold⟩
  freed_by _ _ _ hstep _ := h.freed_by hstep
  retains thread _ retained hidle hprovider hlife :=
    ⟨_, step_retain hidle hprovider hlife,
      setCall_self _ thread (.retaining retained), rfl⟩
  retained thread ctx hcall := by
    have hheld : (s.calls thread).ctx = some ctx := by
      rw [hcall]
      rfl
    refine ⟨h.releaseCount_held hheld, ?_, ⟨_, step_release hcall, setCall_self _ _ _,
      h.releaseCount_release hheld⟩, fun _ _ _ hstep => h.keeps_retained hstep hcall⟩
    rw [step_use hcall]
    rfl

/-- **The slot of the trace API owns its provider exactly**, in every interleaving of the threads
that register, replace, retain and use it. -/
theorem trace_slot_owns_providers (actions : List Action) (s : State)
    (hrun : run .initial actions = some s) : Exact s :=
  (invariant_run invariant_initial hrun).exact

/-- A provider is replaced while a reference to it is in use. -/
def replaced : List Action :=
  [.create 1, .register 0 (some ⟨8, 1, 160⟩) 1, .swap 0, .retain 5 (some 2), .create 3,
    .register 0 (some ⟨16, 1, 160⟩) 3, .swap 0, .use 5, .free 0, .release 5]

theorem trace_slot_owns_providers_replaced :
    ∃ s, run .initial replaced = some s ∧ s.provider = some 3 ∧ s.registered = [1, 3] ∧
      Ledger.releaseCount s.ledger 1 = 1 ∧ Ledger.releaseCount s.ledger 2 = 1 ∧
      Ledger.releaseCount s.ledger 3 = 0 ∧ Exact s :=
  ⟨_, rfl, rfl, rfl, by decide, by decide, by decide, trace_slot_owns_providers replaced _ rfl⟩

end OtelC.Trace.Slot
