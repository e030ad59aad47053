import OtelC.Global.Ownership

/-!
# The slot owns its provider exactly

What the ledger of a run says about the contexts that were registered, about references that were
retained, and about the registration ids that were handed out.

* `slot_owns_providers`: every consequence for one state that a run reaches.
* `registration_ids_repeat`: after `2 ^ 64` registrations an id comes again.
-/

namespace OtelC.Global

open Ledger (Life)

/-! ### What a step leaves alone -/

/-- The thread that takes a step. -/
def Action.thread : Action → Option Nat
  | .create _ => none
  | .discard _ => none
  | .register thread _ _ _ => some thread
  | .swap thread => some thread
  | .unregister thread _ => some thread
  | .free thread => some thread
  | .retain thread _ => some thread
  | .use thread => some thread
  | .release thread => some thread

theorem takeOut_spec {s s' : State} {thread : Nat} {old : Option Nat} {id : Option UInt64}
    {answer : Option Answer} (h : takeOut s thread old id = some (s', answer)) :
    s'.global = s.global ∧ (∀ other ≠ thread, s'.calls other = s.calls other) ∧
      s'.taken = s.taken ∧
      ((old = none ∧ s'.calls thread = .idle ∧ s'.handedOut = s.handedOut ++ id.toList) ∨
        ∃ ctx, old = some ctx ∧ s'.calls thread = .freeing ctx id ∧ s'.handedOut = s.handedOut) := by
  cases old with
  | none =>
    obtain rfl := congrArg Prod.fst (Option.some.inj h).symm
    exact ⟨rfl, fun other hother => setCall_of_ne s _ hother, rfl, .inl ⟨rfl, setCall_self _ _ _, rfl⟩⟩
  | some ctx =>
    obtain rfl := congrArg Prod.fst (Option.some.inj h).symm
    exact ⟨rfl, fun other hother => setCall_of_ne s _ hother, rfl,
      .inr ⟨ctx, rfl, setCall_self _ _ _, rfl⟩⟩

/-- **What one step can do** to the slot, to the call of its thread and to the ids. -/
inductive Effect (s s' : State) : Action → Prop where
  /-- Nothing but an entry in the ledger. -/
  | quiet {action : Action} (hglobal : s'.global = s.global) (hcalls : s'.calls = s.calls)
      (htaken : s'.taken = s.taken) (hout : s'.handedOut = s.handedOut) : Effect s s' action
  | began {thread : Nat} {vtable : Vtable} {outId : OutId} {ctx : Nat}
      (hidle : s.calls thread = .idle) (hglobal : s'.global = s.global)
      (hcall : s'.calls thread = .installing ctx (nextRegistrationId s.counter).1)
      (htaken : s'.taken = s.taken ++ [(nextRegistrationId s.counter).1])
      (hout : s'.handedOut = s.handedOut) : Effect s s' (.register thread vtable outId ctx)
  | swapped {thread ctx : Nat} {id : UInt64} (hcall : s.calls thread = .installing ctx id)
      (hglobal : s'.global = ⟨some ctx, id⟩) (htaken : s'.taken = s.taken)
      (hout : (s.global.provider = none ∧ s'.calls thread = .idle ∧
          s'.handedOut = s.handedOut ++ [id]) ∨
        ∃ old, s.global.provider = some old ∧ s'.calls thread = .freeing old (some id) ∧
          s'.handedOut = s.handedOut) : Effect s s' (.swap thread)
  | cleared {thread : Nat} (hidle : s.calls thread = .idle) (hglobal : s'.global = .empty)
      (htaken : s'.taken = s.taken) (hout : s'.handedOut = s.handedOut)
      (hcall : (s.global.provider = none ∧ s'.calls thread = .idle) ∨
        ∃ old, s.global.provider = some old ∧ s'.calls thread = .freeing old none) :
      Effect s s' (.unregister thread s.global.registrationId)
  | freed {thread ctx : Nat} {id : Option UInt64} (hcall : s.calls thread = .freeing ctx id)
      (hglobal : s'.global = s.global) (hcall' : s'.calls thread = .idle)
      (htaken : s'.taken = s.taken) (hout : s'.handedOut = s.handedOut ++ id.toList) :
      Effect s s' (.free thread)
  | retained {thread ctx : Nat} (hidle : s.calls thread = .idle) (hglobal : s'.global = s.global)
      (hcall : s'.calls thread = .retaining ctx) (htaken : s'.taken = s.taken)
      (hout : s'.handedOut = s.handedOut) : Effect s s' (.retain thread (some ctx))
  | released {thread ctx : Nat} (hcall : s.calls thread = .retaining ctx)
      (hglobal : s'.global = s.global) (hcall' : s'.calls thread = .idle)
      (htaken : s'.taken = s.taken) (hout : s'.handedOut = s.handedOut) :
      Effect s s' (.release thread)

theorem setCall_idle {s : State} {thread : Nat} (h : s.calls thread = .idle) :
    s.setCall thread .idle = s := by
  rw [State.setCall, ← h, Function.update_eq_self]

/-- With the id of another registration `unregister` changes nothing at all. -/
theorem unregister_stale {signal : Signal} {s s' : State} {thread : Nat} {id : UInt64}
    {answer : Option Answer} (hid : s.global.registrationId ≠ id)
    (hstep : step signal s (.unregister thread id) = some (s', answer)) : s' = s := by
  rw [step] at hstep
  split at hstep
  · rename_i hidle
    split at hstep
    · exact congrArg Prod.fst (Option.some.inj hstep).symm
    · rw [unregister_of_ne hid] at hstep
      have hs' : s' = (s.setCall thread .idle).handOut none :=
        congrArg Prod.fst (Option.some.inj hstep).symm
      rw [hs', setCall_idle hidle, State.handOut, Option.toList_none, List.append_nil]
  · cases hstep

/-- A refused registration changes nothing. -/
theorem register_refused {signal : Signal} {s s' : State} {thread ctx : Nat} {vtable : Vtable}
    {outId : OutId} {e : Fail} {answer : Option Answer}
    (hcheck : checkRegister signal outId vtable = .error e)
    (hstep : step signal s (.register thread vtable outId ctx) = some (s', answer)) :
    s' = s ∧ answer = some ⟨e.status, some e.message, none⟩ := by
  rw [step] at hstep
  split at hstep
  · simp only [hcheck] at hstep
    have h := Option.some.inj hstep
    exact ⟨(congrArg Prod.fst h).symm, (congrArg Prod.snd h).symm⟩
  · cases hstep

theorem step_effect {signal : Signal} {s s' : State} {action : Action} {answer : Option Answer}
    (hstep : step signal s action = some (s', answer)) :
    Effect s s' action ∧ ∀ other, action.thread ≠ some other → s'.calls other = s.calls other := by
  cases action with
  | create ctx =>
    rw [step] at hstep
    split at hstep
    · obtain rfl := congrArg Prod.fst (Option.some.inj hstep).symm
      exact ⟨.quiet rfl rfl rfl rfl, fun _ _ => rfl⟩
    · cases hstep
  | discard ctx =>
    rw [step] at hstep
    split at hstep
    · obtain rfl := congrArg Prod.fst (Option.some.inj hstep).symm
      exact ⟨.quiet rfl rfl rfl rfl, fun _ _ => rfl⟩
    · cases hstep
  | register thread vtable outId ctx =>
    rw [step] at hstep
    split at hstep
    · rename_i hready
      split at hstep
      · obtain rfl := congrArg Prod.fst (Option.some.inj hstep).symm
        exact ⟨.quiet rfl rfl rfl rfl, fun _ _ => rfl⟩
      · obtain rfl := congrArg Prod.fst (Option.some.inj hstep).symm
        refine ⟨.began hready.1 rfl (setCall_self _ _ _) rfl rfl, fun other hother => ?_⟩
        exact setCall_of_ne _ _ fun heq => hother (congrArg some heq.symm)
    · cases hstep
  | swap thread =>
    rw [step] at hstep
    split at hstep
    · rename_i ctx id hcall
      obtain ⟨hglobal, hothers, htaken, hcase⟩ := takeOut_spec hstep
      refine ⟨.swapped hcall hglobal htaken ?_, fun other hother => ?_⟩
      · rcases hcase with ⟨hold, hcall', hout⟩ | ⟨old, hold, hcall', hout⟩
        · exact .inl ⟨hold, hcall', hout⟩
        · exact .inr ⟨old, hold, hcall', hout⟩
      · exact hothers other fun heq => hother (congrArg some heq.symm)
    · cases hstep
  | unregister thread id =>
    by_cases hid : s.global.registrationId = id
    · subst hid
      rw [step] at hstep
      split at hstep
      · rename_i hidle
        split at hstep
        · obtain rfl := congrArg Prod.fst (Option.some.inj hstep).symm
          exact ⟨.quiet rfl rfl rfl rfl, fun _ _ => rfl⟩
        · rw [unregister_self] at hstep
          obtain ⟨hglobal, hothers, htaken, hcase⟩ := takeOut_spec hstep
          refine ⟨?_, fun other hother => hothers other fun heq => hother (congrArg some heq.symm)⟩
          rcases hcase with ⟨hold, hcall, hout⟩ | ⟨old, hold, hcall, hout⟩
          · rw [Option.toList_none, List.append_nil] at hout
            exact .cleared hidle hglobal htaken hout (.inl ⟨hold, hcall⟩)
          · exact .cleared hidle hglobal htaken hout (.inr ⟨old, hold, hcall⟩)
      · cases hstep
    · obtain rfl := unregister_stale hid hstep
      exact ⟨.quiet rfl rfl rfl rfl, fun _ _ => rfl⟩
  | free thread =>
    rw [step] at hstep
    split at hstep
    · rename_i ctx id hcall
      obtain rfl := congrArg Prod.fst (Option.some.inj hstep).symm
      refine ⟨.freed hcall rfl (setCall_self _ _ _) rfl rfl, fun other hother => ?_⟩
      exact setCall_of_ne s _ fun heq => hother (congrArg some heq.symm)
    · cases hstep
  | retain thread made =>
    rw [step] at hstep
    split at hstep
    · rename_i hidle
      split at hstep
      · obtain rfl := congrArg Prod.fst (Option.some.inj hstep).symm
        exact ⟨.quiet rfl rfl rfl rfl, fun _ _ => rfl⟩
      · split at hstep
        · obtain rfl := congrArg Prod.fst (Option.some.inj hstep).symm
          exact ⟨.quiet rfl rfl rfl rfl, fun _ _ => rfl⟩
        · split at hstep
          · obtain rfl := congrArg Prod.fst (Option.some.inj hstep).symm
            refine ⟨.retained hidle rfl (setCall_self _ _ _) rfl rfl, fun other hother => ?_⟩
            exact setCall_of_ne _ _ fun heq => hother (congrArg some heq.symm)
          · cases hstep
    · cases hstep
  | use thread =>
    rw [step] at hstep
    split at hstep
    · obtain rfl := congrArg Prod.fst (Option.some.inj hstep).symm
      exact ⟨.quiet rfl rfl rfl rfl, fun _ _ => rfl⟩
    · cases hstep
  | release thread =>
    rw [step] at hstep
    split at hstep
    · rename_i ctx hcall
      obtain rfl := congrArg Prod.fst (Option.some.inj hstep).symm
      refine ⟨.released hcall rfl (setCall_self _ _ _) rfl rfl, fun other hother => ?_⟩
      exact setCall_of_ne s _ fun heq => hother (congrArg some heq.symm)
    · cases hstep

/-! ### The ids handed out -/

/-- The id a call will hand out. -/
def Pc.id : Pc → Option UInt64
  | .installing _ id => some id
  | .freeing _ id => id
  | _ => none

/-- The ids in the hands of callers, of calls and of the slot were taken. -/
structure IdsTaken (s : State) : Prop where
  handed : ∀ id ∈ s.handedOut, id ∈ s.taken
  pending : ∀ thread id, (s.calls thread).id = some id → id ∈ s.taken
  installed : ∀ ctx, s.global.provider = some ctx → s.global.registrationId ∈ s.taken

/-- Every id is handed out once, by the call that took it. -/
structure HandedOnce (s : State) : Prop where
  handed_nodup : s.handedOut.Nodup
  pending : ∀ thread id, (s.calls thread).id = some id → id ∉ s.handedOut
  pending_inj : ∀ thread other id, (s.calls thread).id = some id → (s.calls other).id = some id →
    thread = other

theorem idsTaken_initial : IdsTaken .initial := {
  handed := fun _ h => absurd h List.not_mem_nil
  pending := fun _ _ h => by cases h
  installed := fun _ h => by cases h }

/-- What is in whose hands comes from a call, or was there before. -/
theorem IdsTaken.of_call {s s' : State} (h : IdsTaken s) (thread : Nat)
    (hothers : ∀ other ≠ thread, s'.calls other = s.calls other)
    (htaken : ∀ id ∈ s.taken, id ∈ s'.taken)
    (hcall : ∀ id, (s'.calls thread).id = some id → id ∈ s'.taken)
    (hout : ∀ id ∈ s'.handedOut, id ∈ s.handedOut ∨ id ∈ s'.taken)
    (hglobal : s'.global = s.global ∨ s'.global.provider = none ∨
      s'.global.registrationId ∈ s'.taken) : IdsTaken s' where
  handed id hid := (hout id hid).elim (fun hid => htaken id (h.handed id hid)) fun hid => hid
  pending other id hid := by
    by_cases hother : other = thread
    · subst hother
      exact hcall id hid
    · rw [hothers other hother] at hid
      exact htaken id (h.pending other id hid)
  installed ctx hctx := by
    rcases hglobal with heq | hnone | hmem
    · rw [heq] at hctx ⊢
      exact htaken _ (h.installed ctx hctx)
    · cases hnone.symm.trans hctx
    · exact hmem

/-- The call of a thread changes and no id is taken or handed out. -/
theorem HandedOnce.keep {s s' : State} (h : HandedOnce s) (thread : Nat)
    (hothers : ∀ other ≠ thread, s'.calls other = s.calls other)
    (hcall : ∀ id, (s'.calls thread).id = some id → (s.calls thread).id = some id)
    (hout : s'.handedOut = s.handedOut) : HandedOnce s' := by
  have hcalls : ∀ other id, (s'.calls other).id = some id → (s.calls other).id = some id := by
    intro other id hid
    by_cases hother : other = thread
    · subst hother
      exact hcall id hid
    · rw [hothers other hother] at hid
      exact hid
  constructor
  · rw [hout]
    exact h.handed_nodup
  · intro other id hid
    rw [hout]
    exact h.pending other id (hcalls other id hid)
  · intro t t' id hid hid'
    exact h.pending_inj t t' id (hcalls t id hid) (hcalls t' id hid')

/-- A call takes a new id. -/
theorem HandedOnce.began {s s' : State} (h : HandedOnce s) (htaken : IdsTaken s) {thread : Nat}
    {id : UInt64} (hnew : id ∉ s.taken)
    (hothers : ∀ other ≠ thread, s'.calls other = s.calls other)
    (hcall : (s'.calls thread).id = some id) (hout : s'.handedOut = s.handedOut) :
    HandedOnce s' := by
  constructor
  · rw [hout]
    exact h.handed_nodup
  · intro other x hx
    rw [hout]
    by_cases hother : other = thread
    · subst hother
      obtain rfl := Option.some.inj (hcall.symm.trans hx)
      exact fun hmem => hnew (htaken.handed _ hmem)
    · rw [hothers other hother] at hx
      exact h.pending other x hx
  · have hne : ∀ other ≠ thread, (s'.calls other).id ≠ some id := by
      intro other hother hid
      rw [hothers other hother] at hid
      exact hnew (htaken.pending other id hid)
    intro t t' x hx hx'
    by_cases ht : t = thread
    · subst ht
      obtain rfl := Option.some.inj (hcall.symm.trans hx)
      by_contra hne'
      exact hne t' (Ne.symm hne') hx'
    · by_cases ht' : t' = thread
      · subst ht'
        obtain rfl := Option.some.inj (hcall.symm.trans hx')
        exact absurd hx (hne t ht)
      · rw [hothers t ht] at hx
        rw [hothers t' ht'] at hx'
        exact h.pending_inj t t' x hx hx'

/-- A call hands its id out. -/
theorem HandedOnce.handed {s s' : State} (h : HandedOnce s) {thread : Nat} {id : UInt64}
    (hid : (s.calls thread).id = some id)
    (hothers : ∀ other ≠ thread, s'.calls other = s.calls other)
    (hcall : s'.calls thread = .idle) (hout : s'.handedOut = s.handedOut ++ [id]) :
    HandedOnce s' := by
  have hnot := h.pending thread id hid
  have hcalls : ∀ other x, (s'.calls other).id = some x →
      other ≠ thread ∧ (s.calls other).id = some x := by
    intro other x hx
    by_cases hother : other = thread
    · subst hother
      rw [hcall] at hx
      cases hx
    · rw [hothers other hother] at hx
      exact ⟨hother, hx⟩
  constructor
  · rw [hout, List.nodup_append]
    refine ⟨h.handed_nodup, List.nodup_singleton _, ?_⟩
    rintro x hx y hy rfl
    rw [List.mem_singleton.mp hy] at hx
    exact hnot hx
  · intro other x hx
    obtain ⟨hother, hx⟩ := hcalls other x hx
    have hnot' := h.pending other x hx
    rw [hout]
    intro hx'
    rcases List.mem_append.mp hx' with hx' | hx'
    · exact hnot' hx'
    · rw [List.mem_singleton.mp hx'] at hx
      exact hother (h.pending_inj other thread id hx hid)
  · intro t t' x hx hx'
    exact h.pending_inj t t' x (hcalls t x hx).2 (hcalls t' x hx').2

theorem handedOnce_initial : HandedOnce .initial := {
  handed_nodup := List.nodup_nil
  pending := fun _ _ h => by cases h
  pending_inj := fun _ _ _ h => by cases h }

theorem taken_length_le {s s' : State} {action : Action} (h : Effect s s' action) :
    s.taken.length ≤ s'.taken.length := by
  cases h with
  | quiet _ _ htaken _ => rw [htaken]
  | began _ _ _ htaken _ =>
    rw [htaken, List.length_append]
    omega
  | swapped _ _ htaken _ => rw [htaken]
  | cleared _ _ htaken _ _ => rw [htaken]
  | freed _ _ _ htaken _ => rw [htaken]
  | retained _ _ _ htaken _ => rw [htaken]
  | released _ _ _ htaken _ => rw [htaken]

/-- The next id was not taken before, while there are fewer than `2 ^ 64`. -/
theorem next_notMem {s : State} (h : Ids s.counter s.taken)
    (hbound : s.taken.length + 1 < idRange) : (nextRegistrationId s.counter).1 ∉ s.taken := by
  have hnodup := h.next.nodup_iff.mpr (by rw [List.length_append]; exact hbound)
  rw [List.nodup_append] at hnodup
  exact fun hmem => hnodup.2.2 _ hmem _ (List.mem_singleton.mpr rfl) rfl

/-- The other calls, as a step of this thread leaves them. -/
theorem others_of_thread {s s' : State} {action : Action}
    (hothers : ∀ other, action.thread ≠ some other → s'.calls other = s.calls other)
    {thread : Nat} (hthread : action.thread = some thread) :
    ∀ other ≠ thread, s'.calls other = s.calls other := by
  intro other hother
  refine hothers other ?_
  rw [hthread]
  exact fun heq => hother (Option.some.inj heq).symm

theorem IdsTaken.step {s s' : State} {action : Action} (h : IdsTaken s)
    (heffect : Effect s s' action)
    (hothers : ∀ other, action.thread ≠ some other → s'.calls other = s.calls other) :
    IdsTaken s' := by
  cases heffect with
  | quiet hglobal hcalls htaken hout =>
    refine ⟨?_, ?_, ?_⟩
    · rw [hout, htaken]
      exact h.handed
    · rw [hcalls, htaken]
      exact h.pending
    · rw [hglobal, htaken]
      exact h.installed
  | @began thread vtable outId ctx _ hglobal hcall htaken hout =>
    have hmem : (nextRegistrationId s.counter).1 ∈ s'.taken := by
      rw [htaken]
      exact List.mem_append_right _ (List.mem_singleton_self _)
    refine h.of_call thread (others_of_thread hothers rfl) ?_ ?_ ?_ (.inl hglobal)
    · intro id hid
      rw [htaken]
      exact List.mem_append_left _ hid
    · intro id hid
      rw [hcall] at hid
      rw [← Option.some.inj hid]
      exact hmem
    · intro id hid
      rw [hout] at hid
      exact .inl hid
  | @swapped thread ctx id hcall hglobal htaken hout =>
    have hmem : id ∈ s'.taken := by
      rw [htaken]
      exact h.pending thread id (by rw [hcall]; rfl)
    refine h.of_call thread (others_of_thread hothers rfl) (fun _ hid => htaken ▸ hid) ?_ ?_
      (.inr (.inr (by rw [hglobal]; exact hmem)))
    · intro x hx
      rcases hout with ⟨-, hcall', -⟩ | ⟨old, -, hcall', -⟩
      · rw [hcall'] at hx
        cases hx
      · rw [hcall'] at hx
        rw [← Option.some.inj hx]
        exact hmem
    · intro x hx
      rcases hout with ⟨-, -, hout⟩ | ⟨old, -, -, hout⟩
      · rw [hout] at hx
        rcases List.mem_append.mp hx with hx | hx
        · exact .inl hx
        · rw [List.mem_singleton.mp hx]
          exact .inr hmem
      · rw [hout] at hx
        exact .inl hx
  | @cleared thread _ hglobal htaken hout hcall =>
    refine h.of_call thread (others_of_thread hothers rfl) (fun _ hid => htaken ▸ hid) ?_
      (fun x hx => .inl (hout ▸ hx)) (.inr (.inl (by rw [hglobal]; rfl)))
    intro x hx
    rcases hcall with ⟨-, hcall⟩ | ⟨old, -, hcall⟩ <;>
    · rw [hcall] at hx
      cases hx
  | @freed thread ctx id hcall hglobal hcall' htaken hout =>
    refine h.of_call thread (others_of_thread hothers rfl) (fun _ hid => htaken ▸ hid) ?_ ?_
      (.inl hglobal)
    · intro x hx
      rw [hcall'] at hx
      cases hx
    · intro x hx
      rw [hout] at hx
      rcases List.mem_append.mp hx with hx | hx
      · exact .inl hx
      · rw [htaken]
        refine .inr (h.pending thread x ?_)
        rw [hcall]
        exact Option.mem_toList.mp hx
  | @retained thread ctx _ hglobal hcall htaken hout =>
    refine h.of_call thread (others_of_thread hothers rfl) (fun _ hid => htaken ▸ hid) ?_
      (fun x hx => .inl (hout ▸ hx)) (.inl hglobal)
    intro x hx
    rw [hcall] at hx
    cases hx
  | @released thread ctx _ hglobal hcall' htaken hout =>
    refine h.of_call thread (others_of_thread hothers rfl) (fun _ hid => htaken ▸ hid) ?_
      (fun x hx => .inl (hout ▸ hx)) (.inl hglobal)
    intro x hx
    rw [hcall'] at hx
    cases hx

theorem IdsTaken.run {signal : Signal} {actions : List Action} {s s' : State} (h : IdsTaken s)
    (hrun : Global.run signal s actions = some s') : IdsTaken s' := by
  induction actions generalizing s with
  | nil =>
    obtain rfl := Option.some.inj hrun
    exact h
  | cons action actions ih =>
    obtain ⟨⟨s₁, answer⟩, hstep, hrest⟩ := Option.bind_eq_some_iff.mp hrun
    obtain ⟨heffect, hothers⟩ := step_effect hstep
    exact ih (h.step heffect hothers) hrest

theorem HandedOnce.step {s s' : State} {action : Action} (h : HandedOnce s) (hids : IdsTaken s)
    (hinv : Invariant s) (heffect : Effect s s' action)
    (hothers : ∀ other, action.thread ≠ some other → s'.calls other = s.calls other)
    (hbound : s'.taken.length < idRange) : HandedOnce s' := by
  have hne : ∀ {thread : Nat}, action.thread = some thread → ∀ other ≠ thread,
      s'.calls other = s.calls other := others_of_thread hothers
  cases heffect with
  | quiet _ hcalls _ hout =>
    exact h.keep 0 (fun other _ => congrFun hcalls other)
      (fun id hid => by rw [hcalls] at hid; exact hid) hout
  | began _ _ hcall htaken hout =>
    rw [htaken, List.length_append] at hbound
    exact h.began hids (next_notMem hinv.ids hbound) (hne rfl) (by rw [hcall]; rfl) hout
  | swapped hcall _ _ hout =>
    rcases hout with ⟨_, hcall', hout⟩ | ⟨old, _, hcall', hout⟩
    · exact h.handed (by rw [hcall]; rfl) (hne rfl) hcall' hout
    · refine h.keep _ (hne rfl) ?_ hout
      intro x hx
      rw [hcall'] at hx
      rw [hcall]
      exact hx
  | cleared _ _ _ hout hcall =>
    refine h.keep _ (hne rfl) ?_ hout
    intro x hx
    rcases hcall with ⟨_, hcall⟩ | ⟨old, _, hcall⟩
    · rw [hcall] at hx
      cases hx
    · rw [hcall] at hx
      cases hx
  | @freed thread ctx id hcall _ hcall' _ hout =>
    cases id with
    | none =>
      rw [Option.toList_none, List.append_nil] at hout
      refine h.keep thread (hne rfl) ?_ hout
      intro x hx
      rw [hcall'] at hx
      cases hx
    | some id => exact h.handed (by rw [hcall]; rfl) (hne rfl) hcall' hout
  | @retained thread ctx _ _ hcall _ hout =>
    refine h.keep thread (hne rfl) ?_ hout
    intro x hx
    rw [hcall] at hx
    cases hx
  | @released thread ctx _ _ hcall' _ hout =>
    refine h.keep thread (hne rfl) ?_ hout
    intro x hx
    rw [hcall'] at hx
    cases hx

theorem taken_length_le_run {signal : Signal} {actions : List Action} {s s' : State}
    (hrun : run signal s actions = some s') : s.taken.length ≤ s'.taken.length := by
  induction actions generalizing s with
  | nil =>
    obtain rfl := Option.some.inj hrun
    exact Nat.le_refl _
  | cons action actions ih =>
    obtain ⟨⟨s₁, answer⟩, hstep, hrest⟩ := Option.bind_eq_some_iff.mp hrun
    exact (taken_length_le (step_effect hstep).1).trans (ih hrest)

theorem HandedOnce.run {signal : Signal} {actions : List Action} {s s' : State}
    (h : HandedOnce s) (hids : IdsTaken s) (hinv : Invariant s)
    (hrun : Global.run signal s actions = some s')
    (hbound : s'.taken.length < idRange) : HandedOnce s' := by
  induction actions generalizing s with
  | nil =>
    obtain rfl := Option.some.inj hrun
    exact h
  | cons action actions ih =>
    obtain ⟨⟨s₁, answer⟩, hstep, hrest⟩ := Option.bind_eq_some_iff.mp hrun
    obtain ⟨heffect, hothers⟩ := step_effect hstep
    have hbound₁ : s₁.taken.length < idRange := (taken_length_le_run hrest).trans_lt hbound
    exact ih (h.step hids hinv heffect hothers hbound₁) (hids.step heffect hothers)
      (hinv.step hstep) hrest

/-! ### Exact ownership -/

/-- What becomes of a registered context: it is in the slot and was not freed, one call is about to
free it, or it was freed once. -/
inductive Fate (s : State) (ctx : Nat) : Prop where
  | installed (hslot : s.global.provider = some ctx)
      (hcount : Ledger.releaseCount s.ledger ctx = 0)
  | leaving {thread : Nat} {id : Option UInt64} (hcall : s.calls thread = .freeing ctx id)
      (honly : ∀ other, (s.calls other).ctx = some ctx → other = thread)
      (hslot : s.global.provider ≠ some ctx) (hcount : Ledger.releaseCount s.ledger ctx = 0)
  | freed (hslot : s.global.provider ≠ some ctx) (hcalls : ∀ thread, (s.calls thread).ctx ≠ some ctx)
      (hcount : Ledger.releaseCount s.ledger ctx = 1)

theorem Invariant.releaseCount_held {s : State} (h : Invariant s) {holder : Holder} {ctx : Nat}
    (hlife : s.life ctx = .held holder) : Ledger.releaseCount s.ledger ctx = 0 := by
  have hcount := Ledger.releaseCount_eq h.sound ctx
  have hlives : Ledger.lives s.ledger ctx = .held holder := hlife
  rw [hlives] at hcount
  exact hcount

theorem Invariant.releaseCount_released {s : State} (h : Invariant s) {ctx : Nat}
    (hlife : s.life ctx = .released) : Ledger.releaseCount s.ledger ctx = 1 := by
  have hcount := Ledger.releaseCount_eq h.sound ctx
  have hlives : Ledger.lives s.ledger ctx = .released := hlife
  rw [hlives] at hcount
  exact hcount

/-- What was just freed was freed once. -/
theorem Invariant.releaseCount_released_of_release {s : State} {ctx : Nat}
    (h : Invariant (s.log (.release ctx))) :
    Ledger.releaseCount (s.log (.release ctx)).ledger ctx = 1 := by
  apply h.releaseCount_released
  rw [life_log]
  exact Ledger.apply_release_self _ _

theorem Invariant.fate {s : State} (h : Invariant s) {ctx : Nat} (hctx : ctx ∈ s.registered) :
    Fate s ctx := by
  have hslot : s.global.provider = some ctx → s.life ctx = .held .slot :=
    (h.agrees .slot tracked_slot ctx).mpr
  have hcall : ∀ thread, (s.calls thread).ctx = some ctx → s.life ctx = .held (.call thread) :=
    fun thread => (h.agrees _ (tracked_call thread) ctx).mpr
  rcases h.registered ctx hctx with hlife | ⟨thread, id, hfreeing⟩ | hlife
  · exact .installed ((h.agrees .slot tracked_slot ctx).mp hlife) (h.releaseCount_held hlife)
  · have hlife := hcall thread (by rw [hfreeing]; rfl)
    refine .leaving hfreeing ?_ ?_ (h.releaseCount_held hlife)
    · intro other hother
      exact (Holder.call.inj (Life.held.inj (hlife.symm.trans (hcall other hother)))).symm
    · intro hinstalled
      cases hlife.symm.trans (hslot hinstalled)
  · refine .freed ?_ ?_ (h.releaseCount_released hlife)
    · intro hinstalled
      cases hlife.symm.trans (hslot hinstalled)
    · intro thread hthread
      cases hlife.symm.trans (hcall thread hthread)

/-- **The slot changes hands only by a swap, or by the id of what is in it**, and the call that
changed it then has what came out. -/
theorem global_of_step {signal : Signal} {s s' : State} {action : Action} {answer : Option Answer}
    (hstep : step signal s action = some (s', answer)) (hne : s'.global ≠ s.global) :
    ∃ thread, (action = .swap thread ∨ action = .unregister thread s.global.registrationId) ∧
      ∀ old, s.global.provider = some old → ∃ id, s'.calls thread = .freeing old id := by
  cases (step_effect hstep).1 with
  | quiet hglobal _ _ _ => exact absurd hglobal hne
  | began _ hglobal _ _ _ => exact absurd hglobal hne
  | @swapped thread ctx id _ _ _ hout =>
    refine ⟨thread, .inl rfl, fun old hold => ?_⟩
    rcases hout with ⟨hnone, _, _⟩ | ⟨old', hold', hcall', _⟩
    · cases hold.symm.trans hnone
    · obtain rfl := Option.some.inj (hold.symm.trans hold')
      exact ⟨some id, hcall'⟩
  | @cleared thread _ _ _ _ hcall =>
    refine ⟨thread, .inr rfl, fun old hold => ?_⟩
    rcases hcall with ⟨hnone, _⟩ | ⟨old', hold', hcall'⟩
    · cases hold.symm.trans hnone
    · obtain rfl := Option.some.inj (hold.symm.trans hold')
      exact ⟨none, hcall'⟩
  | freed _ hglobal _ _ _ => exact absurd hglobal hne
  | retained _ hglobal _ _ _ => exact absurd hglobal hne
  | released _ hglobal _ _ _ => exact absurd hglobal hne

/-- A retained reference stays with its thread until that thread releases it. -/
theorem retaining_of_step {signal : Signal} {s s' : State} {action : Action}
    {answer : Option Answer} {thread ctx : Nat} (hcall : s.calls thread = .retaining ctx)
    (hstep : step signal s action = some (s', answer)) (haction : action ≠ .release thread) :
    s'.calls thread = .retaining ctx := by
  obtain ⟨heffect, hothers⟩ := step_effect hstep
  by_cases hthread : action.thread = some thread
  · cases heffect with
    | quiet _ hcalls _ _ => rw [hcalls, hcall]
    | began hidle _ _ _ _ =>
      obtain rfl := Option.some.inj hthread
      cases hidle.symm.trans hcall
    | swapped hcall' _ _ _ =>
      obtain rfl := Option.some.inj hthread
      cases hcall'.symm.trans hcall
    | cleared hidle _ _ _ _ =>
      obtain rfl := Option.some.inj hthread
      cases hidle.symm.trans hcall
    | freed hcall' _ _ _ _ =>
      obtain rfl := Option.some.inj hthread
      cases hcall'.symm.trans hcall
    | retained hidle _ _ _ _ =>
      obtain rfl := Option.some.inj hthread
      cases hidle.symm.trans hcall
    | released _ _ _ _ _ =>
      obtain rfl := Option.some.inj hthread
      exact absurd rfl haction
  · rw [hothers thread hthread, hcall]

theorem release_retained {signal : Signal} {s : State} {thread ctx : Nat}
    (hcall : s.calls thread = .retaining ctx) :
    step signal s (.release thread) = continued ((s.setCall thread .idle).log (.release ctx)) := by
  rw [step, hcall]

theorem use_retained {signal : Signal} {s : State} {thread ctx : Nat}
    (hcall : s.calls thread = .retaining ctx) :
    step signal s (.use thread) = continued (s.log (.use ctx)) := by
  rw [step, hcall]

theorem releaseCount_log (s : State) (e : Entry) (ctx : Nat) :
    Ledger.releaseCount (s.log e).ledger ctx =
      Ledger.releaseCount s.ledger ctx + if Ledger.isRelease ctx e then 1 else 0 :=
  Ledger.releaseCount_concat s.ledger e ctx

theorem releaseCount_takeOut {s s' : State} {thread : Nat} {old : Option Nat} {id : Option UInt64}
    {answer : Option Answer} (h : takeOut s thread old id = some (s', answer)) (ctx : Nat) :
    Ledger.releaseCount s'.ledger ctx = Ledger.releaseCount s.ledger ctx := by
  cases old with
  | none =>
    obtain rfl := congrArg Prod.fst (Option.some.inj h).symm
    rfl
  | some old =>
    obtain rfl := congrArg Prod.fst (Option.some.inj h).symm
    exact releaseCount_log _ _ ctx

/-- Only these steps free a context. -/
theorem releaseCount_step {signal : Signal} {s s' : State} {action : Action}
    {answer : Option Answer} {ctx : Nat} (hstep : step signal s action = some (s', answer))
    (hne : Ledger.releaseCount s'.ledger ctx ≠ Ledger.releaseCount s.ledger ctx) :
    s.life ctx = .held .caller ∨
      (∃ thread id, action = .free thread ∧ s.calls thread = .freeing ctx id) ∨
      ∃ thread, action = .release thread ∧ s.calls thread = .retaining ctx := by
  cases action with
  | create other =>
    rw [step] at hstep
    split at hstep
    · obtain rfl := congrArg Prod.fst (Option.some.inj hstep).symm
      exact absurd (releaseCount_log s _ ctx) hne
    · cases hstep
  | discard other =>
    rw [step] at hstep
    split at hstep
    · rename_i hlife
      obtain rfl := congrArg Prod.fst (Option.some.inj hstep).symm
      rw [releaseCount_log] at hne
      by_cases hother : other = ctx
      · subst hother
        exact .inl hlife
      · exact absurd (by simp [Ledger.isRelease, hother]) hne
    · cases hstep
  | register thread vtable outId other =>
    rw [step] at hstep
    split at hstep
    · split at hstep
      · obtain rfl := congrArg Prod.fst (Option.some.inj hstep).symm
        exact absurd rfl hne
      · obtain rfl := congrArg Prod.fst (Option.some.inj hstep).symm
        exact absurd (releaseCount_log _ _ ctx) hne
    · cases hstep
  | swap thread =>
    rw [step] at hstep
    split at hstep
    · exact absurd ((releaseCount_takeOut hstep ctx).trans (releaseCount_log _ _ ctx)) hne
    · cases hstep
  | unregister thread id =>
    rw [step] at hstep
    split at hstep
    · split at hstep
      · obtain rfl := congrArg Prod.fst (Option.some.inj hstep).symm
        exact absurd rfl hne
      · exact absurd (releaseCount_takeOut hstep ctx) hne
    · cases hstep
  | free thread =>
    rw [step] at hstep
    split at hstep
    · rename_i other id hcall
      obtain rfl := congrArg Prod.fst (Option.some.inj hstep).symm
      by_cases hother : other = ctx
      · subst hother
        exact .inr (.inl ⟨thread, id, rfl, hcall⟩)
      · have hcount := releaseCount_log (s.setCall thread .idle) (.release other) ctx
        exact absurd (hcount.trans (by simp [Ledger.isRelease, hother, State.setCall])) hne
    · cases hstep
  | retain thread made =>
    rw [step] at hstep
    split at hstep
    · split at hstep
      · obtain rfl := congrArg Prod.fst (Option.some.inj hstep).symm
        exact absurd rfl hne
      · rename_i used _
        have hused : Ledger.releaseCount (s.log (.use used)).ledger ctx =
            Ledger.releaseCount s.ledger ctx := releaseCount_log s _ ctx
        split at hstep
        · obtain rfl := congrArg Prod.fst (Option.some.inj hstep).symm
          exact absurd hused hne
        · rename_i retained
          split at hstep
          · obtain rfl := congrArg Prod.fst (Option.some.inj hstep).symm
            have hacquired := releaseCount_log ((s.log (.use used)).setCall thread
              (.retaining retained)) (.acquire retained (.call thread)) ctx
            exact absurd (hacquired.trans hused) hne
          · cases hstep
    · cases hstep
  | use thread =>
    rw [step] at hstep
    split at hstep
    · obtain rfl := congrArg Prod.fst (Option.some.inj hstep).symm
      exact absurd (releaseCount_log s _ ctx) hne
    · cases hstep
  | release thread =>
    rw [step] at hstep
    split at hstep
    · rename_i other hcall
      obtain rfl := congrArg Prod.fst (Option.some.inj hstep).symm
      by_cases hother : other = ctx
      · subst hother
        exact .inr (.inr ⟨thread, rfl, hcall⟩)
      · have hcount := releaseCount_log (s.setCall thread .idle) (.release other) ctx
        exact absurd (hcount.trans (by simp [Ledger.isRelease, hother, State.setCall])) hne
    · cases hstep

/-! ### What the calls do -/

/-- The states after the steps of a registration. -/
def State.began (s : State) (thread ctx : Nat) : State :=
  ({ s with
    counter := (nextRegistrationId s.counter).2
    taken := s.taken ++ [(nextRegistrationId s.counter).1] }.setCall thread
      (.installing ctx (nextRegistrationId s.counter).1)).log (.move ctx (.call thread))

def State.installed (s : State) (ctx : Nat) (id : UInt64) : State :=
  { s with global := ⟨some ctx, id⟩, registered := s.registered ++ [ctx] }.log (.move ctx .slot)

def State.swapped (s : State) (thread ctx old : Nat) (id : UInt64) : State :=
  ((s.installed ctx id).setCall thread (.freeing old (some id))).log (.move old (.call thread))

def State.freed (s : State) (thread ctx : Nat) (id : Option UInt64) : State :=
  ((s.setCall thread .idle).log (.release ctx)).handOut id

section Calls

variable {signal : Signal} {s s' : State} {thread ctx : Nat}

theorem step_register {vtable : Vtable} {outId : OutId} (hidle : s.calls thread = .idle)
    (hlife : s.life ctx = .held .caller) (hcheck : checkRegister signal outId vtable = .ok ()) :
    step signal s (.register thread vtable outId ctx) = continued (s.began thread ctx) := by
  rw [step, if_pos ⟨hidle, hlife⟩, hcheck]
  rfl

theorem step_register_refused {vtable : Vtable} {outId : OutId} {e : Fail}
    (hidle : s.calls thread = .idle) (hlife : s.life ctx = .held .caller)
    (hcheck : checkRegister signal outId vtable = .error e) :
    step signal s (.register thread vtable outId ctx) =
      answered s ⟨e.status, some e.message, none⟩ := by
  rw [step, if_pos ⟨hidle, hlife⟩, hcheck]

/-- The slot was empty: the swap is the end of the registration. -/
theorem step_swap_empty {id : UInt64} (hcall : s.calls thread = .installing ctx id)
    (hnone : s.global.provider = none) : step signal s (.swap thread) =
      answered (((s.installed ctx id).setCall thread .idle).handOut (some id))
        ⟨.ok, none, some id⟩ := by
  rw [step, hcall]
  dsimp only [GlobalProvider.install]
  rw [hnone]
  rfl

theorem step_swap {old : Nat} {id : UInt64} (hcall : s.calls thread = .installing ctx id)
    (hold : s.global.provider = some old) :
    step signal s (.swap thread) = continued (s.swapped thread ctx old id) := by
  rw [step, hcall]
  dsimp only [GlobalProvider.install]
  rw [hold]
  rfl

theorem step_unregister_stale {id : UInt64} (hidle : s.calls thread = .idle)
    (hid : id ≠ s.global.registrationId) : step signal s (.unregister thread id) =
      answered s (if id = 0 then ⟨.invalidArgument, some signal.zeroToken, none⟩
        else ⟨.ok, none, none⟩) := by
  rw [step, if_pos hidle]
  by_cases hzero : id = 0
  · rw [if_pos hzero, if_pos hzero]
  · rw [if_neg hzero, if_neg hzero, unregister_of_ne (Ne.symm hid)]
    show answered ((s.setCall thread .idle).handOut none) _ = _
    rw [setCall_idle hidle, State.handOut, Option.toList_none, List.append_nil]

theorem step_unregister (hidle : s.calls thread = .idle) (hprovider : s.global.provider = some ctx)
    (hid : s.global.registrationId ≠ 0) :
    step signal s (.unregister thread s.global.registrationId) =
      continued (({ s with global := .empty }.setCall thread (.freeing ctx none)).log
        (.move ctx (.call thread))) := by
  rw [step, if_pos hidle, if_neg hid, unregister_self, hprovider]
  rfl

theorem step_free {id : Option UInt64} (hcall : s.calls thread = .freeing ctx id) :
    step signal s (.free thread) = answered (s.freed thread ctx id) ⟨.ok, none, id⟩ := by
  rw [step, hcall]
  rfl

theorem step_retain {retained : Nat} (hidle : s.calls thread = .idle)
    (hprovider : s.global.provider = some ctx) (hlife : s.life retained = .unborn) :
    step signal s (.retain thread (some retained)) =
      continued (((s.log (.use ctx)).setCall thread (.retaining retained)).log
        (.acquire retained (.call thread))) := by
  rw [step, if_pos hidle, hprovider]
  exact if_pos hlife

theorem handedOut_takeOut {old : Option Nat} {id : Option UInt64} {answer : Option Answer}
    (h : takeOut s thread old id = some (s', answer)) :
    s'.handedOut = s.handedOut ++ (answer.bind Answer.id).toList := by
  cases old with
  | none =>
    obtain ⟨rfl, rfl⟩ := Prod.mk.inj (Option.some.inj h)
    rfl
  | some old =>
    obtain ⟨rfl, rfl⟩ := Prod.mk.inj (Option.some.inj h)
    exact (List.append_nil _).symm

/-- The ids handed out are those of the answers. -/
theorem handedOut_step {action : Action} {answer : Option Answer}
    (hstep : step signal s action = some (s', answer)) :
    s'.handedOut = s.handedOut ++ (answer.bind Answer.id).toList := by
  have hquiet : ∀ {t : State} {a : Option Answer}, some (t, a) = some (s', answer) →
      t.handedOut = s.handedOut → a.bind Answer.id = none →
      s'.handedOut = s.handedOut ++ (answer.bind Answer.id).toList := by
    intro t a h hout ha
    obtain ⟨rfl, rfl⟩ := Prod.mk.inj (Option.some.inj h)
    rw [hout, ha, Option.toList_none, List.append_nil]
  unfold step at hstep
  split at hstep
  · split at hstep
    · exact hquiet hstep rfl rfl
    · cases hstep
  · split at hstep
    · exact hquiet hstep rfl rfl
    · cases hstep
  · split at hstep
    · split at hstep
      · exact hquiet hstep rfl rfl
      · exact hquiet hstep rfl rfl
    · cases hstep
  · split at hstep
    · have hout := handedOut_takeOut hstep
      exact hout
    · cases hstep
  · split at hstep
    · split at hstep
      · exact hquiet hstep rfl rfl
      · have hout := handedOut_takeOut hstep
        exact hout
    · cases hstep
  · split at hstep
    · obtain ⟨rfl, rfl⟩ := Prod.mk.inj (Option.some.inj hstep)
      rfl
    · cases hstep
  · split at hstep
    · split at hstep
      · exact hquiet hstep rfl rfl
      · split at hstep
        · exact hquiet hstep rfl rfl
        · split at hstep
          · exact hquiet hstep rfl rfl
          · cases hstep
    · cases hstep
  · split at hstep
    · exact hquiet hstep rfl rfl
    · cases hstep
  · split at hstep
    · exact hquiet hstep rfl rfl
    · cases hstep

end Calls

/-- What the slot, its users and its ids keep to. -/
structure Exact (signal : Signal) (s : State) : Prop where
  /-- Nothing is freed twice, and nothing is used after it was freed. -/
  sound : Ledger.Sound s.ledger
  fate : ∀ ctx ∈ s.registered, Fate s ctx
  /-- An accepted registration takes an id and the context from its caller. -/
  registers : ∀ thread vtable outId ctx, s.calls thread = .idle → s.life ctx = .held .caller →
    checkRegister signal outId vtable = .ok () →
    ∃ s' id, step signal s (.register thread vtable outId ctx) = some (s', none) ∧
      s'.calls thread = .installing ctx id ∧ s'.taken = s.taken ++ [id] ∧ s'.global = s.global
  /-- A refused one leaves the slot and the context as they are. -/
  refuses : ∀ thread vtable outId ctx e, s.calls thread = .idle → s.life ctx = .held .caller →
    checkRegister signal outId vtable = .error e →
    step signal s (.register thread vtable outId ctx) =
      some (s, some ⟨e.status, some e.message, none⟩)
  refused : ∀ thread vtable outId ctx e s' answer, checkRegister signal outId vtable = .error e →
    step signal s (.register thread vtable outId ctx) = some (s', answer) → s' = s
  /-- The context goes into the slot under its id; what was there is for the call to free, and
  where nothing was the call answers with the id. -/
  installs : ∀ thread ctx id, s.calls thread = .installing ctx id →
    ∃ s' answer, step signal s (.swap thread) = some (s', answer) ∧ s'.global = ⟨some ctx, id⟩ ∧
      s'.registered = s.registered ++ [ctx] ∧
      (s.global.provider = none → s'.calls thread = .idle ∧ answer = some ⟨.ok, none, some id⟩) ∧
      ∀ old, s.global.provider = some old →
        s'.calls thread = .freeing old (some id) ∧ answer = none
  /-- Its own id takes the context out of the slot, for the call to free. -/
  unregisters : ∀ thread ctx, s.calls thread = .idle → s.global.provider = some ctx →
    ∃ s', step signal s (.unregister thread s.global.registrationId) = some (s', none) ∧
      s'.global = .empty ∧ s'.calls thread = .freeing ctx none
  /-- Any other id changes nothing. -/
  stale : ∀ thread id s' answer, id ≠ s.global.registrationId →
    step signal s (.unregister thread id) = some (s', answer) → s' = s
  stale_answer : ∀ thread id, s.calls thread = .idle → id ≠ s.global.registrationId →
    step signal s (.unregister thread id) =
      some (s, some (if id = 0 then ⟨.invalidArgument, some signal.zeroToken, none⟩
        else ⟨.ok, none, none⟩))
  /-- What came out of the slot is freed once, and then the call answers with the id it took. -/
  frees : ∀ thread ctx id, s.calls thread = .freeing ctx id →
    Ledger.releaseCount s.ledger ctx = 0 ∧
      ∃ s', step signal s (.free thread) = some (s', some ⟨.ok, none, id⟩) ∧
        s'.calls thread = .idle ∧ s'.global = s.global ∧ Ledger.releaseCount s'.ledger ctx = 1
  leaves : ∀ action s' answer, step signal s action = some (s', answer) → s'.global ≠ s.global →
    ∃ thread, (action = .swap thread ∨ action = .unregister thread s.global.registrationId) ∧
      ∀ old, s.global.provider = some old → ∃ id, s'.calls thread = .freeing old id
  /-- Only the call that took a registered context out of the slot frees it. -/
  freed_by : ∀ action s' answer, step signal s action = some (s', answer) → ∀ ctx ∈ s.registered,
    Ledger.releaseCount s'.ledger ctx ≠ Ledger.releaseCount s.ledger ctx →
      ∃ thread id, action = .free thread ∧ s.calls thread = .freeing ctx id
  /-- The installed provider gives out a reference of its own. -/
  retains : ∀ thread ctx retained, s.calls thread = .idle → s.global.provider = some ctx →
    s.life retained = .unborn →
    ∃ s', step signal s (.retain thread (some retained)) = some (s', none) ∧
      s'.calls thread = .retaining retained ∧ s'.global = s.global
  /-- A retained reference was not freed, can be used and released, and no other step takes it. -/
  retained : ∀ thread ctx, s.calls thread = .retaining ctx →
    Ledger.releaseCount s.ledger ctx = 0 ∧ (step signal s (.use thread)).isSome ∧
      (∃ s', step signal s (.release thread) = some (s', none) ∧ s'.calls thread = .idle ∧
        Ledger.releaseCount s'.ledger ctx = 1) ∧
      ∀ action s' answer, step signal s action = some (s', answer) → action ≠ .release thread →
        s'.calls thread = .retaining ctx
  /-- The ids handed out are those of the answers. -/
  handedOut_eq : ∀ action s' answer, step signal s action = some (s', answer) →
    s'.handedOut = s.handedOut ++ (answer.bind Answer.id).toList
  handedOut_ne_zero : ∀ id ∈ s.handedOut, id ≠ 0

theorem Invariant.exact {signal : Signal} {s : State} (h : Invariant s) (hids : IdsTaken s) :
    Exact signal s := {
  sound := h.sound
  fate := fun ctx hctx => h.fate hctx
  registers := fun thread _ _ ctx hidle hlife hcheck =>
    ⟨_, _, step_register hidle hlife hcheck, setCall_self _ thread (.installing ctx _), rfl, rfl⟩
  refuses := fun _ _ _ _ _ => step_register_refused
  refused := fun _ _ _ _ _ _ _ hcheck hstep => (register_refused hcheck hstep).1
  installs := by
    intro thread ctx id hcall
    cases hold : s.global.provider with
    | none =>
      refine ⟨_, _, step_swap_empty hcall hold, rfl, rfl, fun _ => ⟨setCall_self _ _ _, rfl⟩, ?_⟩
      intro old heq
      cases heq
    | some old =>
      refine ⟨_, _, step_swap hcall hold, rfl, rfl, fun heq => (by cases heq), ?_⟩
      intro old' heq
      obtain rfl := Option.some.inj heq
      exact ⟨setCall_self _ _ _, rfl⟩
  unregisters := fun thread ctx hidle hprovider =>
    ⟨_, step_unregister hidle hprovider (h.ids.ne_zero (hids.installed ctx hprovider)), rfl,
      setCall_self _ _ _⟩
  stale := fun _ _ _ _ hid => unregister_stale (Ne.symm hid)
  stale_answer := fun _ _ => step_unregister_stale
  frees := by
    intro thread ctx id hcall
    have hholds : s.holds (.call thread) ctx := by
      rw [State.holds, hcall]
      rfl
    have hlife := (h.agrees _ (tracked_call thread) ctx).mpr hholds
    refine ⟨h.releaseCount_held hlife, _, step_free hcall, setCall_self _ _ _, rfl, ?_⟩
    exact (h.release hholds).releaseCount_released_of_release
  leaves := fun _ _ _ => global_of_step
  freed_by := by
    intro action s' answer hstep ctx hctx hne
    obtain ⟨-, hcaller, hcalls⟩ := h.registered_life hctx
    rcases releaseCount_step hstep hne with hlife | hfree | ⟨thread, -, hcall⟩
    · exact absurd hlife hcaller
    · exact hfree
    · obtain ⟨id, hfreeing⟩ := hcalls thread (by rw [hcall]; rfl)
      cases hcall.symm.trans hfreeing
  retains := fun thread ctx retained hidle hprovider hlife =>
    ⟨_, step_retain hidle hprovider hlife, setCall_self _ thread (.retaining retained), rfl⟩
  retained := by
    intro thread ctx hcall
    have hholds : s.holds (.call thread) ctx := by
      rw [State.holds, hcall]
      rfl
    have hlife := (h.agrees _ (tracked_call thread) ctx).mpr hholds
    refine ⟨h.releaseCount_held hlife, ?_, ?_, fun _ _ _ => retaining_of_step hcall⟩
    · rw [use_retained hcall]
      rfl
    · refine ⟨_, release_retained hcall, setCall_self s thread .idle, ?_⟩
      exact (h.release hholds).releaseCount_released_of_release
  handedOut_eq := fun _ _ _ => handedOut_step
  handedOut_ne_zero := fun id hid => h.ids.ne_zero (hids.handed id hid) }

/-- **The global slot owns its provider exactly**, in every run; while a run takes fewer than
`2 ^ 64` registration ids, those handed out are distinct. -/
theorem slot_owns_providers (signal : Signal) (actions : List Action) (s : State)
    (hrun : run signal .initial actions = some s) :
    Exact signal s ∧ (s.taken.length < 2 ^ 64 → s.handedOut.Nodup) := by
  have hids := idsTaken_initial.run hrun
  refine ⟨(invariant_run hrun).exact hids, fun hbound => ?_⟩
  exact (handedOnce_initial.run idsTaken_initial invariant_initial hrun hbound).handed_nodup

/-- A provider is installed and retained, and replaced by a second one while the reference is in
use; the second one is taken out with its id. -/
def replaced : List Action :=
  [.create 1, .register 0 .compatible .writable 1, .swap 0, .retain 5 (some 2), .create 3,
    .register 0 .compatible .absent 3, .swap 0, .use 5, .free 0, .release 5, .unregister 0 2, .free 0]

theorem slot_owns_providers_replaced :
    ∃ s, run metrics .initial replaced = some s ∧ s.global = .empty ∧ s.handedOut = [1, 2] ∧
      (∀ ctx ∈ [1, 2, 3], Ledger.releaseCount s.ledger ctx = 1) ∧ Exact metrics s ∧
      s.handedOut.Nodup := by
  have howns := slot_owns_providers metrics replaced _ rfl
  exact ⟨_, rfl, rfl, rfl, by decide, howns.1, howns.2 (by decide)⟩

/-! ### The limit of the registration ids -/

theorem run_append {signal : Signal} {s s' : State} {a b : List Action}
    (h : run signal s a = some s') : run signal s (a ++ b) = run signal s' b := by
  induction a generalizing s with
  | nil =>
    obtain rfl := Option.some.inj h
    rfl
  | cons action a ih =>
    obtain ⟨⟨s₁, answer⟩, hstep, hrest⟩ := Option.bind_eq_some_iff.mp h
    rw [List.cons_append, run, hstep]
    exact ih hrest

/-- One thread after the other registers a provider, which replaces the one before. -/
def registrations : Nat → List Action
  | 0 => [.create 0, .register 0 .compatible .writable 0, .swap 0]
  | n + 1 => registrations n ++ [.create (n + 1), .register (n + 1) .compatible .writable (n + 1),
      .swap (n + 1), .free (n + 1)]

/-- After `n + 1` registrations every id that was taken was handed out. -/
structure Registered (n : Nat) (s : State) : Prop where
  provider : s.global.provider = some n
  idle : ∀ thread, n < thread → s.calls thread = .idle
  unborn : ∀ ctx, n < ctx → s.life ctx = .unborn
  handedOut : s.handedOut = s.taken
  length : s.taken.length = n + 1

section Steps

variable {signal : Signal} {s s' : State} {ctx : Nat}

theorem step_create (h : s.life ctx = .unborn) :
    step signal s (.create ctx) = continued (s.log (.acquire ctx .caller)) := by
  rw [step, if_pos h]

theorem run_cons {action : Action} {actions : List Action} {answer : Option Answer}
    (h : step signal s action = some (s', answer)) :
    run signal s (action :: actions) = run signal s' actions := by
  rw [run, h]
  rfl

end Steps

theorem life_log_of_ne (s : State) {e : Entry} {ctx : Nat} (h : ctx ≠ e.ref) :
    (s.log e).life ctx = s.life ctx := by
  rw [life_log]
  exact Ledger.apply_of_ne h

theorem registered_succ {signal : Signal} {n : Nat} {s : State} (h : Registered n s) :
    ∃ s', run signal s [.create (n + 1), .register (n + 1) .compatible .writable (n + 1),
      .swap (n + 1), .free (n + 1)] = some s' ∧ Registered (n + 1) s' := by
  let created := s.log (.acquire (n + 1) .caller)
  let id := (nextRegistrationId created.counter).1
  have hcreated : step signal s (.create (n + 1)) = continued created :=
    step_create (h.unborn (n + 1) (Nat.lt_succ_self n))
  have hlife : created.life (n + 1) = .held .caller := by
    rw [life_log]
    exact Ledger.apply_acquire_self _ _ _
  have hbegan : step signal created (.register (n + 1) .compatible .writable (n + 1)) =
      continued (created.began (n + 1) (n + 1)) :=
    step_register (h.idle (n + 1) (Nat.lt_succ_self n)) hlife rfl
  have hswapped : step signal (created.began (n + 1) (n + 1)) (.swap (n + 1)) =
      continued ((created.began (n + 1) (n + 1)).swapped (n + 1) (n + 1) n id) :=
    step_swap (setCall_self _ _ _) h.provider
  have hfreed : step signal ((created.began (n + 1) (n + 1)).swapped (n + 1) (n + 1) n id)
      (.free (n + 1)) = answered (((created.began (n + 1) (n + 1)).swapped (n + 1) (n + 1) n id).freed
        (n + 1) n (some id)) ⟨.ok, none, some id⟩ := step_free (setCall_self _ _ _)
  refine ⟨_, (run_cons hcreated).trans ((run_cons hbegan).trans ((run_cons hswapped).trans
    (run_cons hfreed))), ?_⟩
  constructor
  · rfl
  · intro thread hthread
    have hne : thread ≠ n + 1 := by omega
    have hidle := h.idle thread (by omega)
    rw [← hidle]
    exact (setCall_of_ne _ _ hne).trans ((setCall_of_ne _ _ hne).trans (setCall_of_ne _ _ hne))
  · intro ctx hctx
    have hne : ctx ≠ n + 1 := by omega
    have hne' : ctx ≠ n := by omega
    rw [← h.unborn ctx (by omega)]
    exact (life_log_of_ne _ hne').trans ((life_log_of_ne _ hne').trans ((life_log_of_ne _ hne).trans
      ((life_log_of_ne _ hne).trans (life_log_of_ne s hne))))
  · show s.handedOut ++ [id] = s.taken ++ [id]
    rw [h.handedOut]
  · show (s.taken ++ [id]).length = n + 1 + 1
    rw [List.length_append, List.length_singleton, h.length]

theorem registered_zero {signal : Signal} :
    ∃ s, run signal .initial (registrations 0) = some s ∧ Registered 0 s := by
  refine ⟨_, rfl, ?_⟩
  constructor
  · rfl
  · intro thread hthread
    have hne : thread ≠ 0 := by omega
    exact (setCall_of_ne _ _ hne).trans (setCall_of_ne _ _ hne)
  · intro ctx hctx
    have hne : ctx ≠ 0 := by omega
    exact (life_log_of_ne _ hne).trans ((life_log_of_ne _ hne).trans
      (life_log_of_ne State.initial hne))
  · rfl
  · rfl

theorem registered_run {signal : Signal} (n : Nat) :
    ∃ s, run signal .initial (registrations n) = some s ∧ Registered n s := by
  induction n with
  | zero => exact registered_zero
  | succ n ih =>
    obtain ⟨s, hrun, hs⟩ := ih
    obtain ⟨s', hrun', hs'⟩ := registered_succ hs
    exact ⟨s', (run_append hrun).trans hrun', hs'⟩

/-- **After `2 ^ 64 - 1` registrations the ids come again**: of `2 ^ 64` ids that were handed out
two are equal. -/
theorem registration_ids_repeat :
    ∃ s, run metrics .initial (registrations (2 ^ 64 - 1)) = some s ∧ ¬s.handedOut.Nodup := by
  obtain ⟨s, hrun, hs⟩ := registered_run (2 ^ 64 - 1)
  refine ⟨s, hrun, ?_⟩
  rw [hs.handedOut, (invariant_run hrun).ids.nodup_iff, hs.length, idRange]
  omega

end OtelC.Global
