import OtelC.Context.Threads
import OtelC.Lib.Ticket

/-!
# The strict stack of the ambient context

* `invariant_run`: what the stacks, the tokens handed out and the tokens taken back have to do with
  each other in every run with fewer than `2 ^ 64` attachments.
* `sound_run`: what every stack keeps by itself in every run.
* `ambient_context_run`: detaching succeeds for the token of the top entry and for no other.
* `context_token_repeats`: the thread tokens are the limit of this.
-/

namespace OtelC.Context

/-! ### The invariant -/

/-- Thread tokens and generations are counted in 64 bits. -/
def tokenRange : Nat := 2 ^ 64

/-- The tokens handed out on one thread. -/
def World.issuedOn (world : World) (thread : Nat) : List Token :=
  (world.issued.filter fun x => x.1 = thread).map Prod.snd

structure Invariant (world : World) : Prop where
  started_nodup : world.started.Nodup
  mem_started : ∀ thread, thread ∈ world.started ↔ (world.process.slots thread).isFresh = false
  nextThreadToken : Ticket.skipZero world.process.nextThreadToken.toNat =
    Ticket.nth tokenRange world.started.length
  threadToken : ∀ thread stack, world.process.slots thread = .live stack →
    stack.threadToken.toNat = Ticket.nth tokenRange (world.started.idxOf thread)
  nextGeneration : ∀ thread stack, world.process.slots thread = .live stack →
    stack.nextGeneration.toNat = Ticket.nth tokenRange (world.issuedOn thread).length
  issued_nodup : world.issued.Nodup
  issued_threadToken : ∀ x ∈ world.issued, x.1 ∈ world.started ∧
    x.2.threadToken.toNat = Ticket.nth tokenRange (world.started.idxOf x.1)
  issued_generation : ∀ thread, (world.issuedOn thread).map (fun t => t.generation.toNat) =
    Ticket.firstTickets tokenRange (world.issuedOn thread).length
  entries_issued : ∀ thread stack, world.process.slots thread = .live stack →
    ∀ e ∈ stack.entries, (thread, (⟨stack.threadToken, e.generation⟩ : Token)) ∈ world.issued ∧
      (thread, (⟨stack.threadToken, e.generation⟩ : Token)) ∉ world.detached
  entries_nodup : ∀ thread stack, world.process.slots thread = .live stack →
    (stack.entries.map StackEntry.generation).Nodup
  detached_nodup : world.detached.Nodup
  detached_issued : ∀ x ∈ world.detached, x ∈ world.issued

theorem isFresh_iff {slot : Slot} : slot.isFresh = true ↔ slot = .fresh := by
  cases slot with
  | fresh => exact ⟨fun _ => rfl, fun _ => rfl⟩
  | live stack => exact ⟨fun h => Bool.noConfusion h, fun h => Slot.noConfusion h⟩
  | destroyed => exact ⟨fun h => Bool.noConfusion h, fun h => Slot.noConfusion h⟩

theorem new_threadToken (next : UInt64) :
    (ContextStack.new next).1.threadToken.toNat = Ticket.skipZero next.toNat := by
  rw [ContextStack.new]
  by_cases h : next = 0
  · subst h
    rfl
  · rw [if_neg h, Ticket.skipZero_toNat h]

theorem new_next (next : UInt64) : (ContextStack.new next).2.toNat =
    (Ticket.skipZero next.toNat + 1) % tokenRange := by
  rw [ContextStack.new]
  by_cases h : next = 0
  · subst h
    rfl
  · rw [if_neg h, Ticket.skipZero_toNat h]
    exact Ticket.toNat_succ next

theorem new_nextGeneration (next : UInt64) :
    (ContextStack.new next).1.nextGeneration = 1 ∧ (ContextStack.new next).1.entries = [] := by
  rw [ContextStack.new]
  split
  · exact ⟨rfl, rfl⟩
  · exact ⟨rfl, rfl⟩

theorem push_nextGeneration (stack : ContextStack) (data : ContextData) :
    (stack.push data).nextGeneration.toNat =
      Ticket.skipZero ((stack.nextGeneration.toNat + 1) % tokenRange) := by
  show (if stack.nextGeneration + 1 = 0 then (1 : UInt64) else stack.nextGeneration + 1).toNat = _
  have hadd : (stack.nextGeneration + 1).toNat = (stack.nextGeneration.toNat + 1) % tokenRange :=
    Ticket.toNat_succ _
  rw [← hadd]
  by_cases h : stack.nextGeneration + 1 = 0
  · rw [if_pos h, h]
    rfl
  · rw [if_neg h, Ticket.skipZero_toNat h]

/-- The stack of a thread after a `put`: the new one, or another thread's as it was. -/
theorem live_put {process : Process} {thread other : Nat} {slot : Slot} {stack : ContextStack}
    (h : (process.put thread slot).slots other = .live stack) :
    (other = thread ∧ slot = .live stack) ∨ other ≠ thread ∧ process.slots other = .live stack := by
  by_cases hthread : other = thread
  · subst hthread
    rw [Process.put_slots_self] at h
    exact .inl ⟨rfl, h⟩
  · rw [Process.put_slots_of_ne hthread] at h
    exact .inr ⟨hthread, h⟩

theorem nodup_concat {α : Type} {l : List α} {x : α} (h : l.Nodup) (hx : x ∉ l) :
    (l ++ [x]).Nodup := by
  rw [← List.concat_eq_append]
  exact List.Nodup.concat hx h

theorem one_lt_tokenRange : 1 < tokenRange := Ticket.one_lt_range

theorem Invariant.started_of_live {world : World} (h : Invariant world) {thread : Nat}
    {stack : ContextStack} (hlive : world.process.slots thread = .live stack) :
    thread ∈ world.started := by
  rw [h.mem_started, hlive]
  rfl

theorem Invariant.issuedOn_fresh {world : World} (h : Invariant world) {thread : Nat}
    (hnew : thread ∉ world.started) : world.issuedOn thread = [] := by
  rw [World.issuedOn, List.map_eq_nil_iff, List.filter_eq_nil_iff]
  intro x hx hthread
  have hmem := (h.issued_threadToken x hx).1
  rw [of_decide_eq_true hthread] at hmem
  exact hnew hmem

theorem touch_world_of_fresh {world : World} {thread : Nat}
    (h : world.process.slots thread = .fresh) :
    world.touch thread =
      { world with
        process := { world.process with
          nextThreadToken := (ContextStack.new world.process.nextThreadToken).2 }.put thread
            (.live (ContextStack.new world.process.nextThreadToken).1)
        started := world.started ++ [thread] } := by
  rw [World.touch, World.proceed, touch_of_fresh h, h, Process.put_slots_self]
  rfl

/-- Creating a stack keeps the invariant. -/
theorem Invariant.touch {world : World} (h : Invariant world) (thread : Nat) :
    Invariant (world.touch thread) := by
  by_cases hfresh : world.process.slots thread = .fresh
  · have hnew : thread ∉ world.started := by
      rw [h.mem_started, hfresh]
      decide
    have hindex : ∀ {other}, other ∈ world.started →
        (world.started ++ [thread]).idxOf other = world.started.idxOf other :=
      fun hother => List.idxOf_append_of_mem hother
    have hlast : (world.started ++ [thread]).idxOf thread = world.started.length := by
      rw [List.idxOf_append_of_notMem hnew, List.idxOf_cons_self, Nat.add_zero]
    rw [touch_world_of_fresh hfresh]
    exact {
      started_nodup := nodup_concat h.started_nodup hnew
      mem_started := by
        intro other
        rw [List.mem_append, List.mem_singleton]
        by_cases hother : other = thread
        · subst hother
          rw [Process.put_slots_self]
          exact ⟨fun _ => rfl, fun _ => .inr rfl⟩
        · rw [Process.put_slots_of_ne hother, ← h.mem_started]
          exact ⟨fun hmem => hmem.resolve_right hother, .inl⟩
      nextThreadToken := by
        show Ticket.skipZero (ContextStack.new world.process.nextThreadToken).2.toNat = _
        rw [new_next, h.nextThreadToken, List.length_append, List.length_singleton]
        exact Ticket.skipZero_succ one_lt_tokenRange _
      threadToken := by
        intro other stack hlive
        rcases live_put hlive with ⟨rfl, hstack⟩ | ⟨-, hlive⟩
        · obtain rfl := Slot.live.inj hstack
          rw [new_threadToken, h.nextThreadToken, hlast]
        · rw [hindex (h.started_of_live hlive)]
          exact h.threadToken other stack hlive
      nextGeneration := by
        intro other stack hlive
        rcases live_put hlive with ⟨rfl, hstack⟩ | ⟨-, hlive⟩
        · obtain rfl := Slot.live.inj hstack
          rw [(new_nextGeneration _).1]
          show _ = Ticket.nth tokenRange (world.issuedOn other).length
          rw [h.issuedOn_fresh hnew]
          rfl
        · exact h.nextGeneration other stack hlive
      issued_nodup := h.issued_nodup
      issued_threadToken := by
        intro x hx
        obtain ⟨hmem, htoken⟩ := h.issued_threadToken x hx
        rw [hindex hmem]
        exact ⟨List.mem_append_left _ hmem, htoken⟩
      issued_generation := h.issued_generation
      entries_issued := by
        intro other stack hlive e he
        rcases live_put hlive with ⟨rfl, hstack⟩ | ⟨-, hlive⟩
        · obtain rfl := Slot.live.inj hstack
          rw [(new_nextGeneration _).2] at he
          cases he
        · exact h.entries_issued other stack hlive e he
      entries_nodup := by
        intro other stack hlive
        rcases live_put hlive with ⟨rfl, hstack⟩ | ⟨-, hlive⟩
        · obtain rfl := Slot.live.inj hstack
          rw [(new_nextGeneration _).2]
          exact List.nodup_nil
        · exact h.entries_nodup other stack hlive
      detached_nodup := h.detached_nodup
      detached_issued := h.detached_issued }
  · have hsame : world.touch thread = world := by
      rw [World.touch, touch_of_not_fresh hfresh, proceed_self]
    rw [hsame]
    exact h

theorem issuedOn_attached_self (world : World) (thread : Nat) (stack : ContextStack)
    (data : ContextData) : (world.attached thread stack data).issuedOn thread =
      world.issuedOn thread ++ [stack.nextToken] := by
  simp [World.issuedOn, World.attached]

theorem issuedOn_attached_of_ne {world : World} {thread other : Nat} {stack : ContextStack}
    {data : ContextData} (h : other ≠ thread) :
    (world.attached thread stack data).issuedOn other = world.issuedOn other := by
  simp [World.issuedOn, World.attached, Ne.symm h]

theorem mem_issuedOn {world : World} {thread : Nat} {token : Token} :
    token ∈ world.issuedOn thread ↔ (thread, token) ∈ world.issued := by
  simp [World.issuedOn]

/-- While there are fewer than `2 ^ 64` attachments, a token was not handed out before. -/
theorem Invariant.nextToken_fresh {world : World} (h : Invariant world) {thread : Nat}
    {stack : ContextStack} (hlive : world.process.slots thread = .live stack)
    (hbound : world.issued.length + 1 < tokenRange) {generation : UInt64}
    (hmem : (thread, (⟨stack.threadToken, generation⟩ : Token)) ∈ world.issued) :
    generation ≠ stack.nextGeneration := by
  intro hgeneration
  have hle : (world.issuedOn thread).length ≤ world.issued.length := by
    rw [World.issuedOn, List.length_map]
    exact List.length_filter_le _ _
  have hin : generation.toNat ∈ Ticket.firstTickets tokenRange (world.issuedOn thread).length := by
    rw [← h.issued_generation]
    exact List.mem_map_of_mem (f := fun t : Token => t.generation.toNat) (mem_issuedOn.mpr hmem)
  obtain ⟨k, hk, hnth⟩ := Ticket.mem_firstTickets.mp hin
  rw [hgeneration, h.nextGeneration thread stack hlive] at hnth
  have := Ticket.nth_inj (by omega) (by omega) hnth
  omega

/-- Pushing an entry keeps the invariant. -/
theorem Invariant.attached {world : World} (h : Invariant world) {thread : Nat}
    {stack : ContextStack} (hlive : world.process.slots thread = .live stack)
    (hbound : world.issued.length + 1 < tokenRange) (data : ContextData) :
    Invariant (world.attached thread stack data) := by
  have hfresh : (thread, stack.nextToken) ∉ world.issued := fun hmem =>
    h.nextToken_fresh hlive hbound hmem rfl
  exact {
    started_nodup := h.started_nodup
    mem_started := by
      intro other
      show other ∈ world.started ↔ ((world.process.put thread _).slots other).isFresh = false
      by_cases hother : other = thread
      · subst hother
        rw [Process.put_slots_self]
        exact ⟨fun _ => rfl, fun _ => h.started_of_live hlive⟩
      · rw [Process.put_slots_of_ne hother]
        exact h.mem_started other
    nextThreadToken := h.nextThreadToken
    threadToken := by
      intro other stack' hlive'
      rcases live_put hlive' with ⟨rfl, hstack⟩ | ⟨-, hlive'⟩
      · obtain rfl := Slot.live.inj hstack
        exact h.threadToken other stack hlive
      · exact h.threadToken other stack' hlive'
    nextGeneration := by
      intro other stack' hlive'
      rcases live_put hlive' with ⟨rfl, hstack⟩ | ⟨hother, hlive'⟩
      · obtain rfl := Slot.live.inj hstack
        rw [push_nextGeneration, h.nextGeneration other stack hlive, issuedOn_attached_self,
          List.length_append, List.length_singleton]
        exact Ticket.skipZero_succ one_lt_tokenRange _
      · rw [issuedOn_attached_of_ne hother]
        exact h.nextGeneration other stack' hlive'
    issued_nodup := by
      show (world.issued ++ [(thread, stack.nextToken)]).Nodup
      exact nodup_concat h.issued_nodup hfresh
    issued_threadToken := by
      intro x hx
      rcases List.mem_append.mp hx with hx | hx
      · exact h.issued_threadToken x hx
      · obtain rfl := List.mem_singleton.mp hx
        exact ⟨h.started_of_live hlive, h.threadToken thread stack hlive⟩
    issued_generation := by
      intro other
      by_cases hother : other = thread
      · subst hother
        rw [issuedOn_attached_self, List.map_append, List.map_singleton, h.issued_generation,
          List.length_append, List.length_singleton, Ticket.firstTickets_succ,
          ← h.nextGeneration other stack hlive]
        rfl
      · rw [issuedOn_attached_of_ne hother]
        exact h.issued_generation other
    entries_issued := by
      intro other stack' hlive' e he
      rcases live_put hlive' with ⟨rfl, hstack⟩ | ⟨-, hlive'⟩
      · obtain rfl := Slot.live.inj hstack
        rcases List.mem_append.mp he with he | he
        · obtain ⟨hissued, hdetached⟩ := h.entries_issued other stack hlive e he
          exact ⟨List.mem_append_left _ hissued, hdetached⟩
        · obtain rfl := List.mem_singleton.mp he
          exact ⟨List.mem_append_right _ (List.mem_singleton.mpr rfl),
            fun hmem => hfresh (h.detached_issued _ hmem)⟩
      · obtain ⟨hissued, hdetached⟩ := h.entries_issued other stack' hlive' e he
        exact ⟨List.mem_append_left _ hissued, hdetached⟩
    entries_nodup := by
      intro other stack' hlive'
      rcases live_put hlive' with ⟨rfl, hstack⟩ | ⟨-, hlive'⟩
      · obtain rfl := Slot.live.inj hstack
        show ((stack.entries ++ [_]).map StackEntry.generation).Nodup
        rw [List.map_append, List.map_singleton]
        refine nodup_concat (h.entries_nodup other stack hlive) ?_
        intro hmem
        obtain ⟨e, he, hgeneration⟩ := List.mem_map.mp hmem
        exact h.nextToken_fresh hlive hbound (h.entries_issued other stack hlive e he).1 hgeneration
      · exact h.entries_nodup other stack' hlive'
    detached_nodup := h.detached_nodup
    detached_issued := fun x hx => List.mem_append_left _ (h.detached_issued x hx) }

theorem mem_pop {stack : ContextStack} {e : StackEntry} (h : e ∈ stack.pop.entries) :
    e ∈ stack.entries := List.mem_of_mem_dropLast h

/-- The entry that is popped stands nowhere else on its stack. -/
theorem generation_ne_of_mem_pop {stack : ContextStack} {generation : UInt64}
    (hnodup : (stack.entries.map StackEntry.generation).Nodup)
    (htop : stack.entries.getLast?.map StackEntry.generation = some generation) {e : StackEntry}
    (he : e ∈ stack.pop.entries) : e.generation ≠ generation := by
  obtain ⟨top, hlast, rfl⟩ := Option.map_eq_some_iff.mp htop
  have hsplit : stack.entries = stack.pop.entries ++ [top] :=
    (List.dropLast_append_getLast? top hlast).symm
  rw [hsplit, List.map_append, List.map_singleton, List.nodup_append] at hnodup
  exact hnodup.2.2 _ (List.mem_map_of_mem he) _ (List.mem_singleton.mpr rfl)

/-- Popping the top entry keeps the invariant. -/
theorem Invariant.popped {world : World} (h : Invariant world) {thread : Nat}
    {stack : ContextStack} (hlive : world.process.slots thread = .live stack) {token : Token}
    (hthread : stack.threadToken = token.threadToken)
    (htop : stack.entries.getLast?.map StackEntry.generation = some token.generation) :
    Invariant (world.popped thread stack token) := by
  obtain ⟨top, hlast, hgeneration⟩ := Option.map_eq_some_iff.mp htop
  have htoken : token = ⟨stack.threadToken, top.generation⟩ := by rw [hthread, hgeneration]
  obtain ⟨hissued, hdetached⟩ :=
    h.entries_issued thread stack hlive top (List.mem_of_getLast? hlast)
  rw [← htoken] at hissued hdetached
  exact {
    started_nodup := h.started_nodup
    mem_started := by
      intro other
      show other ∈ world.started ↔ ((world.process.put thread _).slots other).isFresh = false
      by_cases hother : other = thread
      · subst hother
        rw [Process.put_slots_self]
        exact ⟨fun _ => rfl, fun _ => h.started_of_live hlive⟩
      · rw [Process.put_slots_of_ne hother]
        exact h.mem_started other
    nextThreadToken := h.nextThreadToken
    threadToken := by
      intro other stack' hlive'
      rcases live_put hlive' with ⟨rfl, hstack⟩ | ⟨-, hlive'⟩
      · obtain rfl := Slot.live.inj hstack
        exact h.threadToken other stack hlive
      · exact h.threadToken other stack' hlive'
    nextGeneration := by
      intro other stack' hlive'
      rcases live_put hlive' with ⟨rfl, hstack⟩ | ⟨-, hlive'⟩
      · obtain rfl := Slot.live.inj hstack
        exact h.nextGeneration other stack hlive
      · exact h.nextGeneration other stack' hlive'
    issued_nodup := h.issued_nodup
    issued_threadToken := h.issued_threadToken
    issued_generation := h.issued_generation
    entries_issued := by
      intro other stack' hlive' e he
      rcases live_put hlive' with ⟨rfl, hstack⟩ | ⟨hother, hlive'⟩
      · obtain rfl := Slot.live.inj hstack
        obtain ⟨hissued', hdetached'⟩ := h.entries_issued other stack hlive e (mem_pop he)
        refine ⟨hissued', ?_⟩
        intro hmem
        rcases List.mem_append.mp hmem with hmem | hmem
        · exact hdetached' hmem
        · have heq := congrArg (fun x => x.2.generation) (List.mem_singleton.mp hmem)
          exact generation_ne_of_mem_pop (h.entries_nodup other stack hlive) htop he heq
      · obtain ⟨hissued', hdetached'⟩ := h.entries_issued other stack' hlive' e he
        refine ⟨hissued', ?_⟩
        intro hmem
        rcases List.mem_append.mp hmem with hmem | hmem
        · exact hdetached' hmem
        · exact hother (congrArg Prod.fst (List.mem_singleton.mp hmem))
    entries_nodup := by
      intro other stack' hlive'
      rcases live_put hlive' with ⟨rfl, hstack⟩ | ⟨-, hlive'⟩
      · obtain rfl := Slot.live.inj hstack
        exact (h.entries_nodup other stack hlive).sublist ((List.dropLast_sublist _).map _)
      · exact h.entries_nodup other stack' hlive'
    detached_nodup := by
      show (world.detached ++ [(thread, token)]).Nodup
      exact nodup_concat h.detached_nodup hdetached
    detached_issued := by
      intro x hx
      rcases List.mem_append.mp hx with hx | hx
      · exact h.detached_issued x hx
      · obtain rfl := List.mem_singleton.mp hx
        exact hissued }

/-- The end of a thread keeps the invariant. -/
theorem Invariant.exit {world : World} (h : Invariant world) {thread : Nat} {stack : ContextStack}
    (hlive : world.process.slots thread = .live stack) :
    Invariant { world with process := world.process.put thread .destroyed } := by
  have hother : ∀ {other stack'}, (world.process.put thread .destroyed).slots other = .live stack' →
      world.process.slots other = .live stack' := by
    intro other stack' hput
    rcases live_put hput with ⟨-, hslot⟩ | ⟨-, hput⟩
    · cases hslot
    · exact hput
  exact { h with
    mem_started := by
      intro other
      show other ∈ world.started ↔ ((world.process.put thread _).slots other).isFresh = false
      by_cases hthread : other = thread
      · subst hthread
        rw [Process.put_slots_self]
        exact ⟨fun _ => rfl, fun _ => h.started_of_live hlive⟩
      · rw [Process.put_slots_of_ne hthread]
        exact h.mem_started other
    threadToken := fun other stack' hput => h.threadToken other stack' (hother hput)
    nextGeneration := fun other stack' hput => h.nextGeneration other stack' (hother hput)
    entries_issued := fun other stack' hput => h.entries_issued other stack' (hother hput)
    entries_nodup := fun other stack' hput => h.entries_nodup other stack' (hother hput) }

theorem invariant_initial : Invariant World.initial := {
  started_nodup := List.nodup_nil
  mem_started := fun _ => ⟨fun h => absurd h List.not_mem_nil, fun h => Bool.noConfusion h⟩
  nextThreadToken := rfl
  threadToken := fun _ _ h => Slot.noConfusion h
  nextGeneration := fun _ _ h => Slot.noConfusion h
  issued_nodup := List.nodup_nil
  issued_threadToken := fun _ h => absurd h List.not_mem_nil
  issued_generation := fun _ => rfl
  entries_issued := fun _ _ h => Slot.noConfusion h
  entries_nodup := fun _ _ h => Slot.noConfusion h
  detached_nodup := List.nodup_nil
  detached_issued := fun _ h => absurd h List.not_mem_nil }

theorem touch_issued (world : World) (thread : Nat) :
    (world.touch thread).issued = world.issued := rfl

/-- Nothing is taken out of the history. -/
theorem issued_length_step (world : World) (call : Call) :
    world.issued.length ≤ (step world call).issued.length := by
  rcases step_cases world call with h | ⟨thread, h⟩ | ⟨thread, stack, data, -, -, h⟩ |
    ⟨thread, stack, token, -, -, -, h⟩ | ⟨thread, stack, -, h⟩
  · rw [h]
  · rw [h, touch_issued]
  · rw [h]
    show world.issued.length ≤ (world.issued ++ [_]).length
    rw [List.length_append]
    omega
  · rw [h]
    exact Nat.le_refl _
  · rw [h]

/-- **One call keeps the invariant**, while there are fewer than `2 ^ 64` attachments. -/
theorem Invariant.step {world : World} (h : Invariant world) (call : Call)
    (hbound : (Context.step world call).issued.length < tokenRange) :
    Invariant (Context.step world call) := by
  rcases step_cases world call with hstep | ⟨thread, hstep⟩ |
    ⟨thread, stack, data, hlive, -, hstep⟩ | ⟨thread, stack, token, hlive, hthread, htop, hstep⟩ |
    ⟨thread, stack, hlive, hstep⟩
  · rw [hstep]
    exact h
  · rw [hstep]
    exact h.touch thread
  · rw [hstep] at hbound ⊢
    have hlength : (world.touch thread).issued.length + 1 < tokenRange := by
      simpa [World.attached] using hbound
    exact (h.touch thread).attached hlive hlength data
  · rw [hstep]
    exact (h.touch thread).popped hlive hthread htop
  · rw [hstep]
    exact h.exit hlive

theorem invariant_run {calls : List Call} (hbound : (run calls).issued.length < tokenRange) :
    Invariant (run calls) := by
  refine Run.run_invariant (p := fun world => world.issued.length < tokenRange → Invariant world)
    (fun _ => invariant_initial) ?_ hbound
  intro world call _ h hstep
  exact (h ((issued_length_step world call).trans_lt hstep)).step call hstep

/-! ### Every stack by itself -/

/-- What holds of a stack however many tokens have been handed out: neither its tokens nor the next
one are zero, and it is not too deep. -/
structure ContextStack.Sound (stack : ContextStack) : Prop where
  threadToken_ne : stack.threadToken ≠ 0
  nextGeneration_ne : stack.nextGeneration ≠ 0
  generation_ne : ∀ e ∈ stack.entries, e.generation ≠ 0
  entries_length : stack.entries.length ≤ maxContextDepth

theorem sound_new (next : UInt64) : (ContextStack.new next).1.Sound := by
  obtain ⟨hgeneration, hentries⟩ := new_nextGeneration next
  refine ⟨?_, ?_, ?_, ?_⟩
  · rw [ContextStack.new]
    by_cases h : next = 0
    · subst h
      decide
    · rw [if_neg h]
      exact h
  · rw [hgeneration]
    decide
  · rw [hentries]
    exact List.forall_mem_nil _
  · rw [hentries]
    exact Nat.zero_le _

theorem ContextStack.Sound.push {stack : ContextStack} (h : stack.Sound)
    (hroom : stack.entries.length < maxContextDepth) (data : ContextData) :
    (stack.push data).Sound where
  threadToken_ne := h.threadToken_ne
  nextGeneration_ne := by
    show (if stack.nextGeneration + 1 = 0 then (1 : UInt64) else stack.nextGeneration + 1) ≠ 0
    by_cases hzero : stack.nextGeneration + 1 = 0
    · rw [if_pos hzero]
      decide
    · rw [if_neg hzero]
      exact hzero
  generation_ne e he := by
    rcases List.mem_append.mp he with he | he
    · exact h.generation_ne e he
    · obtain rfl := List.mem_singleton.mp he
      exact h.nextGeneration_ne
  entries_length := by
    show (stack.entries ++ [_]).length ≤ maxContextDepth
    rw [List.length_append, List.length_singleton]
    exact hroom

theorem ContextStack.Sound.pop {stack : ContextStack} (h : stack.Sound) : stack.pop.Sound where
  threadToken_ne := h.threadToken_ne
  nextGeneration_ne := h.nextGeneration_ne
  generation_ne e he := h.generation_ne e (mem_pop he)
  entries_length := (List.dropLast_sublist _).length_le.trans h.entries_length

def Process.Sound (process : Process) : Prop :=
  ∀ thread stack, process.slots thread = .live stack → stack.Sound

theorem Process.Sound.put {process : Process} (h : process.Sound) {thread : Nat} {slot : Slot}
    (hslot : ∀ stack, slot = .live stack → stack.Sound) : (process.put thread slot).Sound := by
  intro other stack hlive
  rcases live_put hlive with ⟨-, hstack⟩ | ⟨-, hold⟩
  · exact hslot stack hstack
  · exact h other stack hold

theorem Process.Sound.touch {process : Process} (h : process.Sound) (thread : Nat) :
    (process.touch thread).Sound := by
  by_cases hfresh : process.slots thread = .fresh
  · rw [touch_of_fresh hfresh]
    refine Process.Sound.put (fun other stack hlive => h other stack hlive) fun stack hstack => ?_
    rw [← Slot.live.inj hstack]
    exact sound_new _
  · rw [touch_of_not_fresh hfresh]
    exact h

/-- One call keeps every stack sound. -/
theorem sound_step {world : World} (h : world.process.Sound) (call : Call) :
    (step world call).process.Sound := by
  rcases step_cases world call with hstep | ⟨thread, hstep⟩ |
    ⟨thread, stack, data, hlive, hroom, hstep⟩ | ⟨thread, stack, token, hlive, -, -, hstep⟩ |
    ⟨thread, stack, -, hstep⟩
  · rw [hstep]
    exact h
  · rw [hstep]
    exact h.touch thread
  · rw [hstep]
    refine (h.touch thread).put fun stack' hstack => ?_
    rw [← Slot.live.inj hstack]
    exact (h.touch thread thread stack hlive).push hroom data
  · rw [hstep]
    refine (h.touch thread).put fun stack' hstack => ?_
    rw [← Slot.live.inj hstack]
    exact (h.touch thread thread stack hlive).pop
  · rw [hstep]
    exact h.put fun stack' hstack => Slot.noConfusion hstack

theorem sound_run (calls : List Call) : (run calls).process.Sound :=
  Run.run_invariant (p := fun world : World => world.process.Sound)
    (fun _ _ h => Slot.noConfusion h) fun _ call _ h => sound_step h call

/-! ### The discipline of the ambient context -/

/-- What is attached on a thread, the oldest first. -/
def Process.attachments (process : Process) (thread : Nat) : List (Token × ContextData) :=
  match process.slots thread with
  | .live stack => stack.entries.map fun e => (⟨stack.threadToken, e.generation⟩, e.context)
  | _ => []

theorem attachments_live {process : Process} {thread : Nat} {stack : ContextStack}
    (h : process.slots thread = .live stack) : process.attachments thread =
      stack.entries.map fun e => (⟨stack.threadToken, e.generation⟩, e.context) := by
  rw [Process.attachments, h]

theorem attachments_put_self (process : Process) (thread : Nat) (stack : ContextStack) :
    (process.put thread (.live stack)).attachments thread =
      stack.entries.map fun e => (⟨stack.threadToken, e.generation⟩, e.context) :=
  attachments_live (Process.put_slots_self _ _ _)

theorem attachments_put_of_ne {process : Process} {thread other : Nat} {slot : Slot}
    (h : other ≠ thread) :
    (process.put thread slot).attachments other = process.attachments other := by
  rw [Process.attachments, Process.attachments, Process.put_slots_of_ne h]

/-- Nothing is attached by creating a stack. -/
theorem attachments_touch (process : Process) (thread other : Nat) :
    (process.touch thread).attachments other = process.attachments other := by
  by_cases hfresh : process.slots thread = .fresh
  · by_cases hother : other = thread
    · subst hother
      have hnone : process.attachments other = [] := by rw [Process.attachments, hfresh]
      rw [touch_of_fresh hfresh, attachments_put_self, (new_nextGeneration _).2, hnone]
      rfl
    · rw [Process.attachments, Process.attachments, touch_slots_of_ne hother]
  · rw [touch_of_not_fresh hfresh]

/-- The strict stack discipline of the attached contexts, whatever the tokens are. -/
structure StrictStacks (world : World) : Prop where
  /-- A token detaches just when it is the token of the top entry of the calling thread. -/
  detach_ok_iff : ∀ thread (scope : OtelContextScope),
    (detachOn world.process thread (some scope)).1.status = .ok ↔ scope.WellFormed ∧
      ((world.process.attachments thread).getLast?.map Prod.fst) = some scope.token
  detach_ok : ∀ thread scope, (detachOn world.process thread scope).1.status = .ok →
    (detachOn world.process thread scope).2.attachments thread =
        (world.process.attachments thread).dropLast ∧
      ∀ other ≠ thread, (detachOn world.process thread scope).2.attachments other =
        world.process.attachments other
  detach_refused : ∀ thread scope, (detachOn world.process thread scope).1.status ≠ .ok →
    ∀ other, (detachOn world.process thread scope).2.attachments other =
      world.process.attachments other
  attach_ok : ∀ thread context scope, (attachOn world.process thread context scope).1.status = .ok →
    ∃ data scope', context = .live data ∧ OtelContextScope.WellFormed scope' ∧
      (attachOn world.process thread context scope).1.scope = some scope' ∧
      (attachOn world.process thread context scope).2.attachments thread =
        world.process.attachments thread ++ [(scope'.token, data)] ∧
      ∀ other ≠ thread, (attachOn world.process thread context scope).2.attachments other =
        world.process.attachments other
  attach_refused : ∀ thread context scope,
    (attachOn world.process thread context scope).1.status ≠ .ok →
    ∀ other, (attachOn world.process thread context scope).2.attachments other =
      world.process.attachments other
  depth_le : ∀ thread, (world.process.attachments thread).length ≤ maxContextDepth
  attach_full : ∀ thread context scope,
    (world.process.attachments thread).length = maxContextDepth →
    (attachOn world.process thread context scope).1.status ≠ .ok
  current_eq : ∀ thread, (currentOn world.process thread).1 =
    (world.process.attachments thread).getLast?.map Prod.snd

/-- The tokens name the attachments, each for once. -/
structure TokensOnce (world : World) : Prop where
  issued_nodup : (world.issued.map Prod.snd).Nodup
  detached_nodup : (world.detached.map Prod.snd).Nodup
  detached_issued : ∀ x ∈ world.detached, x ∈ world.issued
  /-- A token is refused on every thread but its own, and everywhere once it was taken back. -/
  detach_elsewhere : ∀ x ∈ world.issued, ∀ thread ≠ x.1, ∀ scope : OtelContextScope,
    scope.token = x.2 → (detachOn world.process thread (some scope)).1.status ≠ .ok
  detach_twice : ∀ x ∈ world.detached, ∀ thread, ∀ scope : OtelContextScope,
    scope.token = x.2 → (detachOn world.process thread (some scope)).1.status ≠ .ok

theorem attachments_of_touch_live {process : Process} {thread : Nat} {stack : ContextStack}
    (h : (process.touch thread).slots thread = .live stack) : process.attachments thread =
      stack.entries.map fun e => (⟨stack.threadToken, e.generation⟩, e.context) := by
  rw [← attachments_touch process thread thread, attachments_live h]

theorem detachOn_ok {process : Process} {thread : Nat} {scope : Option OtelContextScope}
    (h : (detachOn process thread scope).1.status = .ok) :
    (detachOn process thread scope).2.attachments thread =
        (process.attachments thread).dropLast ∧
      ∀ other ≠ thread, (detachOn process thread scope).2.attachments other =
        process.attachments other := by
  rcases detachOn_cases process thread scope with ⟨hstatus, -⟩ |
    ⟨stack, scope', -, hlive, -, -, -, -, hprocess⟩
  · exact absurd h hstatus
  · rw [hprocess, attachments_put_self, attachments_of_touch_live hlive, ← List.map_dropLast]
    refine ⟨rfl, ?_⟩
    intro other hother
    rw [attachments_put_of_ne hother, attachments_touch]

theorem detachOn_refused {process : Process} {thread : Nat} {scope : Option OtelContextScope}
    (h : (detachOn process thread scope).1.status ≠ .ok) (other : Nat) :
    (detachOn process thread scope).2.attachments other = process.attachments other := by
  rcases detachOn_cases process thread scope with ⟨-, hprocess | hprocess⟩ |
    ⟨stack, scope', -, -, -, -, -, hok, -⟩
  · rw [hprocess]
  · rw [hprocess, attachments_touch]
  · exact absurd hok h

theorem attachOn_ok {process : Process} {thread : Nat} {context : HandleArg ContextData}
    {scope : Option OtelContextScope} (h : (attachOn process thread context scope).1.status = .ok) :
    ∃ data scope', context = .live data ∧ OtelContextScope.WellFormed scope' ∧
      (attachOn process thread context scope).1.scope = some scope' ∧
      (attachOn process thread context scope).2.attachments thread =
        process.attachments thread ++ [(scope'.token, data)] ∧
      ∀ other ≠ thread, (attachOn process thread context scope).2.attachments other =
        process.attachments other := by
  rcases attachOn_cases process thread context scope with ⟨hstatus, -⟩ |
    ⟨stack, data, scope', hcontext, hlive, -, hscope, htoken, hcall⟩
  · exact absurd h hstatus
  · refine ⟨data, scope', hcontext, hscope, ?_, ?_, ?_⟩
    · rw [hcall]
    · rw [hcall, attachments_put_self, attachments_of_touch_live hlive, htoken]
      exact List.map_append
    · intro other hother
      rw [hcall, attachments_put_of_ne hother, attachments_touch]

theorem attachOn_refused {process : Process} {thread : Nat} {context : HandleArg ContextData}
    {scope : Option OtelContextScope} (h : (attachOn process thread context scope).1.status ≠ .ok)
    (other : Nat) :
    (attachOn process thread context scope).2.attachments other = process.attachments other := by
  rcases attachOn_cases process thread context scope with ⟨-, hprocess | hprocess⟩ |
    ⟨stack, data, scope', -, -, -, -, -, hcall⟩
  · rw [hprocess]
  · rw [hprocess, attachments_touch]
  · rw [hcall] at h
    exact absurd rfl h

theorem attachOn_full {process : Process} {thread : Nat} {context : HandleArg ContextData}
    {scope : Option OtelContextScope}
    (h : (process.attachments thread).length = maxContextDepth) :
    (attachOn process thread context scope).1.status ≠ .ok := by
  rcases attachOn_cases process thread context scope with ⟨hstatus, -⟩ |
    ⟨stack, data, scope', -, hlive, hroom, -, -, -⟩
  · exact hstatus
  · rw [attachments_of_touch_live hlive, List.length_map] at h
    omega

theorem currentOn_eq (process : Process) (thread : Nat) : (currentOn process thread).1 =
    (process.attachments thread).getLast?.map Prod.snd := by
  rw [← attachments_touch process thread thread, currentOn, Process.attachments]
  cases (process.touch thread).slots thread with
  | live stack =>
    simp only [currentData, List.getLast?_map, Option.map_map]
    rfl
  | fresh => rfl
  | destroyed => rfl

/-- What detaches is the token of the top entry. -/
theorem top_of_detachOn {process : Process} {thread : Nat} {scope : OtelContextScope}
    (hok : (detachOn process thread (some scope)).1.status = .ok) : scope.WellFormed ∧
      (process.attachments thread).getLast?.map Prod.fst = some scope.token := by
  rcases detachOn_cases process thread (some scope) with ⟨hstatus, -⟩ |
    ⟨stack, scope', hscope', hlive, hscope, hthread, htop, -, -⟩
  · exact absurd hok hstatus
  · obtain rfl := Option.some.inj hscope'
    refine ⟨hscope, ?_⟩
    obtain ⟨top, hlast, hgeneration⟩ := Option.map_eq_some_iff.mp htop
    rw [attachments_of_touch_live hlive, List.getLast?_map, hlast, hthread, Option.map_some,
      Option.map_some, hgeneration]
    rfl

theorem Process.Sound.detach_ok_iff {process : Process} (h : process.Sound) (thread : Nat)
    (scope : OtelContextScope) : (detachOn process thread (some scope)).1.status = .ok ↔
      scope.WellFormed ∧
        (process.attachments thread).getLast?.map Prod.fst = some scope.token := by
  constructor
  · exact top_of_detachOn
  · rintro ⟨hscope, htop⟩
    cases hslot : (process.touch thread).slots thread with
    | live stack =>
      rw [attachments_of_touch_live hslot, List.getLast?_map, Option.map_map] at htop
      obtain ⟨top, hlast, htoken⟩ := Option.map_eq_some_iff.mp htop
      have hsound := h.touch thread thread stack hslot
      have hthread := hsound.threadToken_ne
      have hgeneration := hsound.generation_ne top (List.mem_of_getLast? hlast)
      have hthread' : stack.threadToken = scope.threadToken := congrArg Token.threadToken htoken
      have hgeneration' : top.generation = scope.generation := congrArg Token.generation htoken
      rw [hthread'] at hthread
      rw [hgeneration'] at hgeneration
      have htop' : stack.entries.getLast?.map StackEntry.generation = some scope.generation := by
        rw [hlast, ← hgeneration']
        rfl
      rw [detachOn_reaches hslot hscope hthread hgeneration,
        otelContextScopeDetach_top hscope hthread hgeneration hthread' htop']
      rfl
    | fresh =>
      rw [← attachments_touch process thread thread, Process.attachments, hslot] at htop
      cases htop
    | destroyed =>
      rw [← attachments_touch process thread thread, Process.attachments, hslot] at htop
      cases htop

/-- What is detached was handed out to the calling thread and is not taken back yet. -/
theorem Invariant.token_of_detach {world : World} (h : Invariant world) {thread : Nat}
    {scope : OtelContextScope} (hok : (detachOn world.process thread (some scope)).1.status = .ok) :
    (thread, scope.token) ∈ world.issued ∧ (thread, scope.token) ∉ world.detached := by
  rcases detachOn_cases world.process thread (some scope) with ⟨hstatus, -⟩ |
    ⟨stack, scope', hscope', hlive, -, hthread, htop, -, -⟩
  · exact absurd hok hstatus
  · obtain rfl := Option.some.inj hscope'
    obtain ⟨top, hlast, hgeneration⟩ := Option.map_eq_some_iff.mp htop
    have hentry := (h.touch thread).entries_issued thread stack hlive top
      (List.mem_of_getLast? hlast)
    rw [hthread, hgeneration] at hentry
    exact hentry

/-- With fewer than `2 ^ 64` threads and attachments no token is handed out twice. -/
theorem Invariant.issued_inj {world : World} (h : Invariant world)
    (hthreads : world.started.length < tokenRange) {x y : Nat × Token} (hx : x ∈ world.issued)
    (hy : y ∈ world.issued) (hxy : x.2 = y.2) : x = y := by
  obtain ⟨hxs, hxt⟩ := h.issued_threadToken x hx
  obtain ⟨hys, hyt⟩ := h.issued_threadToken y hy
  have hxi := List.idxOf_lt_length_of_mem hxs
  have hyi := List.idxOf_lt_length_of_mem hys
  have hindex : world.started.idxOf x.1 = world.started.idxOf y.1 := by
    have hnth : Ticket.nth tokenRange (world.started.idxOf x.1) =
        Ticket.nth tokenRange (world.started.idxOf y.1) := by rw [← hxt, ← hyt, hxy]
    exact Ticket.nth_inj (by omega) (by omega) hnth
  have hthread : x.1 = y.1 := (List.idxOf_inj hxs).mp hindex
  exact Prod.ext hthread hxy

theorem Process.Sound.strictStacks {world : World} (h : world.process.Sound) : StrictStacks world where
  detach_ok_iff := h.detach_ok_iff
  detach_ok _ _ := detachOn_ok
  detach_refused _ _ := detachOn_refused
  attach_ok _ _ _ := attachOn_ok
  attach_refused _ _ _ := attachOn_refused
  depth_le thread := by
    rw [Process.attachments]
    split
    · rename_i stack hlive
      rw [List.length_map]
      exact (h thread stack hlive).entries_length
    · exact Nat.zero_le _
  attach_full _ _ _ := attachOn_full
  current_eq := currentOn_eq world.process

theorem Invariant.tokensOnce {world : World} (h : Invariant world)
    (hthreads : world.started.length < tokenRange) : TokensOnce world where
  issued_nodup := h.issued_nodup.map_on fun _ hx _ hy => h.issued_inj hthreads hx hy
  detached_nodup := h.detached_nodup.map_on fun x hx y hy =>
    h.issued_inj hthreads (h.detached_issued x hx) (h.detached_issued y hy)
  detached_issued := h.detached_issued
  detach_elsewhere x hx thread hthread scope hscope hok := by
    obtain ⟨hissued, -⟩ := h.token_of_detach hok
    rw [hscope] at hissued
    exact hthread (congrArg Prod.fst (h.issued_inj hthreads hissued hx rfl))
  detach_twice x hx thread scope hscope hok := by
    obtain ⟨hissued, hdetached⟩ := h.token_of_detach hok
    rw [hscope] at hissued hdetached
    have hsame := h.issued_inj hthreads hissued (h.detached_issued x hx) rfl
    rw [hsame] at hdetached
    exact hdetached hx

/-- **The ambient context is a strict stack on every thread**, in every run; with fewer than
`2 ^ 64` attachments on fewer than `2 ^ 64` threads its tokens are moreover good for one detachment
on one thread. -/
theorem ambient_context_run (calls : List Call) : StrictStacks (run calls) ∧
    ((run calls).issued.length < 2 ^ 64 → (run calls).started.length < 2 ^ 64 →
      TokensOnce (run calls)) :=
  ⟨(sound_run calls).strictStacks, fun hattachments => (invariant_run hattachments).tokensOnce⟩

/-- A context with nothing in it. -/
def emptyContext : ContextData := ⟨none, none, 0⟩

/-- A token as an application sets it up before it attaches. -/
def newScope : OtelContextScope := ⟨40, 0, 0, (0, 0)⟩

/-- Two threads attach, and the second one tries its token on the first before it detaches. -/
def twoThreads : List Call :=
  [.attach 7 (.live emptyContext) (some newScope), .attach 8 (.live emptyContext) (some newScope),
    .detach 7 (some ⟨40, 2, 1, (0, 0)⟩), .detach 8 (some ⟨40, 2, 1, (0, 0)⟩)]

theorem ambient_context_run_twoThreads :
    StrictStacks (run twoThreads) ∧ TokensOnce (run twoThreads) :=
  (ambient_context_run twoThreads).imp_right fun h => h (by decide) (by decide)

/-! ### The limit of the thread tokens -/

theorem step_attach_of_fresh {world : World} {thread : Nat}
    (h : world.process.slots thread = .fresh) :
    step world (.attach thread (.live emptyContext) (some newScope)) =
      (world.touch thread).attached thread (ContextStack.new world.process.nextThreadToken).1
        emptyContext := by
  have hlive : (world.process.touch thread).slots thread =
      .live (ContextStack.new world.process.nextThreadToken).1 := by
    rw [touch_of_fresh h, Process.put_slots_self]
  have hroom : (ContextStack.new world.process.nextThreadToken).1.entries.length < maxContextDepth := by
    rw [(new_nextGeneration _).2]
    decide
  rw [step, attachOn_room hlive (by decide) hroom]
  dsimp only
  rw [proceed_put hlive]
  rfl

/-- The token of the first attachment of the process. -/
def firstScope : OtelContextScope := ⟨40, 1, 1, (0, 0)⟩

theorem otelContextScopeDetach_empty {stack : ContextStack} (h : stack.entries = []) :
    (otelContextScopeDetach stack (some firstScope)).status = .invalidArgument ∧
      (otelContextScopeDetach stack (some firstScope)).stack = stack := by
  unfold otelContextScopeDetach
  dsimp only
  rw [if_neg (by decide), if_neg (by decide)]
  split
  · exact ⟨rfl, rfl⟩
  · rw [if_pos (by rw [h]; decide)]
    exact ⟨rfl, rfl⟩

/-- A thread that has attached nothing tries the first token. -/
def probe (thread : Nat) : Call := .detach thread (some firstScope)

theorem step_probe_of_fresh {world : World} {thread : Nat}
    (h : world.process.slots thread = .fresh) : step world (probe thread) = world.touch thread := by
  have hlive : (world.process.touch thread).slots thread =
      .live (ContextStack.new world.process.nextThreadToken).1 := by
    rw [touch_of_fresh h, Process.put_slots_self]
  obtain ⟨hstatus, hstack⟩ :=
    otelContextScopeDetach_empty (new_nextGeneration world.process.nextThreadToken).2
  rw [probe, step, detachOn_reaches hlive ⟨Nat.le_refl _, rfl⟩ (by decide) (by decide), hstack,
    Process.put_self hlive]
  simp only [ScopeCall.reply, hstatus]
  rfl

/-- The threads `1`, ..., `n` try the token of thread `0`, and none of them succeeds. -/
def probes (n : Nat) : List Call :=
  .attach 0 (.live emptyContext) (some newScope) :: (List.range n).map fun i => probe (i + 1)

theorem probes_succ (n : Nat) : probes (n + 1) = probes n ++ [probe (n + 1)] := by
  rw [probes, probes, List.range_succ, List.map_append, List.map_singleton, List.cons_append]

theorem run_probes (n : Nat) : (run (probes n)).started = List.range (n + 1) ∧
    (run (probes n)).issued = [(0, ⟨1, 1⟩)] := by
  induction n with
  | zero => exact ⟨rfl, rfl⟩
  | succ n ih =>
    obtain ⟨hstarted, hissued⟩ := ih
    have hbound : (run (probes n)).issued.length < tokenRange := by
      rw [hissued]
      decide
    have hfresh : (run (probes n)).process.slots (n + 1) = .fresh := by
      have hnew : n + 1 ∉ (run (probes n)).started := by
        rw [hstarted, List.mem_range]
        omega
      rw [(invariant_run hbound).mem_started, Bool.not_eq_false] at hnew
      exact isFresh_iff.mp hnew
    have hstep : run (probes (n + 1)) = (run (probes n)).touch (n + 1) := by
      rw [probes_succ, run, Run.run_append]
      exact step_probe_of_fresh hfresh
    rw [hstep, touch_world_of_fresh hfresh, List.range_succ, ← hstarted, ← hissued]
    exact ⟨rfl, rfl⟩

/-- The threads up to `n` probe, and the next one attaches. -/
def probesThenAttach (n : Nat) : List Call :=
  probes n ++ [.attach (n + 1) (.live emptyContext) (some newScope)]

/-- Where the thread tokens begin again, the next thread gets the token of the first attachment, and
detaches with it. -/
theorem probesThenAttach_of_wraps {n : Nat} (h : Ticket.nth tokenRange (n + 1) = 1) :
    (run (probesThenAttach n)).issued = [(0, firstScope.token), (n + 1, firstScope.token)] ∧
      (detachOn (run (probesThenAttach n)).process (n + 1) (some firstScope)).1.status = .ok := by
  obtain ⟨hstarted, hissued⟩ := run_probes n
  have hbound : (run (probes n)).issued.length < tokenRange := by
    rw [hissued]
    decide
  have hinv := invariant_run hbound
  have hfresh : (run (probes n)).process.slots (n + 1) = .fresh := by
    have hnew : n + 1 ∉ (run (probes n)).started := by
      rw [hstarted, List.mem_range]
      omega
    rw [hinv.mem_started, Bool.not_eq_false] at hnew
    exact isFresh_iff.mp hnew
  obtain ⟨hgeneration, hempty⟩ := new_nextGeneration (run (probes n)).process.nextThreadToken
  have hthread :
      (ContextStack.new (run (probes n)).process.nextThreadToken).1.threadToken = 1 := by
    apply UInt64.toNat_inj.mp
    rw [new_threadToken, hinv.nextThreadToken, hstarted, List.length_range]
    exact h
  have hrun : run (probesThenAttach n) = ((run (probes n)).touch (n + 1)).attached (n + 1)
      (ContextStack.new (run (probes n)).process.nextThreadToken).1 emptyContext := by
    rw [probesThenAttach, run, Run.run_append]
    exact step_attach_of_fresh hfresh
  generalize (ContextStack.new (run (probes n)).process.nextThreadToken).1 = stack
    at hrun hgeneration hempty hthread
  have hlive : (run (probesThenAttach n)).process.slots (n + 1) =
      .live (stack.push emptyContext) := by
    rw [hrun]
    exact Process.put_slots_self _ _ _
  have htop : (stack.push emptyContext).entries.getLast?.map StackEntry.generation = some 1 := by
    show (stack.entries ++ [_]).getLast?.map StackEntry.generation = some 1
    rw [hempty, hgeneration]
    rfl
  constructor
  · rw [hrun, World.attached, touch_issued, hissued, ContextStack.nextToken, hthread, hgeneration]
    rfl
  · have hnot : (run (probesThenAttach n)).process.slots (n + 1) ≠ .fresh := by
      rw [hlive]
      exact fun h => Slot.noConfusion h
    rw [← touch_of_not_fresh hnot] at hlive
    have hscope : firstScope.WellFormed := ⟨Nat.le_refl _, rfl⟩
    have hthread' : (stack.push emptyContext).threadToken = firstScope.threadToken := hthread
    rw [detachOn_reaches hlive hscope (by decide) (by decide),
      otelContextScopeDetach_top hscope (by decide) (by decide) hthread' htop]
    rfl

/-- **After `2 ^ 64 - 1` threads the thread tokens come again**: two attachments are enough for two
equal tokens, and the second thread then detaches with the token of the first. -/
theorem context_token_repeats : (run (probesThenAttach (2 ^ 64 - 2))).issued.length = 2 ∧
    ¬((run (probesThenAttach (2 ^ 64 - 2))).issued.map Prod.snd).Nodup ∧
    (detachOn (run (probesThenAttach (2 ^ 64 - 2))).process (2 ^ 64 - 2 + 1)
      (some firstScope)).1.status = .ok := by
  have hwraps : Ticket.nth tokenRange (2 ^ 64 - 2 + 1) = 1 := Ticket.nth_wraps.trans Ticket.nth_zero
  obtain ⟨hissued, hok⟩ := probesThenAttach_of_wraps hwraps
  refine ⟨?_, ?_, hok⟩
  · rw [hissued]
    rfl
  · rw [hissued]
    intro hnodup
    exact (List.nodup_cons.mp hnodup).1 (List.mem_singleton.mpr rfl)

end OtelC.Context
