import Mathlib.Data.List.Induction
import OtelC.Lib.Run

/-!
# The life of callback state

What an application may expect of the callbacks it has handed over, from their beginnings and ends
alone.  Exports and force flushes run side by side until the shutdown callback begins, which runs
once and by itself; the destruction of the state comes after everything else.

* `Lifecycle.shutdown_alone`, `Lifecycle.shutdown_once`: the shutdown callback runs by itself and
  once, and no other callback but the destruction begins after it.
* `Lifecycle.destroy_last`: nothing runs when the destruction begins, and nothing begins after it.
-/

namespace OtelC.Sdk.Custom

/-- A callback that runs, with what it has been handed. -/
inductive Callback (ν : Type) where
  | exportBatch (view : ν)
  | forceFlush
  | shutdown (timeout : Nat) (timeoutMillis : UInt64)

inductive Event (ν : Type) where
  | began (callback : Callback ν)
  | ended (callback : Callback ν)
  | destroyBegan
  | destroyEnded

inductive Stage where
  | notYet
  | running
  | finished
  deriving DecidableEq

/-- How far the callbacks have come: the number of exports and force flushes that run, the shutdown
callback and the destruction. -/
structure Progress where
  running : Nat
  shutdown : Stage
  destroy : Stage

def Progress.initial : Progress := ⟨0, .notYet, .notYet⟩

variable {ν : Type}

def Callback.isShutdown : Callback ν → Bool
  | .shutdown _ _ => true
  | _ => false

/-- What may come next. -/
def Progress.next (p : Progress) : Event ν → Option Progress
  | .began callback =>
    if p.shutdown = .notYet ∧ p.destroy = .notYet then
      if callback.isShutdown then
        if p.running = 0 then some { p with shutdown := .running } else none
      else some { p with running := p.running + 1 }
    else none
  | .ended callback =>
    if callback.isShutdown then
      if p.shutdown = .running then some { p with shutdown := .finished } else none
    else if p.running = 0 then none
    else some { p with running := p.running - 1 }
  | .destroyBegan =>
    if p.running = 0 ∧ p.shutdown ≠ .running ∧ p.destroy = .notYet then
      some { p with destroy := .running }
    else none
  | .destroyEnded =>
    if p.destroy = .running then some { p with destroy := .finished } else none

/-- The events of a life, and how far it has come. -/
def Lifecycle (events : List (Event ν)) (p : Progress) : Prop :=
  Run.tryRun Progress.next Progress.initial events = some p

/-! ### What begins and ends -/

/-- An export or a force flush begins. -/
@[simp] def Event.isReadBegan : Event ν → Bool
  | .began callback => !callback.isShutdown
  | _ => false

@[simp] def Event.isReadEnded : Event ν → Bool
  | .ended callback => !callback.isShutdown
  | _ => false

@[simp] def Event.isShutdownBegan : Event ν → Bool
  | .began callback => callback.isShutdown
  | _ => false

@[simp] def Event.isShutdownEnded : Event ν → Bool
  | .ended callback => callback.isShutdown
  | _ => false

@[simp] def Event.isDestroyBegan : Event ν → Bool
  | .destroyBegan => true
  | _ => false

/-- How far a life has come is what has begun and ended in it. -/
structure Counts (events : List (Event ν)) (p : Progress) : Prop where
  reads : events.countP Event.isReadEnded + p.running = events.countP Event.isReadBegan
  shutdownBegan : events.countP Event.isShutdownBegan = if p.shutdown = .notYet then 0 else 1
  shutdownEnded : events.countP Event.isShutdownEnded = if p.shutdown = .finished then 1 else 0
  destroyBegan : events.countP Event.isDestroyBegan = if p.destroy = .notYet then 0 else 1

theorem lifecycle_concat {events : List (Event ν)} {e : Event ν} {p' : Progress} :
    Lifecycle (events ++ [e]) p' ↔ ∃ p, Lifecycle events p ∧ p.next e = some p' := by
  rw [Lifecycle, Run.tryRun_append_iff]
  refine exists_congr fun p => and_congr_right fun _ => ?_
  rw [Run.tryRun_cons]
  constructor
  · rintro ⟨q, hq, hnil⟩
    rwa [Option.some.inj hnil] at hq
  · intro h
    exact ⟨p', h, rfl⟩

theorem Counts.next {events : List (Event ν)} {e : Event ν} {p p' : Progress} (h : Counts events p)
    (hnext : p.next e = some p') : Counts (events ++ [e]) p' := by
  obtain ⟨hreads, hbegan, hended, hdestroy⟩ := h
  cases e with
  | began callback =>
    rw [Progress.next] at hnext
    split at hnext
    · rename_i hready
      cases hkind : callback.isShutdown with
      | true =>
        rw [hkind, if_pos rfl] at hnext
        split at hnext
        · obtain rfl := Option.some.inj hnext
          simp only [hready.1, if_true] at hbegan
          simp only [hready.1, reduceCtorEq, if_false] at hended
          constructor <;> simp [hkind, hreads, hbegan, hended, hdestroy]
        · cases hnext
      | false =>
        rw [hkind, if_neg Bool.false_ne_true] at hnext
        obtain rfl := Option.some.inj hnext
        constructor <;> simp [hkind, ← hreads, hbegan, hended, hdestroy]
        omega
    · cases hnext
  | ended callback =>
    rw [Progress.next] at hnext
    cases hkind : callback.isShutdown with
    | true =>
      rw [hkind, if_pos rfl] at hnext
      split at hnext
      · rename_i hrunning
        obtain rfl := Option.some.inj hnext
        simp only [hrunning, reduceCtorEq, if_false] at hbegan hended
        constructor <;> simp [hkind, hreads, hbegan, hended, hdestroy]
      · cases hnext
    | false =>
      rw [hkind, if_neg Bool.false_ne_true] at hnext
      split at hnext
      · cases hnext
      · rename_i hrunning
        obtain rfl := Option.some.inj hnext
        constructor <;> simp [hkind, ← hreads, hbegan, hended, hdestroy]
        omega
  | destroyBegan =>
    rw [Progress.next] at hnext
    split at hnext
    · rename_i hready
      obtain rfl := Option.some.inj hnext
      simp only [hready.2.2, if_true] at hdestroy
      constructor <;> simp [hreads, hbegan, hended, hdestroy]
    · cases hnext
  | destroyEnded =>
    rw [Progress.next] at hnext
    split at hnext
    · rename_i hrunning
      obtain rfl := Option.some.inj hnext
      simp only [hrunning, reduceCtorEq, if_false] at hdestroy
      constructor <;> simp [hreads, hbegan, hended, hdestroy]
    · cases hnext

theorem Lifecycle.counts {events : List (Event ν)} {p : Progress} (h : Lifecycle events p) :
    Counts events p := by
  induction events using List.reverseRecOn generalizing p with
  | nil =>
    obtain rfl := Option.some.inj h
    exact ⟨rfl, rfl, rfl, rfl⟩
  | append_singleton events e ih =>
    obtain ⟨q, hq, hnext⟩ := lifecycle_concat.mp h
    exact (ih hq).next hnext

/-! ### What a life looks like -/

theorem next_after_shutdown {p p' : Progress} {e : Event ν} (hp : p.shutdown ≠ .notYet)
    (h : p.next e = some p') : p'.shutdown ≠ .notYet ∧ ∀ callback, e ≠ .began callback := by
  cases e with
  | began callback =>
    rw [Progress.next, if_neg fun hready => hp hready.1] at h
    cases h
  | ended callback =>
    refine ⟨?_, fun _ heq => by cases heq⟩
    rw [Progress.next] at h
    split at h
    · split at h
      · obtain rfl := Option.some.inj h
        exact Stage.noConfusion
      · cases h
    · split at h
      · cases h
      · obtain rfl := Option.some.inj h
        exact hp
  | destroyBegan =>
    refine ⟨?_, fun _ heq => by cases heq⟩
    rw [Progress.next] at h
    split at h
    · obtain rfl := Option.some.inj h
      exact hp
    · cases h
  | destroyEnded =>
    refine ⟨?_, fun _ heq => by cases heq⟩
    rw [Progress.next] at h
    split at h
    · obtain rfl := Option.some.inj h
      exact hp
    · cases h

theorem notMem_began_of_shutdown {p p' : Progress} {events : List (Event ν)}
    (hp : p.shutdown ≠ .notYet) (h : Run.tryRun Progress.next p events = some p')
    (callback : Callback ν) : .began callback ∉ events := by
  induction events generalizing p with
  | nil => exact List.not_mem_nil
  | cons e events ih =>
    obtain ⟨q, hq, hrest⟩ := Run.tryRun_cons.mp h
    obtain ⟨hshutdown, hne⟩ := next_after_shutdown hp hq
    rw [List.mem_cons, not_or]
    exact ⟨fun heq => hne callback heq.symm, ih hshutdown hrest⟩

/-- The progress before an event, and what comes after it. -/
theorem Lifecycle.at {before after : List (Event ν)} {e : Event ν} {p : Progress}
    (h : Lifecycle (before ++ e :: after) p) : ∃ q q', Lifecycle before q ∧ q.next e = some q' ∧
      Run.tryRun Progress.next q' after = some p := by
  obtain ⟨q, hbefore, hrest⟩ := Run.tryRun_append_iff.mp h
  obtain ⟨q', hnext, hafter⟩ := Run.tryRun_cons.mp hrest
  exact ⟨q, q', hbefore, hnext, hafter⟩

/-- Every callback other than the shutdown and the destruction that has begun has ended. -/
def ReadsEnded (events : List (Event ν)) : Prop :=
  events.countP Event.isReadEnded = events.countP Event.isReadBegan

/-- **The shutdown callback runs by itself, and it is the last callback** but for the destruction. -/
theorem Lifecycle.shutdown_alone {before after : List (Event ν)} {callback : Callback ν}
    {p : Progress} (h : Lifecycle (before ++ .began callback :: after) p)
    (hshutdown : callback.isShutdown = true) :
    ReadsEnded before ∧ ∀ later, .began later ∉ after := by
  obtain ⟨q, q', hbefore, hnext, hafter⟩ := h.at
  rw [Progress.next, hshutdown, if_pos rfl] at hnext
  split at hnext
  · split at hnext
    · rename_i hrunning
      obtain rfl := Option.some.inj hnext
      have hcounts := hbefore.counts.reads
      rw [hrunning, Nat.add_zero] at hcounts
      exact ⟨hcounts, notMem_began_of_shutdown Stage.noConfusion hafter⟩
    · cases hnext
  · cases hnext

theorem Lifecycle.shutdown_once {events : List (Event ν)} {p : Progress} (h : Lifecycle events p) :
    events.countP Event.isShutdownBegan ≤ 1 := by
  rw [h.counts.shutdownBegan]
  split
  · exact Nat.zero_le 1
  · exact Nat.le_refl 1

/-- Nothing but its end comes after the beginning of the destruction. -/
theorem after_destroy {p p' : Progress} {events : List (Event ν)} (hrunning : p.running = 0)
    (hshutdown : p.shutdown ≠ .running) (hdestroy : p.destroy ≠ .notYet)
    (h : Run.tryRun Progress.next p events = some p') : ∀ e ∈ events, e = .destroyEnded := by
  induction events generalizing p with
  | nil => exact fun _ he => absurd he List.not_mem_nil
  | cons e events ih =>
    obtain ⟨q, hq, hrest⟩ := Run.tryRun_cons.mp h
    cases e with
    | began callback =>
      rw [Progress.next, if_neg fun hready => hdestroy hready.2] at hq
      cases hq
    | ended callback =>
      rw [Progress.next, if_neg hshutdown, if_pos hrunning, ite_self] at hq
      cases hq
    | destroyBegan =>
      rw [Progress.next, if_neg fun hready => hdestroy hready.2.2] at hq
      cases hq
    | destroyEnded =>
      rw [Progress.next] at hq
      split at hq
      · obtain rfl := Option.some.inj hq
        intro e he
        rcases List.mem_cons.mp he with rfl | hlater
        · rfl
        · exact ih (p := { p with destroy := .finished }) hrunning hshutdown (by simp) hrest e hlater
      · cases hq

/-- Every callback that has begun has ended. -/
def AllEnded (events : List (Event ν)) : Prop :=
  ReadsEnded events ∧ events.countP Event.isShutdownEnded = events.countP Event.isShutdownBegan

/-- **The destruction is the last callback**, and it begins when every other one has returned. -/
theorem Lifecycle.destroy_last {before after : List (Event ν)} {p : Progress}
    (h : Lifecycle (before ++ .destroyBegan :: after) p) :
    AllEnded before ∧ ∀ e ∈ after, e = .destroyEnded := by
  obtain ⟨q, q', hbefore, hnext, hafter⟩ := h.at
  rw [Progress.next] at hnext
  split at hnext
  · rename_i hready
    obtain ⟨hrunning, hshutdown, hdestroy⟩ := hready
    obtain rfl := Option.some.inj hnext
    have hcounts := hbefore.counts
    have hreads := hcounts.reads
    rw [hrunning, Nat.add_zero] at hreads
    refine ⟨⟨hreads, ?_⟩,
      after_destroy (p := { q with destroy := .running }) hrunning hshutdown (by simp) hafter⟩
    rw [hcounts.shutdownBegan, hcounts.shutdownEnded]
    cases hstage : q.shutdown with
    | notYet => rfl
    | running => exact absurd hstage hshutdown
    | finished => rfl
  · cases hnext

end OtelC.Sdk.Custom
