import OtelC.Diagnostic.Sink

/-!
# Sinks are destroyed once

* `step_invariant`: what the counts, the flags and the history have to do with the calls that go on.
-/

namespace OtelC.Diagnostic

/-! ### What calls hold -/

def ind (p : Prop) [Decidable p] : Nat := if p then 1 else 0

theorem ind_pos {p : Prop} [Decidable p] (h : p) : ind p = 1 := if_pos h

theorem ind_neg {p : Prop} [Decidable p] (h : ¬p) : ind p = 0 := if_neg h

/-- The clone that a call holds. -/
def Frame.held? : Frame → Option Nat
  | .installing next => next
  | .replaced old => old
  | .holding sink => some sink
  | .emitting sink => some sink
  | .emitted sink => some sink
  | _ => none

/-- The same, if it comes from the slot. -/
def Frame.out? : Frame → Option Nat
  | .installing _ => none
  | frame => frame.held?

def Frame.holds (sink : Nat) (frame : Frame) : Nat := ind (frame.held? = some sink)

def Frame.emits (sink : Nat) (frame : Frame) : Nat := ind (frame = .emitting sink)

/-- A report past the check of the flag. -/
def Frame.reports : Frame → Nat
  | .reporting => 1
  | .holding _ => 1
  | .emitting _ => 1
  | .emitted _ => 1
  | .clearing => 1
  | _ => 0

def Thread.holds (sink : Nat) (thread : Thread) : Nat :=
  Pool.weight (Frame.holds sink) thread.frames

def Thread.emits (sink : Nat) (thread : Thread) : Nat :=
  Pool.weight (Frame.emits sink) thread.frames

theorem emits_le_holds (sink : Nat) (frame : Frame) : frame.emits sink ≤ frame.holds sink := by
  by_cases h : frame = .emitting sink
  · subst h
    rw [Frame.emits, Frame.holds, ind_pos rfl, Frame.held?, ind_pos rfl]
  · rw [Frame.emits, ind_neg h]
    exact Nat.zero_le _

/-! ### The invariant -/

/-- What may happen to a sink, after what has happened. -/
def Legal (before : List Event) : Event → Prop
  | .emitBegan sink => .destroyBegan sink ∉ before
  | .destroyBegan sink => .removed sink ∈ before ∧ .destroyBegan sink ∉ before ∧
      before.count (.emitBegan sink) = before.count (.emitEnded sink)
  | _ => True

structure Invariant (s : State) : Prop where
  counted : ∀ sink, s.strong sink =
    ind (s.slot = some sink) + Pool.weight (Thread.holds sink) s.threads
  born : ∀ sink, s.sinks.length ≤ sink → s.strong sink = 0
  flags : ∀ thread ∈ s.threads,
    Pool.weight Frame.reports thread.frames = ind (thread.reporting = true)
  emits : ∀ sink, s.events.count (.emitBegan sink) =
    s.events.count (.emitEnded sink) + Pool.weight (Thread.emits sink) s.threads
  destroys : ∀ sink, s.events.count (.destroyBegan sink) =
    ind (hasDestroy s.sinks sink = true ∧ s.strong sink = 0)
  slot : ∀ sink, s.slot = some sink → .installed sink ∈ s.events
  out : ∀ thread ∈ s.threads, ∀ frame ∈ thread.frames, ∀ sink, frame.out? = some sink →
    .installed sink ∈ s.events
  removed : ∀ sink, .installed sink ∈ s.events → s.slot = some sink ∨ .removed sink ∈ s.events
  lawful : Run.Lawful Legal s.events

theorem invariant_initial : Invariant State.initial := {
  counted := fun _ => rfl
  born := fun _ _ => rfl
  flags := fun _ h => absurd h List.not_mem_nil
  emits := fun _ => rfl
  destroys := fun _ => rfl
  slot := fun _ h => by cases h
  out := fun _ h => absurd h List.not_mem_nil
  removed := fun _ h => absurd h List.not_mem_nil
  lawful := Run.lawful_nil }

variable {s s' : State} {i : Nat} {thread : Thread} {rest : List Frame}

theorem mem_setThread {t t' : Thread} (h : t ∈ s.threads.set i t') :
    t = t' ∨ t ∈ s.threads := (List.mem_or_eq_of_mem_set h).symm

/-- A step of one thread, from what it does to the counts. -/
theorem Invariant.of (h : Invariant s) (hi : s.threads[i]? = some thread)
    (thread' : Thread) (sinks : List Sink) (strong : Nat → Nat) (slot : Option Nat)
    (events : List Event)
    (hcount : ∀ sink, strong sink + ind (s.slot = some sink) + thread.holds sink =
      s.strong sink + ind (slot = some sink) + thread'.holds sink)
    (hborn : ∀ sink, sinks.length ≤ sink → strong sink = 0)
    (hflag : Pool.weight Frame.reports thread'.frames = ind (thread'.reporting = true))
    (hemits : ∀ sink, events.count (.emitBegan sink) + thread.emits sink =
      events.count (.emitEnded sink) + thread'.emits sink)
    (hdestroys : ∀ sink,
      ind (hasDestroy s.sinks sink = true ∧ s.strong sink = 0) + events.count (.destroyBegan sink) =
        ind (hasDestroy sinks sink = true ∧ strong sink = 0))
    (hslot : ∀ sink, slot = some sink → .installed sink ∈ s.events ++ events)
    (hout : ∀ frame ∈ thread'.frames, ∀ sink, frame.out? = some sink →
      .installed sink ∈ s.events ++ events)
    (hremoved : ∀ sink, .installed sink ∈ s.events ++ events →
      slot = some sink ∨ .removed sink ∈ s.events ++ events)
    (hlawful : Run.Lawful Legal (s.events ++ events)) :
    Invariant ⟨sinks, strong, slot, s.threads.set i thread', s.events ++ events⟩ := {
  counted := by
    intro sink
    have hset := Pool.weight_set (w := Thread.holds sink) hi thread'
    have hold := h.counted sink
    have hnew := hcount sink
    show strong sink = ind (slot = some sink) +
      Pool.weight (Thread.holds sink) (s.threads.set i thread')
    omega
  born := hborn
  flags := by
    intro t ht
    rcases mem_setThread ht with rfl | hold
    · exact hflag
    · exact h.flags t hold
  emits := by
    intro sink
    have hset := Pool.weight_set (w := Thread.emits sink) hi thread'
    have hold := h.emits sink
    have hnew := hemits sink
    show (s.events ++ events).count _ = (s.events ++ events).count _ +
      Pool.weight (Thread.emits sink) (s.threads.set i thread')
    rw [List.count_append, List.count_append]
    omega
  destroys := by
    intro sink
    have hold := h.destroys sink
    have hnew := hdestroys sink
    show (s.events ++ events).count _ = ind (hasDestroy sinks sink = true ∧ strong sink = 0)
    rw [List.count_append]
    omega
  slot := hslot
  out := by
    intro t ht frame hframe sink hsink
    rcases mem_setThread ht with rfl | hold
    · exact hout frame hframe sink hsink
    · exact List.mem_append_left _ (h.out t hold frame hframe sink hsink)
  removed := hremoved
  lawful := hlawful }

/-- The same, where the step changes neither the slot nor a count. -/
theorem Invariant.turn (h : Invariant s) (hi : s.threads[i]? = some thread) (thread' : Thread)
    (events : List Event)
    (hquiet : ∀ sink, .installed sink ∉ events ∧ .destroyBegan sink ∉ events)
    (hholds : ∀ sink, thread'.holds sink = thread.holds sink)
    (hflag : Pool.weight Frame.reports thread'.frames = ind (thread'.reporting = true))
    (hemits : ∀ sink, events.count (.emitBegan sink) + thread.emits sink =
      events.count (.emitEnded sink) + thread'.emits sink)
    (hout : ∀ frame ∈ thread'.frames, ∀ sink, frame.out? = some sink →
      ∃ frame ∈ thread.frames, frame.out? = some sink)
    (hlawful : Run.Lawful Legal (s.events ++ events)) :
    Invariant ((s.log events).setThread i thread') := by
  refine h.of hi thread' s.sinks s.strong s.slot events (fun sink => ?_) h.born hflag hemits
    (fun sink => ?_) (fun sink hsink => List.mem_append_left _ (h.slot sink hsink))
    (fun frame hframe sink hsink => ?_)
    (fun sink hsink => ?_) hlawful
  · rw [hholds]
  · rw [List.count_eq_zero_of_not_mem (hquiet sink).2, Nat.add_zero]
  · obtain ⟨frame', hframe', hsink'⟩ := hout frame hframe sink hsink
    exact List.mem_append_left _ (h.out thread (List.mem_of_getElem? hi) frame' hframe' sink hsink')
  · rcases List.mem_append.mp hsink with hold | hnew
    · exact (h.removed sink hold).imp_right (List.mem_append_left _)
    · exact absurd hnew (hquiet sink).1

/-- The same, where nothing happens that is noted. -/
theorem Invariant.frames (h : Invariant s) (hi : s.threads[i]? = some thread) (thread' : Thread)
    (hholds : ∀ sink, thread'.holds sink = thread.holds sink)
    (hflag : Pool.weight Frame.reports thread'.frames = ind (thread'.reporting = true))
    (hemits : ∀ sink, thread'.emits sink = thread.emits sink)
    (hout : ∀ frame ∈ thread'.frames, ∀ sink, frame.out? = some sink →
      ∃ frame ∈ thread.frames, frame.out? = some sink) : Invariant (s.setThread i thread') := by
  have hturn := h.turn hi thread' [] (fun _ => ⟨List.not_mem_nil, List.not_mem_nil⟩) hholds hflag
    (fun sink => by rw [hemits]; rfl) hout (by rw [List.append_nil]; exact h.lawful)
  rwa [State.log, List.append_nil] at hturn

/-! ### Dropping a clone -/

/-- The innermost frame of a thread gives way to one that holds nothing. -/
structure Drops (f g : Frame) (sink : Nat) : Prop where
  held : f.held? = some sink
  out : f.out? = some sink
  idle : ∀ x, f.emits x = 0
  free : g.held? = none ∧ g.out? = none
  idle' : ∀ x, g.emits x = 0
  reports : g.reports = f.reports

theorem drops_replaced (sink : Nat) : Drops (.replaced (some sink)) .returning sink :=
  ⟨rfl, rfl, fun _ => rfl, ⟨rfl, rfl⟩, fun _ => rfl, rfl⟩

theorem drops_emitted (sink : Nat) : Drops (.emitted sink) .clearing sink :=
  ⟨rfl, rfl, fun _ => rfl, ⟨rfl, rfl⟩, fun _ => rfl, rfl⟩

theorem holds_of_free {f : Frame} (h : f.held? = none) (sink : Nat) : f.holds sink = 0 := by
  rw [Frame.holds, h]
  exact ind_neg fun heq => by cases heq

/-- The count of a sink that a thread holds a clone of. -/
theorem Invariant.strong_pos (h : Invariant s) (hi : s.threads[i]? = some thread) {sink : Nat}
    (hholds : 0 < thread.holds sink) : 0 < s.strong sink := by
  have hle := Pool.le_weight (w := Thread.holds sink) hi
  have hcounted := h.counted sink
  omega

theorem thread_emits_le_holds (sink : Nat) (thread : Thread) :
    thread.emits sink ≤ thread.holds sink := Pool.weight_mono (emits_le_holds sink) thread.frames

/-- Without a clone there is no callback. -/
theorem Invariant.destroy_legal (h : Invariant s) (hi : s.threads[i]? = some thread)
    (thread' : Thread) {sink : Nat}
    (hlast : s.strong sink = 1) (hholds : thread.holds sink = 1 + thread'.holds sink)
    (hemits : thread'.emits sink = thread.emits sink) (hin : .installed sink ∈ s.events) :
    Legal s.events (.destroyBegan sink) := by
  have hset := Pool.weight_set (w := Thread.holds sink) hi thread'
  have hsetEmits := Pool.weight_set (w := Thread.emits sink) hi thread'
  have hle := Pool.weight_mono (thread_emits_le_holds sink) (s.threads.set i thread')
  have hcounted := h.counted sink
  have hcalls := h.emits sink
  have hdestroys := h.destroys sink
  rw [ind_neg (fun hzero => by rw [hlast] at hzero; exact absurd hzero.2 (by decide))] at hdestroys
  refine ⟨?_, List.count_eq_zero.mp hdestroys, by omega⟩
  have hslot : ind (s.slot = some sink) = 0 := by omega
  have hne : s.slot ≠ some sink := by
    intro heq
    rw [ind_pos heq] at hslot
    cases hslot
  exact (h.removed sink hin).resolve_left hne

theorem Invariant.dropArc (h : Invariant s) (hi : s.threads[i]? = some thread) {f g : Frame}
    {sink : Nat} (hframes : thread.frames = f :: rest) (hdrops : Drops f g sink) :
    Invariant (s.dropArc i thread sink (g :: rest)) := by
  obtain ⟨hheld, hout, hidle, hfree, hidle', hreports⟩ := hdrops
  have hthread := h.flags thread (List.mem_of_getElem? hi)
  rw [hframes, Pool.weight_cons, ← hreports] at hthread
  have hholds (x : Nat) : thread.holds x = ind (sink = x) + Pool.weight (Frame.holds x) rest := by
    rw [Thread.holds, hframes, Pool.weight_cons, Frame.holds, hheld]
    simp only [Option.some.injEq]
  have hemits (x : Nat) : thread.emits x = Pool.weight (Frame.emits x) rest := by
    rw [Thread.emits, hframes, Pool.weight_cons, hidle, Nat.zero_add]
  have hin : .installed sink ∈ s.events :=
    h.out thread (List.mem_of_getElem? hi) f (hframes ▸ List.mem_cons_self) sink hout
  have hpos : 0 < s.strong sink := by
    apply h.strong_pos hi
    rw [hholds, ind_pos rfl]
    omega
  have hcount (x : Nat) : Function.update s.strong sink (s.strong sink - 1) x + ind (sink = x) =
      s.strong x := by
    by_cases hx : x = sink
    · subst hx
      rw [Function.update_self, ind_pos rfl]
      omega
    · rw [Function.update_of_ne hx, ind_neg fun heq => hx heq.symm, Nat.add_zero]
  have hborn (x : Nat) (hx : s.sinks.length ≤ x) :
      Function.update s.strong sink (s.strong sink - 1) x = 0 := by
    have hnone := h.born x hx
    have hone := hcount x
    omega
  have hrest : ∀ frame ∈ rest, ∀ x, frame.out? = some x → .installed x ∈ s.events := by
    intro frame hframe x hx
    exact h.out thread (List.mem_of_getElem? hi) frame (hframes ▸ List.mem_cons_of_mem _ hframe) x hx
  have hnew (x : Nat) (below : List Frame) (hbelow : Pool.weight (Frame.holds x) below =
      Pool.weight (Frame.holds x) rest) :
      Function.update s.strong sink (s.strong sink - 1) x + ind (s.slot = some x) +
        thread.holds x = s.strong x + ind (s.slot = some x) +
          Thread.holds x { thread with frames := below } := by
    have hone := hcount x
    rw [hholds, Thread.holds, hbelow]
    omega
  rw [State.dropArc]
  split
  · rename_i hlast
    obtain ⟨hzero, hdestroy⟩ := hlast
    have hupdated : Function.update s.strong sink (s.strong sink - 1) sink = 0 := hzero
    have hlegal : Legal s.events (.destroyBegan sink) := by
      refine h.destroy_legal hi { thread with frames := rest } ?_ ?_ ?_ hin
      · rw [Function.update_self] at hupdated
        omega
      · rw [hholds, ind_pos rfl]
        rfl
      · rw [hemits]
        rfl
    refine h.of hi { thread with frames := .destroying sink :: g :: rest } _ _ _
      [.destroyBegan sink] (fun x => hnew x _ ?_) hborn ?_ (fun x => ?_) (fun x => ?_)
      (fun x hx => List.mem_append_left _ (h.slot x hx)) (fun frame hframe x hx => ?_)
      (fun x hx => ?_) (h.lawful.concat hlegal)
    · rw [Pool.weight_cons, Pool.weight_cons, holds_of_free hfree.1, holds_of_free rfl, Nat.zero_add,
        Nat.zero_add]
    · rw [Pool.weight_cons, Pool.weight_cons]
      exact (Nat.zero_add _).trans hthread
    · rw [hemits, Thread.emits, Pool.weight_cons, Pool.weight_cons, hidle']
      have hdestroying : (Frame.destroying sink).emits x = 0 := rfl
      have hbegan : [Event.destroyBegan sink].count (.emitBegan x) = 0 := rfl
      have hended : [Event.destroyBegan sink].count (.emitEnded x) = 0 := rfl
      omega
    · by_cases hx : x = sink
      · subst hx
        rw [ind_neg (fun hnone => absurd hnone.2 (Nat.ne_of_gt hpos)), ind_pos ⟨hdestroy, hupdated⟩,
          List.count_singleton_self]
      · have hnone : Event.destroyBegan x ∉ [Event.destroyBegan sink] := by
          rw [List.mem_singleton]
          exact fun heq => hx (Event.destroyBegan.inj heq)
        show _ = ind (hasDestroy s.sinks x = true ∧
          Function.update s.strong sink (s.strong sink - 1) x = 0)
        rw [Function.update_of_ne hx, List.count_eq_zero_of_not_mem hnone, Nat.add_zero]
    · rcases List.mem_cons.mp hframe with rfl | hframe
      · cases hx
      · rcases List.mem_cons.mp hframe with rfl | hframe
        · rw [hfree.2] at hx
          cases hx
        · exact List.mem_append_left _ (hrest frame hframe x hx)
    · rcases List.mem_append.mp hx with hold | hnew
      · exact (h.removed x hold).imp_right (List.mem_append_left _)
      · cases List.mem_singleton.mp hnew
  · rename_i hmore
    have hturn := h.of hi { thread with frames := g :: rest } s.sinks
      (Function.update s.strong sink (s.strong sink - 1)) s.slot []
      (fun x => hnew x _ (by rw [Pool.weight_cons, holds_of_free hfree.1, Nat.zero_add])) hborn
      (by rw [Pool.weight_cons]; exact hthread) (fun x => ?_) (fun x => ?_)
      (fun x hx => List.mem_append_left _ (h.slot x hx)) (fun frame hframe x hx => ?_)
      (fun x hx => ?_) (by rw [List.append_nil]; exact h.lawful)
    · rw [List.append_nil] at hturn
      exact hturn
    · rw [hemits, Thread.emits, Pool.weight_cons, hidle', List.count_nil, List.count_nil]
      omega
    · rw [List.count_nil, Nat.add_zero]
      by_cases hx : x = sink
      · subst hx
        rw [ind_neg (fun hnone => absurd hnone.2 (Nat.ne_of_gt hpos)),
          ind_neg fun hlast => hmore ⟨hlast.2, hlast.1⟩]
      · rw [Function.update_of_ne hx]
    · rcases List.mem_cons.mp hframe with rfl | hframe
      · rw [hfree.2] at hx
        cases hx
      · exact List.mem_append_left _ (hrest frame hframe x hx)
    · rw [List.append_nil] at hx ⊢
      exact h.removed x hx

/-! ### The other steps that change a count -/

theorem Invariant.frames_out (h : Invariant s) (hi : s.threads[i]? = some thread) {frame : Frame}
    (hframe : frame ∈ thread.frames) {sink : Nat} (hout : frame.out? = some sink) :
    .installed sink ∈ s.events := h.out thread (List.mem_of_getElem? hi) frame hframe sink hout

/-- A table is accepted, and a sink made of it. -/
theorem Invariant.make (h : Invariant s) (hi : s.threads[i]? = some thread) (x : Sink) :
    Invariant ((({ s with sinks := s.sinks ++ [x] } : State).setStrong s.sinks.length 1).setThread i
      { thread with frames := .installing (some s.sinks.length) :: thread.frames }) := by
  have hflag := h.flags thread (List.mem_of_getElem? hi)
  have hnone := h.born s.sinks.length le_rfl
  have hturn := h.of hi { thread with frames := .installing (some s.sinks.length) :: thread.frames }
    (s.sinks ++ [x]) (Function.update s.strong s.sinks.length 1) s.slot []
    (fun sink => ?_) (fun sink hsink => ?_)
    (by rw [Pool.weight_cons]; exact (Nat.zero_add _).trans hflag)
    (fun sink => ?_) (fun sink => ?_) (fun sink hsink => List.mem_append_left _ (h.slot sink hsink))
    (fun frame hframe sink hsink => ?_) (fun sink hsink => ?_) (by rw [List.append_nil]; exact h.lawful)
  · rw [List.append_nil] at hturn
    exact hturn
  · rw [Thread.holds, Thread.holds, Pool.weight_cons]
    show _ = _ + _ + (ind (some s.sinks.length = some sink) + _)
    by_cases hsink : sink = s.sinks.length
    · subst hsink
      rw [Function.update_self, hnone, ind_pos rfl]
      omega
    · rw [Function.update_of_ne hsink, ind_neg fun heq => hsink (Option.some.inj heq).symm]
      omega
  · rw [List.length_append, List.length_singleton] at hsink
    rw [Function.update_of_ne (by omega)]
    exact h.born sink (by omega)
  · have hidle : (Frame.installing (some s.sinks.length)).emits sink = 0 := rfl
    rw [Thread.emits, Thread.emits, Pool.weight_cons, hidle, Nat.zero_add, List.count_nil,
      List.count_nil]
  · rw [List.count_nil, Nat.add_zero]
    by_cases hsink : sink = s.sinks.length
    · subst hsink
      have hfresh : hasDestroy s.sinks s.sinks.length = false := by
        rw [hasDestroy, List.getElem?_eq_none le_rfl]
        rfl
      have hbefore : ¬(hasDestroy s.sinks s.sinks.length = true ∧ s.strong s.sinks.length = 0) := by
        rw [hfresh]
        exact fun hboth => by cases hboth.1
      rw [Function.update_self, ind_neg hbefore]
      exact (ind_neg fun hboth => by cases hboth.2).symm
    · have hsame : hasDestroy (s.sinks ++ [x]) sink = true ∧ s.strong sink = 0 ↔
          hasDestroy s.sinks sink = true ∧ s.strong sink = 0 := by
        rcases Nat.lt_or_gt_of_ne hsink with hlt | hgt
        · rw [hasDestroy, List.getElem?_append_left hlt, ← hasDestroy]
        · have hlong : (s.sinks ++ [x]).length ≤ sink := by
            rw [List.length_append, List.length_singleton]
            omega
          rw [hasDestroy, hasDestroy, List.getElem?_eq_none hlong, List.getElem?_eq_none (by omega)]
      rw [Function.update_of_ne hsink]
      simp only [ind, hsame]
  · rcases List.mem_cons.mp hframe with rfl | hframe
    · cases hsink
    · exact List.mem_append_left _ (h.frames_out hi hframe hsink)
  · rw [List.append_nil] at hsink ⊢
    exact h.removed sink hsink

/-- The events of a write of the slot. -/
def swapped (slot next : Option Nat) : List Event :=
  (slot.map Event.removed).toList ++ (next.map Event.installed).toList

theorem mem_swapped {slot next : Option Nat} {e : Event} :
    e ∈ swapped slot next ↔ (∃ old, slot = some old ∧ e = .removed old) ∨
      ∃ new, next = some new ∧ e = .installed new := by
  cases slot with
  | none => cases next with
    | none => simp [swapped]
    | some new => simp [swapped]
  | some old => cases next with
    | none => simp [swapped]
    | some new => simp [swapped]

theorem lawful_swapped {events : List Event} (h : Run.Lawful Legal events) (slot next : Option Nat) :
    Run.Lawful Legal (events ++ swapped slot next) := by
  cases slot with
  | none => cases next with
    | none =>
      rw [swapped]
      exact (List.append_nil events).symm ▸ h
    | some new => exact h.concat trivial
  | some old => cases next with
    | none => exact h.concat trivial
    | some new =>
      have htwo := (h.concat (e := .removed old) trivial).concat (e := .installed new) trivial
      rwa [List.append_assoc] at htwo

theorem Invariant.swap (h : Invariant s) (hi : s.threads[i]? = some thread) {next : Option Nat}
    (hframes : thread.frames = .installing next :: rest) :
    Invariant (({ s.log (swapped s.slot next) with slot := next } : State).setThread i
      { thread with frames := .replaced s.slot :: rest }) := by
  have hflag := h.flags thread (List.mem_of_getElem? hi)
  rw [hframes, Pool.weight_cons] at hflag
  have hquiet (e : Event) (hremoved : ∀ x, e ≠ .removed x) (hinstalled : ∀ x, e ≠ .installed x) :
      (swapped s.slot next).count e = 0 := by
    apply List.count_eq_zero_of_not_mem
    rw [mem_swapped]
    rintro (⟨old, -, rfl⟩ | ⟨new, -, rfl⟩)
    · exact hremoved old rfl
    · exact hinstalled new rfl
  refine h.of hi { thread with frames := .replaced s.slot :: rest } s.sinks s.strong next
    (swapped s.slot next) (fun sink => ?_) h.born
    (by rw [Pool.weight_cons]; exact hflag) (fun sink => ?_) (fun sink => ?_) (fun sink hsink => ?_)
    (fun frame hframe sink hsink => ?_) (fun sink hsink => ?_) (lawful_swapped h.lawful _ _)
  · rw [Thread.holds, Thread.holds, hframes, Pool.weight_cons, Pool.weight_cons]
    show s.strong sink + ind (s.slot = some sink) + (ind (next = some sink) + _) =
      s.strong sink + ind (next = some sink) + (ind (s.slot = some sink) + _)
    omega
  · rw [Thread.emits, Thread.emits, hframes, Pool.weight_cons, Pool.weight_cons,
      hquiet _ (fun _ => Event.noConfusion) fun _ => Event.noConfusion,
      hquiet _ (fun _ => Event.noConfusion) fun _ => Event.noConfusion]
    rfl
  · rw [hquiet _ (fun _ => Event.noConfusion) fun _ => Event.noConfusion]
    rfl
  · exact List.mem_append_right _ (mem_swapped.mpr (.inr ⟨sink, hsink, rfl⟩))
  · rcases List.mem_cons.mp hframe with rfl | hframe
    · exact List.mem_append_left _ (h.slot sink hsink)
    · exact List.mem_append_left _ (h.frames_out hi (hframes ▸ List.mem_cons_of_mem _ hframe) hsink)
  · rcases List.mem_append.mp hsink with hold | hnew
    · refine .inr ?_
      rcases h.removed sink hold with hslot | hgone
      · exact List.mem_append_right _ (mem_swapped.mpr (.inl ⟨sink, hslot, rfl⟩))
      · exact List.mem_append_left _ hgone
    · rcases mem_swapped.mp hnew with ⟨old, -, heq⟩ | ⟨new, hnext, heq⟩
      · cases heq
      · obtain rfl := Event.installed.inj heq
        exact .inl hnext

/-- A report clones the sink in the slot. -/
theorem Invariant.clone (h : Invariant s) (hi : s.threads[i]? = some thread) {sink : Nat}
    (hframes : thread.frames = .reporting :: rest) (hslot : s.slot = some sink) :
    Invariant ((s.setStrong sink (s.strong sink + 1)).setThread i
      { thread with frames := .holding sink :: rest }) := by
  have hflag := h.flags thread (List.mem_of_getElem? hi)
  rw [hframes, Pool.weight_cons] at hflag
  have hpos : 0 < s.strong sink := by
    have hcounted := h.counted sink
    rw [ind_pos hslot] at hcounted
    omega
  have hturn := h.of hi { thread with frames := .holding sink :: rest } s.sinks
    (Function.update s.strong sink (s.strong sink + 1)) s.slot []
    (fun x => ?_) (fun x hx => ?_) (by rw [Pool.weight_cons]; exact hflag)
    (fun x => ?_) (fun x => ?_) (fun x hx => List.mem_append_left _ (h.slot x hx))
    (fun frame hframe x hx => ?_) (fun x hx => ?_) (by rw [List.append_nil]; exact h.lawful)
  · rw [List.append_nil] at hturn
    exact hturn
  · rw [Thread.holds, Thread.holds, hframes, Pool.weight_cons, Pool.weight_cons]
    show _ + _ + (0 + _) = _ + _ + (ind (some sink = some x) + _)
    by_cases hx : x = sink
    · subst hx
      rw [Function.update_self, ind_pos rfl]
      omega
    · rw [Function.update_of_ne hx, ind_neg fun heq => hx (Option.some.inj heq).symm]
  · have hne : x ≠ sink := by
      rintro rfl
      exact absurd (h.born x hx) (Nat.ne_of_gt hpos)
    rw [Function.update_of_ne hne]
    exact h.born x hx
  · rw [Thread.emits, Thread.emits, hframes, Pool.weight_cons, Pool.weight_cons]
    rfl
  · rw [List.count_nil, Nat.add_zero]
    by_cases hx : x = sink
    · subst hx
      rw [Function.update_self, ind_neg (fun hboth => absurd hboth.2 (Nat.ne_of_gt hpos)),
        ind_neg fun hboth => absurd hboth.2 (Nat.succ_ne_zero _)]
    · rw [Function.update_of_ne hx]
  · rcases List.mem_cons.mp hframe with rfl | hframe
    · obtain rfl := Option.some.inj hx
      exact List.mem_append_left _ (h.slot sink hslot)
    · exact List.mem_append_left _ (h.frames_out hi (hframes ▸ List.mem_cons_of_mem _ hframe) hx)
  · rw [List.append_nil] at hx ⊢
    exact h.removed x hx

/-! ### One step -/

/-- The innermost frame gives way to one that holds as much. -/
theorem Invariant.top (h : Invariant s) (hi : s.threads[i]? = some thread) {f : Frame} (g : Frame)
    (events : List Event) (hframes : thread.frames = f :: rest) (hheld : g.held? = f.held?)
    (hout : g.out? = f.out?)
    (hreports : g.reports = f.reports)
    (hquiet : ∀ sink, .installed sink ∉ events ∧ .destroyBegan sink ∉ events)
    (hemits : ∀ sink, events.count (.emitBegan sink) + f.emits sink =
      events.count (.emitEnded sink) + g.emits sink)
    (hlawful : Run.Lawful Legal (s.events ++ events)) :
    Invariant ((s.log events).setThread i { thread with frames := g :: rest }) := by
  have hflag := h.flags thread (List.mem_of_getElem? hi)
  rw [hframes, Pool.weight_cons, ← hreports] at hflag
  refine h.turn hi { thread with frames := g :: rest } events hquiet (fun sink => ?_)
    (by rw [Pool.weight_cons]; exact hflag) (fun sink => ?_) (fun frame hframe sink hsink => ?_) hlawful
  · rw [Thread.holds, Thread.holds, hframes, Pool.weight_cons, Pool.weight_cons, Frame.holds,
      Frame.holds, hheld]
  · have hone := hemits sink
    rw [Thread.emits, Thread.emits, hframes, Pool.weight_cons, Pool.weight_cons]
    omega
  · rw [hframes]
    rcases List.mem_cons.mp hframe with rfl | hframe
    · exact ⟨f, List.mem_cons_self, hout ▸ hsink⟩
    · exact ⟨frame, List.mem_cons_of_mem _ hframe, hsink⟩

theorem Invariant.advance (h : Invariant s) (hi : s.threads[i]? = some thread) {f : Frame} (g : Frame)
    (hframes : thread.frames = f :: rest) (hheld : g.held? = f.held?) (hout : g.out? = f.out?)
    (hreports : g.reports = f.reports) (hidle : ∀ sink, f.emits sink = g.emits sink) :
    Invariant (s.setThread i { thread with frames := g :: rest }) := by
  have htop := h.top hi g [] hframes hheld hout hreports
    (fun _ => ⟨List.not_mem_nil, List.not_mem_nil⟩) (fun sink => by rw [hidle]; rfl)
    (by rw [List.append_nil]; exact h.lawful)
  rwa [State.log, List.append_nil] at htop

/-- A frame that holds nothing and reports nothing comes or goes. -/
theorem weights_idle {f : Frame} (hheld : f.held? = none) (sink : Nat) (frames : List Frame) :
    Pool.weight (Frame.holds sink) (f :: frames) = Pool.weight (Frame.holds sink) frames ∧
      Pool.weight (Frame.emits sink) (f :: frames) = Pool.weight (Frame.emits sink) frames := by
  have hidle : f.emits sink = 0 :=
    Nat.le_zero.mp ((emits_le_holds sink f).trans (Nat.le_of_eq (holds_of_free hheld sink)))
  rw [Pool.weight_cons, Pool.weight_cons, holds_of_free hheld, hidle, Nat.zero_add, Nat.zero_add]
  exact ⟨rfl, rfl⟩

theorem out_of_free {f : Frame} (h : f.held? = none) : f.out? = none := by
  cases f with
  | installing next => rfl
  | replaced old => exact h
  | returning => rfl
  | reporting => rfl
  | holding sink => cases h
  | emitting sink => cases h
  | emitted sink => cases h
  | clearing => rfl
  | destroying sink => rfl

theorem Invariant.push (h : Invariant s) (hi : s.threads[i]? = some thread) {f : Frame}
    (hheld : f.held? = none) (reporting : Bool)
    (hflag : f.reports + ind (thread.reporting = true) = ind (reporting = true)) :
    Invariant (s.setThread i ⟨reporting, f :: thread.frames⟩) := by
  have hthread := h.flags thread (List.mem_of_getElem? hi)
  refine h.frames hi ⟨reporting, f :: thread.frames⟩
    (fun sink => (weights_idle hheld sink thread.frames).1) (by rw [Pool.weight_cons, hthread, hflag])
    (fun sink => (weights_idle hheld sink thread.frames).2) (fun frame hframe sink hsink => ?_)
  rcases List.mem_cons.mp hframe with rfl | hframe
  · rw [out_of_free hheld] at hsink
    cases hsink
  · exact ⟨frame, hframe, hsink⟩

theorem Invariant.pop (h : Invariant s) (hi : s.threads[i]? = some thread) {f : Frame}
    (hframes : thread.frames = f :: rest) (hheld : f.held? = none) (reporting : Bool)
    (hflag : f.reports + ind (reporting = true) = ind (thread.reporting = true)) :
    Invariant (s.setThread i ⟨reporting, rest⟩) := by
  have hthread := h.flags thread (List.mem_of_getElem? hi)
  rw [hframes, Pool.weight_cons] at hthread
  refine h.frames hi ⟨reporting, rest⟩ (fun sink => ?_) ?_ (fun sink => ?_)
    (fun frame hframe sink hsink => ⟨frame, hframes ▸ List.mem_cons_of_mem _ hframe, hsink⟩)
  · rw [Thread.holds, Thread.holds, hframes, (weights_idle hheld sink rest).1]
  · show Pool.weight Frame.reports rest = ind (reporting = true)
    omega
  · rw [Thread.emits, Thread.emits, hframes, (weights_idle hheld sink rest).2]

theorem Invariant.noteEnded (h : Invariant s) (sink : Nat) :
    Invariant (s.log [.destroyEnded sink]) := {
  counted := h.counted
  born := h.born
  flags := h.flags
  emits := by
    intro x
    show (s.events ++ _).count _ = (s.events ++ _).count _ + _
    rw [List.count_append, List.count_append]
    exact h.emits x
  destroys := by
    intro x
    show (s.events ++ _).count _ = _
    rw [List.count_append]
    exact h.destroys x
  slot := fun x hx => List.mem_append_left _ (h.slot x hx)
  out := fun t ht frame hframe x hx => List.mem_append_left _ (h.out t ht frame hframe x hx)
  removed := by
    intro x hx
    have hold : .installed x ∈ s.events := by
      rcases List.mem_append.mp hx with hold | hnew
      · exact hold
      · cases List.mem_singleton.mp hnew
    exact (h.removed x hold).imp_right (List.mem_append_left _)
  lawful := h.lawful.concat trivial }

theorem Invariant.spawn (h : Invariant s) :
    Invariant { s with threads := s.threads ++ [⟨false, []⟩] } :=
  { h with
    counted := by
      intro sink
      rw [Pool.weight_append]
      exact h.counted sink
    flags := by
      intro thread hthread
      rcases List.mem_append.mp hthread with hold | hnew
      · exact h.flags thread hold
      · rw [List.mem_singleton.mp hnew]
        rfl
    emits := by
      intro sink
      rw [Pool.weight_append]
      exact h.emits sink
    out := by
      intro thread hthread
      rcases List.mem_append.mp hthread with hold | hnew
      · exact h.out thread hold
      · rw [List.mem_singleton.mp hnew]
        exact fun _ hframe => absurd hframe List.not_mem_nil }

/-- A sink of which a clone is held has not been destroyed. -/
theorem Invariant.not_destroyed (h : Invariant s) (hi : s.threads[i]? = some thread) {f : Frame}
    {sink : Nat} (hframes : thread.frames = f :: rest) (hheld : f.held? = some sink) :
    .destroyBegan sink ∉ s.events := by
  have hpos : 0 < s.strong sink := by
    apply h.strong_pos hi
    rw [Thread.holds, hframes, Pool.weight_cons, Frame.holds, ind_pos hheld]
    omega
  have hdestroys := h.destroys sink
  rw [ind_neg fun hboth => absurd hboth.2 (Nat.ne_of_gt hpos)] at hdestroys
  exact List.count_eq_zero.mp hdestroys

theorem stepThread_invariant {action : ThreadAction} {answer : Option Answer} (h : Invariant s)
    (hi : s.threads[i]? = some thread) (hstep : stepThread s i thread action = some (s', answer)) :
    Invariant s' := by
  cases action with
  | setCallback callbacks userData =>
    rw [stepThread] at hstep
    split at hstep
    · split at hstep
      · obtain rfl := congrArg Prod.fst (Option.some.inj hstep).symm
        exact h
      · obtain rfl := congrArg Prod.fst (Option.some.inj hstep).symm
        exact h.push hi rfl _ (Nat.zero_add _)
      · rename_i sink _
        obtain rfl := congrArg Prod.fst (Option.some.inj hstep).symm
        exact h.make hi sink
    · cases hstep
  | swap =>
    rw [stepThread] at hstep
    split at hstep
    · rename_i next rest hframes
      obtain rfl := congrArg Prod.fst (Option.some.inj hstep).symm
      exact h.swap hi hframes
    · cases hstep
  | drop =>
    rw [stepThread] at hstep
    split at hstep
    · rename_i rest hframes
      obtain rfl := congrArg Prod.fst (Option.some.inj hstep).symm
      exact h.advance hi .returning hframes rfl rfl rfl fun _ => rfl
    · rename_i sink rest hframes
      obtain rfl := congrArg Prod.fst (Option.some.inj hstep).symm
      exact h.dropArc hi hframes (drops_replaced sink)
    · rename_i sink rest hframes
      obtain rfl := congrArg Prod.fst (Option.some.inj hstep).symm
      exact h.dropArc hi hframes (drops_emitted sink)
    · cases hstep
  | report severity message =>
    rw [stepThread] at hstep
    split at hstep
    · split at hstep
      · obtain rfl := congrArg Prod.fst (Option.some.inj hstep).symm
        exact h
      · rename_i hready
        obtain rfl := congrArg Prod.fst (Option.some.inj hstep).symm
        refine h.push hi rfl true ?_
        have hclear : ¬thread.reporting = true := fun hset => hready (.inr hset)
        rw [ind_neg hclear]
        rfl
    · cases hstep
  | read =>
    rw [stepThread] at hstep
    split at hstep
    · rename_i rest hframes
      split at hstep
      · obtain rfl := congrArg Prod.fst (Option.some.inj hstep).symm
        exact h.advance hi .clearing hframes rfl rfl rfl fun _ => rfl
      · rename_i sink hslot
        obtain rfl := congrArg Prod.fst (Option.some.inj hstep).symm
        exact h.clone hi hframes hslot
    · cases hstep
  | emit =>
    rw [stepThread] at hstep
    split at hstep
    · rename_i sink rest hframes
      obtain rfl := congrArg Prod.fst (Option.some.inj hstep).symm
      refine h.top hi (.emitting sink) _ hframes rfl rfl rfl (fun x => ?_) (fun x => ?_)
        (h.lawful.concat (e := .emitBegan sink) (h.not_destroyed hi hframes rfl))
      · simp only [List.mem_singleton, reduceCtorEq, not_false_eq_true, and_self]
      · simp only [Frame.emits, Frame.emitting.injEq, reduceCtorEq, List.count_singleton, ind,
          beq_iff_eq, Event.emitBegan.injEq, if_false, Nat.add_zero, Nat.zero_add]
    · cases hstep
  | emitted panicked =>
    rw [stepThread] at hstep
    split at hstep
    · rename_i sink rest hframes
      obtain rfl := congrArg Prod.fst (Option.some.inj hstep).symm
      refine h.top hi (.emitted sink) _ hframes rfl rfl rfl (fun x => ?_) (fun x => ?_)
        (h.lawful.concat (e := .emitEnded sink) trivial)
      · simp only [List.mem_singleton, reduceCtorEq, not_false_eq_true, and_self]
      · simp only [Frame.emits, Frame.emitting.injEq, reduceCtorEq, List.count_singleton, ind,
          beq_iff_eq, Event.emitEnded.injEq, if_false, Nat.add_zero, Nat.zero_add]
    · cases hstep
  | destroyed panicked =>
    rw [stepThread] at hstep
    split at hstep
    · rename_i sink rest hframes
      split at hstep
      · rename_i hpanic
        obtain rfl := congrArg Prod.fst (Option.some.inj hstep).symm
        have hfirst := (h.noteEnded sink).pop hi hframes rfl thread.reporting (Nat.zero_add _)
        cases rest with
        | nil => cases hpanic.2
        | cons g rest =>
          obtain rfl := Option.some.inj hpanic.2
          have hlt : i < s.threads.length := (List.getElem?_eq_some_iff.mp hi).1
          have hset : (s.threads.set i ⟨thread.reporting, .returning :: rest⟩)[i]? =
              some ⟨thread.reporting, .returning :: rest⟩ := List.getElem?_set_self hlt
          have hsecond := hfirst.pop hset rfl rfl thread.reporting (Nat.zero_add _)
          rwa [State.setThread, State.setThread, List.set_set] at hsecond
      · obtain rfl := congrArg Prod.fst (Option.some.inj hstep).symm
        exact (h.noteEnded sink).pop hi hframes rfl _ (Nat.zero_add _)
    · cases hstep
  | clear =>
    rw [stepThread] at hstep
    split at hstep
    · rename_i rest hframes
      obtain rfl := congrArg Prod.fst (Option.some.inj hstep).symm
      refine h.pop hi hframes rfl false ?_
      have hthread := h.flags thread (List.mem_of_getElem? hi)
      rw [hframes, Pool.weight_cons] at hthread
      have hone : Frame.clearing.reports = 1 := rfl
      have hset : thread.reporting = true := by
        by_contra hclear
        rw [ind_neg hclear] at hthread
        omega
      rw [ind_pos hset]
      rfl
    · cases hstep
  | ret =>
    rw [stepThread] at hstep
    split at hstep
    · rename_i rest hframes
      obtain rfl := congrArg Prod.fst (Option.some.inj hstep).symm
      exact h.pop hi hframes rfl _ (Nat.zero_add _)
    · cases hstep

theorem step_invariant {action : Action} {answer : Option Answer} (h : Invariant s)
    (hstep : step s action = some (s', answer)) : Invariant s' := by
  cases action with
  | spawn =>
    obtain rfl := congrArg Prod.fst (Option.some.inj hstep).symm
    exact h.spawn
  | thread i action =>
    obtain ⟨thread, hi, hstep⟩ := Option.bind_eq_some_iff.mp hstep
    exact stepThread_invariant h hi hstep

theorem run_invariant {actions : List Action} (h : run actions = some s) : Invariant s := by
  refine Run.tryRun_invariant ?_ invariant_initial h
  intro s action s' hs hstep
  obtain ⟨⟨s₁, answer⟩, htaken, rfl⟩ := Option.map_eq_some_iff.mp hstep
  exact step_invariant hs htaken

end OtelC.Diagnostic
