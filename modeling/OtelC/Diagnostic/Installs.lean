import OtelC.Diagnostic.Once

/-!
# What becomes of a sink

* `stepThread_installs`: every sink that was made is installed, by the call that made it.
* `step_accepted`, `step_swap`, `step_drop`, `step_answers`: the way of a call that installs a sink.
* `step_report`, `step_proceeds`, `step_drop_emitted`, `step_clear`: the way of a report.
* `diagnostic_sink_run`: what holds of every sink and every report in every run.
-/

namespace OtelC.Diagnostic

/-! ### What is in the slot -/

/-- The slot after an event. -/
def Event.inSlot (slot : Option Nat) : Event → Option Nat
  | .installed sink => some sink
  | .removed _ => none
  | _ => slot

/-- The slot after a history. -/
def inSlot (events : List Event) : Option Nat := events.foldl Event.inSlot none

theorem inSlot_append (a b : List Event) : inSlot (a ++ b) = b.foldl Event.inSlot (inSlot a) :=
  List.foldl_append

/-- A history to which nothing is added that concerns the slot. -/
theorem inSlot_append_of_quiet {a b : List Event}
    (hquiet : ∀ e ∈ b, ∀ slot, e.inSlot slot = slot) : inSlot (a ++ b) = inSlot a := by
  rw [inSlot_append]
  generalize inSlot a = slot
  induction b generalizing slot with
  | nil => rfl
  | cons e b ih =>
    rw [List.foldl_cons, hquiet e List.mem_cons_self slot]
    exact ih (fun e' he' => hquiet e' (List.mem_cons_of_mem _ he')) slot

/-- A call is going to install a sink. -/
def State.Installing (s : State) (sink : Nat) : Prop :=
  ∃ thread ∈ s.threads, .installing (some sink) ∈ thread.frames

structure Installs (s : State) : Prop where
  slot : s.slot = inSlot s.events
  made : ∀ sink, sink < s.sinks.length → .installed sink ∈ s.events ∨ s.Installing sink

theorem installs_initial : Installs State.initial :=
  ⟨rfl, fun _ hsink => absurd hsink (Nat.not_lt_zero _)⟩

variable {s s' : State} {i : Nat} {thread : Thread} {rest : List Frame}

/-- What a thread is going to install is so still when it takes a step, or a thread that takes none
is going to install it. -/
theorem State.Installing.of_set {sink : Nat} (h : s.Installing sink)
    (hi : s.threads[i]? = some thread) (thread' : Thread) :
    .installing (some sink) ∈ thread.frames ∨
      ∃ t ∈ s.threads.set i thread', .installing (some sink) ∈ t.frames := by
  obtain ⟨t, ht, hframe⟩ := h
  obtain ⟨j, hj⟩ := List.mem_iff_getElem?.mp ht
  by_cases hij : i = j
  · subst hij
    rw [Option.some.inj (hi.symm.trans hj)]
    exact .inl hframe
  · refine .inr ⟨t, ?_, hframe⟩
    refine List.mem_iff_getElem?.mpr ⟨j, ?_⟩
    rw [List.getElem?_set_ne hij]
    exact hj

theorem mem_set_self (hi : s.threads[i]? = some thread) (thread' : Thread) :
    thread' ∈ s.threads.set i thread' :=
  List.mem_of_getElem? (List.getElem?_set_self (List.getElem?_eq_some_iff.mp hi).1)

/-- A step that has nothing to do with the slot. -/
theorem Installs.quiet (h : Installs s) (hi : s.threads[i]? = some thread) {thread' : Thread}
    (hsinks : s'.sinks = s.sinks) (hslot : s'.slot = s.slot)
    (hthreads : s'.threads = s.threads.set i thread') (events : List Event)
    (hevents : s'.events = s.events ++ events) (hquiet : ∀ e ∈ events, ∀ slot, e.inSlot slot = slot)
    (hkeeps : ∀ sink, .installing (some sink) ∈ thread.frames →
      .installing (some sink) ∈ thread'.frames) : Installs s' := {
  slot := by
    rw [hslot, hevents, inSlot_append_of_quiet hquiet]
    exact h.slot
  made := by
    intro sink hsink
    rw [hsinks] at hsink
    rw [hevents, State.Installing, hthreads]
    rcases h.made sink hsink with hold | hpending
    · exact .inl (List.mem_append_left _ hold)
    · rcases hpending.of_set hi thread' with hframe | hother
      · exact .inr ⟨thread', mem_set_self hi thread', hkeeps sink hframe⟩
      · exact .inr hother }

/-- The innermost frame of a thread gives way to others. -/
theorem keeps_below {f : Frame} (hframes : thread.frames = f :: rest)
    (hf : ∀ sink, f ≠ .installing (some sink)) {frames : List Frame} (hrest : rest ⊆ frames) :
    ∀ sink, .installing (some sink) ∈ thread.frames → .installing (some sink) ∈ frames := by
  intro sink hsink
  rw [hframes] at hsink
  rcases List.mem_cons.mp hsink with heq | hbelow
  · exact absurd heq.symm (hf sink)
  · exact hrest hbelow

/-- A frame gives way, and nothing is noted. -/
theorem Installs.top (h : Installs s) (hi : s.threads[i]? = some thread) {f : Frame}
    (hframes : thread.frames = f :: rest) (hf : ∀ sink, f ≠ .installing (some sink))
    {thread' : Thread} (hrest : rest ⊆ thread'.frames) (hsinks : s'.sinks = s.sinks)
    (hslot : s'.slot = s.slot) (hthreads : s'.threads = s.threads.set i thread')
    (hevents : s'.events = s.events) : Installs s' :=
  h.quiet hi hsinks hslot hthreads [] (by rw [hevents, List.append_nil])
    (fun _ he => absurd he List.not_mem_nil) (keeps_below hframes hf hrest)

/-- A frame gives way, and something is noted that does not concern the slot. -/
theorem Installs.note (h : Installs s) (hi : s.threads[i]? = some thread) {f : Frame}
    (hframes : thread.frames = f :: rest) (hf : ∀ sink, f ≠ .installing (some sink))
    {thread' : Thread} (hrest : rest ⊆ thread'.frames) (hsinks : s'.sinks = s.sinks)
    (hslot : s'.slot = s.slot) (hthreads : s'.threads = s.threads.set i thread') {e : Event}
    (hevents : s'.events = s.events ++ [e]) (hquiet : ∀ slot, e.inSlot slot = slot) : Installs s' :=
  h.quiet hi hsinks hslot hthreads [e] hevents
    (fun _ he => List.mem_singleton.mp he ▸ hquiet) (keeps_below hframes hf hrest)

theorem Installs.dropArc (h : Installs s) (hi : s.threads[i]? = some thread) {f : Frame} {sink : Nat}
    (g : Frame) (hframes : thread.frames = f :: rest) (hf : ∀ x, f ≠ .installing (some x)) :
    Installs (s.dropArc i thread sink (g :: rest)) := by
  rw [State.dropArc]
  split
  · refine h.note hi hframes hf ?_ rfl rfl rfl rfl (fun _ => rfl)
    exact List.Subset.trans (List.subset_cons_self _ _) (List.subset_cons_self _ _)
  · exact h.top hi hframes hf (List.subset_cons_self _ _) rfl rfl rfl rfl

theorem Installs.swap (h : Installs s) (hi : s.threads[i]? = some thread) {next : Option Nat}
    (hframes : thread.frames = .installing next :: rest) {thread' : Thread}
    (hrest : rest ⊆ thread'.frames) (hsinks : s'.sinks = s.sinks) (hslot : s'.slot = next)
    (hthreads : s'.threads = s.threads.set i thread')
    (hevents : s'.events = s.events ++
      ((s.slot.map Event.removed).toList ++ (next.map Event.installed).toList)) : Installs s' := {
  slot := by
    rw [hslot, hevents, inSlot_append, ← h.slot]
    cases s.slot with
    | none =>
      cases next with
      | _ => rfl
    | some old =>
      cases next with
      | _ => rfl
  made := by
    intro sink hsink
    rw [hsinks] at hsink
    rw [hevents, State.Installing, hthreads]
    rcases h.made sink hsink with hold | hpending
    · exact .inl (List.mem_append_left _ hold)
    · rcases hpending.of_set hi thread' with hframe | hother
      · rw [hframes] at hframe
        rcases List.mem_cons.mp hframe with heq | hbelow
        · obtain rfl := Frame.installing.inj heq
          exact .inl (List.mem_append_right _ (List.mem_append_right _ (List.mem_singleton_self _)))
        · exact .inr ⟨thread', mem_set_self hi thread', hrest hbelow⟩
      · exact .inr hother }

/-- An accepted table makes a sink that its call is going to install. -/
theorem Installs.make (h : Installs s) (hi : s.threads[i]? = some thread) (sink : Sink)
    {thread' : Thread} (hframes : thread'.frames = .installing (some s.sinks.length) :: thread.frames)
    (hsinks : s'.sinks = s.sinks ++ [sink]) (hslot : s'.slot = s.slot)
    (hthreads : s'.threads = s.threads.set i thread') (hevents : s'.events = s.events) :
    Installs s' := {
  slot := by
    rw [hslot, hevents]
    exact h.slot
  made := by
    intro x hx
    rw [hsinks, List.length_append, List.length_singleton] at hx
    rw [hevents, State.Installing, hthreads]
    by_cases hold : x < s.sinks.length
    · rcases h.made x hold with hin | hpending
      · exact .inl hin
      · rcases hpending.of_set hi thread' with hframe | hother
        · refine .inr ⟨thread', mem_set_self hi thread', ?_⟩
          rw [hframes]
          exact List.mem_cons_of_mem _ hframe
        · exact .inr hother
    · obtain rfl : x = s.sinks.length := by omega
      refine .inr ⟨thread', mem_set_self hi thread', ?_⟩
      rw [hframes]
      exact List.mem_cons_self }

/-- A call begins that installs no sink. -/
theorem Installs.push (h : Installs s) (hi : s.threads[i]? = some thread) {thread' : Thread}
    (hframes : thread.frames ⊆ thread'.frames) (hsinks : s'.sinks = s.sinks)
    (hslot : s'.slot = s.slot) (hthreads : s'.threads = s.threads.set i thread')
    (hevents : s'.events = s.events) : Installs s' :=
  h.quiet hi hsinks hslot hthreads [] (by rw [hevents, List.append_nil])
    (fun _ he => absurd he List.not_mem_nil) (fun _ hsink => hframes hsink)

theorem stepThread_installs {action : ThreadAction} {answer : Option Answer} (h : Installs s)
    (hi : s.threads[i]? = some thread) (hstep : stepThread s i thread action = some (s', answer)) :
    Installs s' := by
  cases action with
  | setCallback callbacks userData =>
    rw [stepThread] at hstep
    split at hstep
    · split at hstep
      · obtain rfl := congrArg Prod.fst (Option.some.inj hstep).symm
        exact h
      · obtain rfl := congrArg Prod.fst (Option.some.inj hstep).symm
        exact h.push hi (List.subset_cons_self _ _) rfl rfl rfl rfl
      · rename_i sink _
        obtain rfl := congrArg Prod.fst (Option.some.inj hstep).symm
        exact h.make hi sink rfl rfl rfl rfl rfl
    · cases hstep
  | swap =>
    rw [stepThread] at hstep
    split at hstep
    · rename_i next rest hframes
      obtain rfl := congrArg Prod.fst (Option.some.inj hstep).symm
      exact h.swap hi hframes (List.subset_cons_self _ _) rfl rfl rfl rfl
    · cases hstep
  | drop =>
    rw [stepThread] at hstep
    split at hstep
    · rename_i rest hframes
      obtain rfl := congrArg Prod.fst (Option.some.inj hstep).symm
      exact h.top hi hframes (fun _ => Frame.noConfusion) (List.subset_cons_self _ _) rfl rfl rfl rfl
    · rename_i sink rest hframes
      obtain rfl := congrArg Prod.fst (Option.some.inj hstep).symm
      exact h.dropArc hi .returning hframes fun _ => Frame.noConfusion
    · rename_i sink rest hframes
      obtain rfl := congrArg Prod.fst (Option.some.inj hstep).symm
      exact h.dropArc hi .clearing hframes fun _ => Frame.noConfusion
    · cases hstep
  | report severity message =>
    rw [stepThread] at hstep
    split at hstep
    · split at hstep
      · obtain rfl := congrArg Prod.fst (Option.some.inj hstep).symm
        exact h
      · obtain rfl := congrArg Prod.fst (Option.some.inj hstep).symm
        have hframes : thread.frames ⊆ (⟨true, .reporting :: thread.frames⟩ : Thread).frames :=
          List.subset_cons_self _ _
        exact h.push hi hframes rfl rfl rfl rfl
    · cases hstep
  | read =>
    rw [stepThread] at hstep
    split at hstep
    · rename_i rest hframes
      split at hstep
      · obtain rfl := congrArg Prod.fst (Option.some.inj hstep).symm
        exact h.top hi hframes (fun _ => Frame.noConfusion) (List.subset_cons_self _ _) rfl rfl rfl
          rfl
      · obtain rfl := congrArg Prod.fst (Option.some.inj hstep).symm
        exact h.top hi hframes (fun _ => Frame.noConfusion) (List.subset_cons_self _ _) rfl rfl rfl
          rfl
    · cases hstep
  | emit =>
    rw [stepThread] at hstep
    split at hstep
    · rename_i sink rest hframes
      obtain rfl := congrArg Prod.fst (Option.some.inj hstep).symm
      exact h.note hi hframes (fun _ => Frame.noConfusion) (List.subset_cons_self _ _) rfl rfl rfl
        rfl fun _ => rfl
    · cases hstep
  | emitted panicked =>
    rw [stepThread] at hstep
    split at hstep
    · rename_i sink rest hframes
      obtain rfl := congrArg Prod.fst (Option.some.inj hstep).symm
      exact h.note hi hframes (fun _ => Frame.noConfusion) (List.subset_cons_self _ _) rfl rfl rfl
        rfl fun _ => rfl
    · cases hstep
  | destroyed panicked =>
    rw [stepThread] at hstep
    split at hstep
    · rename_i sink rest hframes
      split at hstep
      · -- the panic ends the call that installed another sink, too
        rename_i hpanic
        obtain rfl := congrArg Prod.fst (Option.some.inj hstep).symm
        cases rest with
        | nil => cases hpanic.2
        | cons g rest =>
          obtain rfl := Option.some.inj hpanic.2
          refine h.quiet hi rfl rfl rfl [.destroyEnded sink] rfl
            (fun _ he _ => by rw [List.mem_singleton.mp he]; rfl) (fun x hx => ?_)
          have hbelow := keeps_below hframes (fun _ => Frame.noConfusion) (List.Subset.refl _) x hx
          exact (List.mem_cons.mp hbelow).resolve_left Frame.noConfusion
      · obtain rfl := congrArg Prod.fst (Option.some.inj hstep).symm
        exact h.note hi hframes (fun _ => Frame.noConfusion) (List.Subset.refl _) rfl rfl rfl rfl
          fun _ => rfl
    · cases hstep
  | clear =>
    rw [stepThread] at hstep
    split at hstep
    · rename_i rest hframes
      obtain rfl := congrArg Prod.fst (Option.some.inj hstep).symm
      have hrest : rest ⊆ (⟨false, rest⟩ : Thread).frames := List.Subset.refl _
      exact h.top hi hframes (fun _ => Frame.noConfusion) hrest rfl rfl rfl rfl
    · cases hstep
  | ret =>
    rw [stepThread] at hstep
    split at hstep
    · rename_i rest hframes
      obtain rfl := congrArg Prod.fst (Option.some.inj hstep).symm
      exact h.top hi hframes (fun _ => Frame.noConfusion) (List.Subset.refl _) rfl rfl rfl rfl
    · cases hstep

theorem run_installs {actions : List Action} (h : run actions = some s) : Installs s := by
  refine Run.tryRun_invariant ?_ installs_initial h
  intro s action s' hs hstep
  obtain ⟨⟨s₁, answer⟩, htaken, rfl⟩ := Option.map_eq_some_iff.mp hstep
  cases action with
  | spawn =>
    obtain rfl := congrArg Prod.fst (Option.some.inj htaken).symm
    refine ⟨hs.slot, fun sink hsink => (hs.made sink hsink).imp_right ?_⟩
    rintro ⟨thread, hthread, hframe⟩
    exact ⟨thread, List.mem_append_left _ hthread, hframe⟩
  | thread i action =>
    obtain ⟨thread, hi, htaken⟩ := Option.bind_eq_some_iff.mp htaken
    exact stepThread_installs hs hi htaken

/-! ### The way of a call that installs a sink -/

theorem step_thread (hi : s.threads[i]? = some thread) (action : ThreadAction) :
    step s (.thread i action) = stepThread s i thread action := by
  rw [step, hi, Option.bind_some]

theorem getElem?_setThread (hi : s.threads[i]? = some thread) (thread' : Thread) :
    (s.threads.set i thread')[i]? = some thread' :=
  List.getElem?_set_self (List.getElem?_eq_some_iff.mp hi).1

theorem step_accepted {callbacks : Option Fields.Memory} {userData : UInt64} {next : Option Sink}
    (hi : s.threads[i]? = some thread) (hcalls : thread.calls = true)
    (hnext : nextSink callbacks userData = .ok next) :
    ∃ s', step s (.thread i (.setCallback callbacks userData)) = some (s', none) ∧
      s'.sinks = s.sinks ++ next.toList ∧ s'.slot = s.slot ∧ s'.threads[i]? = some
        { thread with frames := .installing (next.map fun _ => s.sinks.length) :: thread.frames } := by
  rw [step_thread hi, stepThread, if_pos hcalls, hnext]
  cases next with
  | none => exact ⟨_, rfl, (List.append_nil _).symm, rfl, getElem?_setThread hi _⟩
  | some sink => exact ⟨_, rfl, rfl, rfl, getElem?_setThread hi _⟩

theorem step_swap {next : Option Nat} (hi : s.threads[i]? = some thread)
    (hframes : thread.frames = .installing next :: rest) :
    ∃ s', step s (.thread i .swap) = some (s', none) ∧ s'.slot = next ∧
      s'.threads[i]? = some { thread with frames := .replaced s.slot :: rest } := by
  rw [step_thread hi, stepThread, hframes]
  exact ⟨_, rfl, rfl, getElem?_setThread hi _⟩

theorem dropArc_spec (hi : s.threads[i]? = some thread) (sink : Nat) (next : List Frame) :
    (s.dropArc i thread sink next).slot = s.slot ∧ ∃ frames,
      (s.dropArc i thread sink next).threads[i]? = some { thread with frames := frames } ∧
        (frames = next ∨ frames = .destroying sink :: next) := by
  rw [State.dropArc]
  split
  · exact ⟨rfl, _, getElem?_setThread hi _, .inr rfl⟩
  · exact ⟨rfl, _, getElem?_setThread hi _, .inl rfl⟩

theorem step_drop {old : Option Nat} (hi : s.threads[i]? = some thread)
    (hframes : thread.frames = .replaced old :: rest) :
    ∃ s' frames, step s (.thread i .drop) = some (s', none) ∧ s'.slot = s.slot ∧
      s'.threads[i]? = some { thread with frames := frames } ∧ (frames = .returning :: rest ∨
        ∃ sink, old = some sink ∧ frames = .destroying sink :: .returning :: rest) := by
  rw [step_thread hi, stepThread, hframes]
  cases old with
  | none => exact ⟨_, _, rfl, rfl, getElem?_setThread hi _, .inl rfl⟩
  | some sink =>
    obtain ⟨hslot, frames, hthread, hframes⟩ := dropArc_spec hi sink (.returning :: rest)
    exact ⟨_, frames, rfl, hslot, hthread, hframes.imp_right fun heq => ⟨sink, rfl, heq⟩⟩

theorem step_answers {action : Action} (h : step s action = some (s', some (.ok ()))) :
    ∃ i thread rest, action = .thread i .ret ∧ s.threads[i]? = some thread ∧
      thread.frames = .returning :: rest := by
  cases action with
  | spawn => cases h
  | thread i action =>
    obtain ⟨thread, hi, hstep⟩ := Option.bind_eq_some_iff.mp h
    cases action with
    | ret =>
      rw [stepThread] at hstep
      split at hstep
      · rename_i rest hframes
        exact ⟨i, thread, rest, rfl, hi, hframes⟩
      · cases hstep
    | setCallback callbacks userData =>
      rw [stepThread] at hstep
      split at hstep
      · split at hstep
        · cases congrArg Prod.snd (Option.some.inj hstep)
        · cases congrArg Prod.snd (Option.some.inj hstep)
        · cases congrArg Prod.snd (Option.some.inj hstep)
      · cases hstep
    | report severity message =>
      rw [stepThread] at hstep
      split at hstep
      · split at hstep
        · cases congrArg Prod.snd (Option.some.inj hstep)
        · cases congrArg Prod.snd (Option.some.inj hstep)
      · cases hstep
    | read =>
      rw [stepThread] at hstep
      split at hstep
      · split at hstep
        · cases congrArg Prod.snd (Option.some.inj hstep)
        · cases congrArg Prod.snd (Option.some.inj hstep)
      · cases hstep
    | destroyed panicked =>
      rw [stepThread] at hstep
      split at hstep
      · split at hstep
        · cases congrArg Prod.snd (Option.some.inj hstep)
        · cases congrArg Prod.snd (Option.some.inj hstep)
      · cases hstep
    | drop =>
      rw [stepThread] at hstep
      split at hstep
      · cases congrArg Prod.snd (Option.some.inj hstep)
      · cases congrArg Prod.snd (Option.some.inj hstep)
      · cases congrArg Prod.snd (Option.some.inj hstep)
      · cases hstep
    | _ =>
      rw [stepThread] at hstep
      split at hstep
      · cases congrArg Prod.snd (Option.some.inj hstep)
      · cases hstep

/-! ### The way of a report -/

theorem step_report {severity : UInt32} {message : CSlice UInt8} (hi : s.threads[i]? = some thread)
    (hcalls : thread.calls = true) (hreporting : thread.reporting = false)
    (hreportable : reportable severity message = true) :
    ∃ s', step s (.thread i (.report severity message)) = some (s', none) ∧ s'.slot = s.slot ∧
      s'.threads[i]? = some ⟨true, .reporting :: thread.frames⟩ := by
  have hpasses : ¬(reportable severity message = false ∨ thread.reporting = true) := by
    rw [hreportable, hreporting]
    exact fun h => h.elim Bool.noConfusion Bool.noConfusion
  rw [step_thread hi, stepThread, if_pos hcalls, if_neg hpasses]
  exact ⟨_, rfl, rfl, getElem?_setThread hi _⟩

/-- How a report goes on while it has a sink, and what happens then. -/
inductive Proceeds (slot : Option Nat) : Frame → ThreadAction → Frame → List Event → Prop
  | read : Proceeds slot .reporting .read (slot.elim .clearing .holding) []
  | emit (sink : Nat) : Proceeds slot (.holding sink) .emit (.emitting sink) [.emitBegan sink]
  | emitted (sink : Nat) (panicked : Bool) :
    Proceeds slot (.emitting sink) (.emitted panicked) (.emitted sink) [.emitEnded sink]

theorem step_proceeds {frame frame' : Frame} {action : ThreadAction} {events : List Event}
    (hi : s.threads[i]? = some thread) (hframes : thread.frames = frame :: rest)
    (hproceeds : Proceeds s.slot frame action frame' events) :
    ∃ s', step s (.thread i action) = some (s', none) ∧ s'.slot = s.slot ∧
      s'.events = s.events ++ events ∧
        s'.threads[i]? = some { thread with frames := frame' :: rest } := by
  rw [step_thread hi, stepThread.eq_def]
  cases hproceeds with
  | read =>
    dsimp only
    rw [hframes]
    cases hslot : s.slot with
    | none => exact ⟨_, rfl, hslot, (List.append_nil _).symm, getElem?_setThread hi _⟩
    | some sink => exact ⟨_, rfl, hslot, (List.append_nil _).symm, getElem?_setThread hi _⟩
  | emit sink =>
    dsimp only
    rw [hframes]
    exact ⟨_, rfl, rfl, rfl, getElem?_setThread hi _⟩
  | emitted sink panicked =>
    dsimp only
    rw [hframes]
    exact ⟨_, rfl, rfl, rfl, getElem?_setThread hi _⟩

/-- The clone is dropped however the callback has ended, and the flag is cleared after that. -/
theorem step_drop_emitted {sink : Nat} (hi : s.threads[i]? = some thread)
    (hframes : thread.frames = .emitted sink :: rest) :
    ∃ s' frames, step s (.thread i .drop) = some (s', none) ∧ s'.slot = s.slot ∧
      s'.threads[i]? = some { thread with frames := frames } ∧
        (frames = .clearing :: rest ∨ frames = .destroying sink :: .clearing :: rest) := by
  rw [step_thread hi, stepThread, hframes]
  obtain ⟨hslot, frames, hthread, hframes⟩ := dropArc_spec hi sink (.clearing :: rest)
  exact ⟨_, frames, rfl, hslot, hthread, hframes⟩

theorem step_clear (hi : s.threads[i]? = some thread) (hframes : thread.frames = .clearing :: rest) :
    ∃ s', step s (.thread i .clear) = some (s', none) ∧ s'.slot = s.slot ∧
      s'.threads[i]? = some ⟨false, rest⟩ := by
  rw [step_thread hi, stepThread, hframes]
  exact ⟨_, rfl, rfl, getElem?_setThread hi _⟩

/-- A destruction returns to the call that dropped the sink, which a panic ends when the table was
being replaced. -/
theorem step_destroyed {sink : Nat} (hi : s.threads[i]? = some thread)
    (hframes : thread.frames = .destroying sink :: rest) (panicked : Bool) :
    ∃ s' frames answer, step s (.thread i (.destroyed panicked)) = some (s', answer) ∧
      s'.slot = s.slot ∧ s'.events = s.events ++ [.destroyEnded sink] ∧
        s'.threads[i]? = some { thread with frames := frames } ∧
          (frames = rest ∨ panicked = true ∧ rest = .returning :: frames) := by
  rw [step_thread hi, stepThread, hframes]
  dsimp only
  split
  · rename_i hpanic
    refine ⟨_, _, _, rfl, rfl, rfl, getElem?_setThread hi _, .inr ⟨hpanic.1, ?_⟩⟩
    exact (List.head?_eq_some_iff.mp hpanic.2).elim fun tail htail => by rw [htail]; rfl
  · exact ⟨_, _, _, rfl, rfl, rfl, getElem?_setThread hi _, .inl rfl⟩

/-! ### What holds of every sink and every report -/

/-- No call holds a clone of a sink: none is about to install it, to emit through it or to drop it. -/
def State.Unheld (s : State) (sink : Nat) : Prop :=
  ∀ thread ∈ s.threads, ∀ frame ∈ thread.frames, frame.held? ≠ some sink

instance (s : State) (sink : Nat) : Decidable (s.Unheld sink) := by
  unfold State.Unheld
  infer_instance

/-- A report is in progress on a thread, past the check of the flag. -/
def Thread.Reports (thread : Thread) : Prop := ∃ frame ∈ thread.frames, frame.reports = 1

structure SinksOnce (s : State) : Prop where
  /-- A sink has been destroyed once when it is neither in the slot nor held by a call, and before
  that not at all. -/
  destroyed : ∀ sink info, s.sinks[sink]? = some info → s.events.count (.destroyBegan sink) =
    if info.stateDestroy.isSome = true ∧ s.slot ≠ some sink ∧ s.Unheld sink then 1 else 0
  /-- Before its destruction a sink is removed and all its callbacks return, and none begins after
  it. -/
  destroyed_last : ∀ before sink after, s.events = before ++ .destroyBegan sink :: after →
    .removed sink ∈ before ∧ before.count (.emitBegan sink) = before.count (.emitEnded sink) ∧
      .emitBegan sink ∉ after ∧ .destroyBegan sink ∉ after
  /-- A report within a report is suppressed; so is one that an `emit` callback makes. -/
  suppressed : ∀ i thread, s.threads[i]? = some thread → thread.Reports →
    ∀ severity message s' answer,
      step s (.thread i (.report severity message)) = some (s', answer) → s' = s ∧ answer = none
  emitting : ∀ thread ∈ s.threads, ∀ sink, .emitting sink ∈ thread.frames → thread.Reports
  /-- The flag of a thread is set just while it reports. -/
  flag : ∀ thread ∈ s.threads, thread.reporting = true ↔ thread.Reports
  /-- Any other report sets the flag and takes the sink that is in the slot, if there is one, for its
  callback. -/
  reports : ∀ i thread severity message, s.threads[i]? = some thread → thread.calls = true →
    ¬thread.Reports → reportable severity message = true →
      ∃ s', step s (.thread i (.report severity message)) = some (s', none) ∧ s'.slot = s.slot ∧
        s'.threads[i]? = some ⟨true, .reporting :: thread.frames⟩
  proceeds : ∀ i thread frame rest action frame' events, s.threads[i]? = some thread →
    thread.frames = frame :: rest → Proceeds s.slot frame action frame' events →
      ∃ s', step s (.thread i action) = some (s', none) ∧ s'.slot = s.slot ∧
        s'.events = s.events ++ events ∧
          s'.threads[i]? = some { thread with frames := frame' :: rest }
  /-- However its callback ends, the report goes on to drop its clone and clear the flag. -/
  emitted : ∀ i thread sink rest, s.threads[i]? = some thread →
    thread.frames = .emitted sink :: rest → ∃ s' frames,
      step s (.thread i .drop) = some (s', none) ∧ s'.slot = s.slot ∧
        s'.threads[i]? = some { thread with frames := frames } ∧
          (frames = .clearing :: rest ∨ frames = .destroying sink :: .clearing :: rest)
  clears : ∀ i thread rest, s.threads[i]? = some thread → thread.frames = .clearing :: rest →
    ∃ s', step s (.thread i .clear) = some (s', none) ∧ s'.slot = s.slot ∧
      s'.threads[i]? = some ⟨false, rest⟩
  cleared : ∀ i s' answer, step s (.thread i .clear) = some (s', answer) →
    ∃ frames, s'.threads[i]? = some ⟨false, frames⟩
  /-- A destruction returns to the call that dropped the sink; a panic ends a replacement. -/
  destroying : ∀ i thread sink rest panicked, s.threads[i]? = some thread →
    thread.frames = .destroying sink :: rest → ∃ s' frames answer,
      step s (.thread i (.destroyed panicked)) = some (s', answer) ∧ s'.slot = s.slot ∧
        s'.events = s.events ++ [.destroyEnded sink] ∧
          s'.threads[i]? = some { thread with frames := frames } ∧
            (frames = rest ∨ panicked = true ∧ rest = .returning :: frames)
  /-- A rejected table changes nothing. -/
  rejected : ∀ i callbacks userData e s' answer, nextSink callbacks userData = .error e →
    step s (.thread i (.setCallback callbacks userData)) = some (s', answer) →
      s' = s ∧ answer = some (.error e)
  /-- An accepted table makes a sink, which the call is going to install; NULL makes it install
  none. -/
  accepted : ∀ i thread callbacks userData next, s.threads[i]? = some thread →
    thread.calls = true → nextSink callbacks userData = .ok next →
      ∃ s', step s (.thread i (.setCallback callbacks userData)) = some (s', none) ∧
        s'.sinks = s.sinks ++ next.toList ∧ s'.slot = s.slot ∧ s'.threads[i]? = some
          { thread with frames := .installing (next.map fun _ => s.sinks.length) :: thread.frames }
  /-- It goes into the slot, and the call takes out what was there. -/
  installs : ∀ i thread next rest, s.threads[i]? = some thread →
    thread.frames = .installing next :: rest → ∃ s', step s (.thread i .swap) = some (s', none) ∧
      s'.slot = next ∧ s'.threads[i]? = some { thread with frames := .replaced s.slot :: rest }
  /-- The call lets go of what it took out, which may destroy it, and returns. -/
  drops : ∀ i thread old rest, s.threads[i]? = some thread → thread.frames = .replaced old :: rest →
    ∃ s' frames, step s (.thread i .drop) = some (s', none) ∧ s'.slot = s.slot ∧
      s'.threads[i]? = some { thread with frames := frames } ∧ (frames = .returning :: rest ∨
        ∃ sink, old = some sink ∧ frames = .destroying sink :: .returning :: rest)
  /-- OK is the answer of such a call only. -/
  answers : ∀ action s', step s action = some (s', some (.ok ())) → ∃ i thread rest,
    action = .thread i .ret ∧ s.threads[i]? = some thread ∧ thread.frames = .returning :: rest
  /-- Every sink was installed, or a call is going to install it. -/
  installed : ∀ sink, sink < s.sinks.length → .installed sink ∈ s.events ∨ s.Installing sink
  /-- The slot has the sink that was installed last, unless it was taken out. -/
  slot : s.slot = inSlot s.events

theorem reports_le_one (frame : Frame) : frame.reports ≤ 1 := by
  cases frame <;> first | exact Nat.le_refl 1 | exact Nat.zero_le 1

theorem Invariant.flag_iff (h : Invariant s) (hthread : thread ∈ s.threads) :
    thread.reporting = true ↔ thread.Reports := by
  have hflag := h.flags thread hthread
  constructor
  · intro hset
    rw [ind_pos hset] at hflag
    by_contra hnone
    have hzero : Pool.weight Frame.reports thread.frames = 0 := by
      apply Pool.weight_eq_zero
      intro frame hframe
      have hle := reports_le_one frame
      have hne : frame.reports ≠ 1 := fun heq => hnone ⟨frame, hframe, heq⟩
      omega
    omega
  · rintro ⟨frame, hframe, hone⟩
    have hle := Pool.le_weight_of_mem (w := Frame.reports) hframe
    by_contra hclear
    rw [ind_neg hclear] at hflag
    omega

theorem Invariant.strong_eq_zero_iff (h : Invariant s) (sink : Nat) :
    s.strong sink = 0 ↔ s.slot ≠ some sink ∧ s.Unheld sink := by
  have hcounted := h.counted sink
  constructor
  · intro hzero
    refine ⟨fun heq => ?_, fun thread hthread frame hframe hheld => ?_⟩
    · rw [ind_pos heq] at hcounted
      omega
    · have hle := Pool.le_weight_of_mem (w := Thread.holds sink) hthread
      have hframeLe := Pool.le_weight_of_mem (w := Frame.holds sink) hframe
      rw [Frame.holds, ind_pos hheld] at hframeLe
      rw [Thread.holds] at hle
      omega
  · rintro ⟨hslot, hunheld⟩
    rw [ind_neg hslot] at hcounted
    rw [hcounted, Nat.zero_add]
    apply Pool.weight_eq_zero
    intro thread hthread
    apply Pool.weight_eq_zero
    intro frame hframe
    exact ind_neg (hunheld thread hthread frame hframe)

theorem Invariant.sinksOnce (h : Invariant s) (hinstalls : Installs s) : SinksOnce s := {
  destroyed := by
    intro sink info hinfo
    have hhas : hasDestroy s.sinks sink = info.stateDestroy.isSome := by
      rw [hasDestroy, hinfo]
      rfl
    rw [h.destroys, hhas]
    simp only [ind, h.strong_eq_zero_iff]
  destroyed_last := by
    intro before sink after hevents
    obtain ⟨hremoved, -, hcalls⟩ := h.lawful before _ after hevents
    refine ⟨hremoved, hcalls, fun hbegan => ?_, fun hagain => ?_⟩
    · obtain ⟨earlier, hin, hlegal⟩ := h.lawful.later hevents hbegan
      exact hlegal hin
    · obtain ⟨earlier, hin, hlegal⟩ := h.lawful.later hevents hagain
      exact hlegal.2.1 hin
  suppressed := by
    intro i thread hi hreports severity message s' answer hstep
    have hset := (h.flag_iff (List.mem_of_getElem? hi)).mpr hreports
    rw [step, hi, Option.bind_some, stepThread] at hstep
    split at hstep
    · rw [if_pos (.inr hset)] at hstep
      have hsame := Option.some.inj hstep
      exact ⟨(congrArg Prod.fst hsame).symm, (congrArg Prod.snd hsame).symm⟩
    · cases hstep
  emitting := fun _ _ sink hframe => ⟨.emitting sink, hframe, rfl⟩
  flag := fun _ hthread => h.flag_iff hthread
  reports := by
    intro i thread severity message hi hcalls hnone hreportable
    have hflag : thread.reporting = false := by
      rw [← Bool.not_eq_true, h.flag_iff (List.mem_of_getElem? hi)]
      exact hnone
    exact step_report hi hcalls hflag hreportable
  proceeds := fun _ _ _ _ _ _ _ hi hframes => step_proceeds hi hframes
  emitted := fun _ _ _ _ hi hframes => step_drop_emitted hi hframes
  clears := fun _ _ _ hi hframes => step_clear hi hframes
  destroying := fun _ _ _ _ panicked hi hframes => step_destroyed hi hframes panicked
  cleared := by
    intro i s' answer hstep
    obtain ⟨thread, hi, hstep⟩ := Option.bind_eq_some_iff.mp hstep
    rw [stepThread] at hstep
    split at hstep
    · rename_i rest hframes
      obtain rfl := congrArg Prod.fst (Option.some.inj hstep).symm
      exact ⟨rest, List.getElem?_set_self (List.getElem?_eq_some_iff.mp hi).1⟩
    · cases hstep
  rejected := by
    intro i callbacks userData e s' answer hrejected hstep
    obtain ⟨thread, hi, hstep⟩ := Option.bind_eq_some_iff.mp hstep
    rw [stepThread, hrejected] at hstep
    split at hstep
    · have hsame := Option.some.inj hstep
      exact ⟨(congrArg Prod.fst hsame).symm, (congrArg Prod.snd hsame).symm⟩
    · cases hstep
  accepted := fun _ _ _ _ _ hi hcalls hnext => step_accepted hi hcalls hnext
  installs := fun _ _ _ _ hi hframes => step_swap hi hframes
  drops := fun _ _ _ _ hi hframes => step_drop hi hframes
  answers := fun _ _ hstep => step_answers hstep
  installed := hinstalls.made
  slot := hinstalls.slot }

/-- **A diagnostic sink is destroyed once and never while in use**, in every run. -/
theorem diagnostic_sink_run (actions : List Action) (s : State) (hrun : run actions = some s) :
    SinksOnce s := (run_invariant hrun).sinksOnce (run_installs hrun)

/-- A table with both callbacks. -/
def table (offset : Nat) : UInt8 := if offset = 0 then 24 else if offset % 8 = 0 then 1 else 0

/-- A sink is cleared in its own callback, and destroyed when the callback has returned. -/
def clearedInside : List Action :=
  [.spawn, .thread 0 (.setCallback (some table) 5), .thread 0 .swap, .thread 0 .drop, .thread 0 .ret,
    .thread 0 (.report 3 (.elems [0x21])), .thread 0 .read, .thread 0 .emit,
    .thread 0 (.setCallback none 0), .thread 0 .swap, .thread 0 .drop, .thread 0 .ret,
    .thread 0 (.emitted true), .thread 0 .drop, .thread 0 (.destroyed false), .thread 0 .clear]

theorem diagnostic_sink_run_clearedInside :
    ∃ s, run clearedInside = some s ∧ SinksOnce s ∧ s.slot = none ∧
      s.threads.map Thread.reporting = [false] ∧ s.events = [.installed 0, .emitBegan 0, .removed 0,
        .emitEnded 0, .destroyBegan 0, .destroyEnded 0] :=
  ⟨_, rfl, diagnostic_sink_run clearedInside _ rfl, rfl, rfl, rfl⟩

end OtelC.Diagnostic
