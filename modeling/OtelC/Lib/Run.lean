import Mathlib.Data.List.Basic

/-!
# Runs of a state machine

A deterministic machine takes a state and an input to the next state, and a run feeds it a list of
inputs.  `run_invariant` is the induction every safety argument uses: what holds at the start and is
kept by every step that the run takes holds at its end.

Where a state may refuse an input, the run is `tryRun`, with the same induction `tryRun_invariant`
and with `tryRun_rel` for what relates the two ends of a run.  `AllSteps` says something of every step
of a run, and `allSteps_iff` compares two such statements along an invariant.  A history that a run
writes is `Lawful` when every entry was legal at its time.
-/

namespace Run

variable {σ ι : Type}

/-- The state after a list of inputs. -/
def run (step : σ → ι → σ) (s : σ) (inputs : List ι) : σ := inputs.foldl step s

variable {step : σ → ι → σ}

@[simp] theorem run_nil (s : σ) : run step s [] = s := rfl

@[simp] theorem run_cons (s : σ) (i : ι) (inputs : List ι) :
    run step s (i :: inputs) = run step (step s i) inputs := rfl

theorem run_append (s : σ) (a b : List ι) :
    run step s (a ++ b) = run step (run step s a) b := List.foldl_append

/-- The invariant rule, for the inputs of one run. -/
theorem run_invariant {p : σ → Prop} {s : σ} {inputs : List ι} (h0 : p s)
    (hstep : ∀ s i, i ∈ inputs → p s → p (step s i)) : p (run step s inputs) := by
  induction inputs generalizing s with
  | nil => exact h0
  | cons i inputs ih =>
    exact ih (hstep s i (by simp) h0) fun s' i' hi' => hstep s' i' (by simp [hi'])

/-! ### Steps that may be refused -/

/-- The state after a list of inputs, when none of them was refused. -/
def tryRun (step : σ → ι → Option σ) : σ → List ι → Option σ
  | s, [] => some s
  | s, i :: inputs => (step s i).bind fun s' => tryRun step s' inputs

variable {attempt : σ → ι → Option σ} {s s' s'' : σ} {a b inputs : List ι}

@[simp] theorem tryRun_nil (s : σ) : tryRun attempt s [] = some s := rfl

theorem tryRun_cons_of_eq {i : ι} (h : attempt s i = some s') :
    tryRun attempt s (i :: inputs) = tryRun attempt s' inputs := by rw [tryRun, h, Option.bind_some]

theorem tryRun_cons {i : ι} : tryRun attempt s (i :: inputs) = some s'' ↔
    ∃ s', attempt s i = some s' ∧ tryRun attempt s' inputs = some s'' := Option.bind_eq_some_iff

theorem tryRun_append (h : tryRun attempt s a = some s') :
    tryRun attempt s (a ++ b) = tryRun attempt s' b := by
  induction a generalizing s with
  | nil => rw [List.nil_append, Option.some.inj h]
  | cons i a ih =>
    obtain ⟨s₁, hstep, hrest⟩ := tryRun_cons.mp h
    rw [List.cons_append, tryRun_cons_of_eq hstep]
    exact ih hrest

theorem tryRun_append_iff : tryRun attempt s (a ++ b) = some s'' ↔
    ∃ s', tryRun attempt s a = some s' ∧ tryRun attempt s' b = some s'' := by
  induction a generalizing s with
  | nil => simp
  | cons i a ih =>
    simp only [List.cons_append, tryRun_cons, ih]
    constructor
    · rintro ⟨s₁, hi, s', ha, hb⟩
      exact ⟨s', ⟨s₁, hi, ha⟩, hb⟩
    · rintro ⟨s', ⟨s₁, hi, ha⟩, hb⟩
      exact ⟨s₁, hi, s', ha, hb⟩

/-- What a relation between states that every step keeps says of a run. -/
theorem tryRun_rel {p : σ → Prop} {r : σ → σ → Prop} (hrefl : ∀ s, r s s)
    (htrans : ∀ s₁ s₂ s₃, r s₁ s₂ → r s₂ s₃ → r s₁ s₃)
    (hstep : ∀ s i s', p s → attempt s i = some s' → p s' ∧ r s s') (h0 : p s)
    (h : tryRun attempt s inputs = some s') : p s' ∧ r s s' := by
  induction inputs generalizing s with
  | nil =>
    obtain rfl := Option.some.inj h
    exact ⟨h0, hrefl s⟩
  | cons i inputs ih =>
    obtain ⟨s₁, hfirst, hrest⟩ := tryRun_cons.mp h
    obtain ⟨h1, hrel⟩ := hstep s i s₁ h0 hfirst
    obtain ⟨hp, hrel'⟩ := ih h1 hrest
    exact ⟨hp, htrans _ _ _ hrel hrel'⟩

/-- The invariant rule, for runs that were not refused. -/
theorem tryRun_invariant {p : σ → Prop} (hstep : ∀ s i s', p s → attempt s i = some s' → p s')
    (h0 : p s) (h : tryRun attempt s inputs = some s') : p s' := by
  have hrel := tryRun_rel (r := fun _ _ => True) (fun _ => trivial) (fun _ _ _ _ _ => trivial)
    (fun s i s' hs hi => ⟨hstep s i s' hs hi, trivial⟩) h0 h
  exact hrel.1

/-- What grows by at most one in the steps of one kind grows by at most their number. -/
theorem tryRun_count (m : σ → Nat) (costly : ι → Bool)
    (hstep : ∀ s i s', attempt s i = some s' → m s' ≤ m s + (costly i).toNat)
    (h : tryRun attempt s inputs = some s') : m s' ≤ m s + inputs.countP costly := by
  induction inputs generalizing s with
  | nil =>
    obtain rfl := Option.some.inj h
    exact Nat.le_refl _
  | cons i inputs ih =>
    obtain ⟨s₁, hi, hrest⟩ := tryRun_cons.mp h
    have hfirst := hstep s i s₁ hi
    have hlater := ih hrest
    have hcount : (i :: inputs).countP costly = inputs.countP costly + (costly i).toNat := by
      rw [List.countP_cons]
      cases costly i with
      | true => rfl
      | false => rfl
    omega

/-- Every step of a run is as `p` says of its two ends and its input. -/
def AllSteps (step : σ → ι → Option σ) (p : σ → ι → σ → Prop) : σ → List ι → Prop
  | _, [] => True
  | s, i :: inputs => ∀ s', step s i = some s' → p s i s' ∧ AllSteps step p s' inputs

/-- Two properties of the steps come to the same along a run, when they do so under an invariant
that the second one keeps. -/
theorem allSteps_iff {inv : σ → Prop} {p q : σ → ι → σ → Prop}
    (hstep : ∀ s i s', inv s → attempt s i = some s' → (p s i s' ↔ q s i s'))
    (hinv : ∀ s i s', inv s → attempt s i = some s' → q s i s' → inv s') (h0 : inv s) :
    AllSteps attempt p s inputs ↔ AllSteps attempt q s inputs := by
  induction inputs generalizing s with
  | nil => exact Iff.rfl
  | cons i inputs ih =>
    refine forall_congr' fun s' => forall_congr' fun hi => ?_
    rw [hstep s i s' h0 hi]
    exact and_congr_right fun hq => ih (hinv s i s' h0 hi hq)

/-! ### Histories -/

/-- Every entry of a history was legal after the entries before it. -/
def Lawful {ε : Type} (legal : List ε → ε → Prop) (events : List ε) : Prop :=
  ∀ before e after, events = before ++ e :: after → legal before e

section Histories

variable {ε : Type} {legal : List ε → ε → Prop} {events : List ε}

theorem lawful_nil : Lawful legal [] := by
  intro before e after h
  have hlength := congrArg List.length h
  rw [List.length_append, List.length_cons, List.length_nil] at hlength
  omega

/-- A history with one more entry. -/
theorem Lawful.concat (h : Lawful legal events) {e : ε} (he : legal events e) :
    Lawful legal (events ++ [e]) := by
  intro before x after hsplit
  rcases List.eq_nil_or_concat after with rfl | ⟨after, y, rfl⟩
  · obtain ⟨rfl, hx⟩ := List.append_inj' hsplit rfl
    obtain rfl := (List.cons.inj hx).1
    exact he
  · rw [List.concat_eq_append, ← List.cons_append, ← List.append_assoc] at hsplit
    exact h before x after (List.append_inj' hsplit rfl).1

/-- A history with more entries that are legal at any time. -/
theorem Lawful.append (h : Lawful legal events) {added : List ε}
    (hfree : ∀ e ∈ added, ∀ before, legal before e) : Lawful legal (events ++ added) := by
  induction added generalizing events with
  | nil =>
    rw [List.append_nil]
    exact h
  | cons e added ih =>
    have hfirst := h.concat (hfree e List.mem_cons_self events)
    have hrest := ih hfirst fun e' he' => hfree e' (List.mem_cons_of_mem _ he')
    rwa [List.append_assoc] at hrest

/-- An entry is legal after any earlier one. -/
theorem Lawful.later (h : Lawful legal events) {before after : List ε} {e e' : ε}
    (hsplit : events = before ++ e :: after) (he' : e' ∈ after) :
    ∃ earlier, e ∈ earlier ∧ legal earlier e' := by
  obtain ⟨between, rest, rfl⟩ := List.append_of_mem he'
  refine ⟨before ++ e :: between, List.mem_append_right _ List.mem_cons_self, ?_⟩
  apply h _ e' rest
  rw [hsplit, List.append_assoc, List.cons_append]

end Histories

end Run
