import Mathlib.Data.List.Flatten
import OtelC.Lib.Commit

/-!
# Walks that may be stopped

A walk calls out, one call after the other, and is stopped by the first call that is answered with a
failure.  `follow` is the walk along a list of calls that is known beforehand, and a program `Walks` a
list when it does what `follow` does, whatever the answers.

* `Walks.bind`, `Walks.forM`: programs put together walk the lists put together.
* `follow_spec`: the calls made are a prefix of the list, which ends at the first failure if there is
  one.
-/

namespace Walk

open Commit hiding ofExcept

variable {κ ε α : Type}

/-- A program that makes calls; the state is the calls made so far. -/
abbrev Program (κ ε α : Type) := Call (List κ) ε α

/-- What the last of these calls is answered with: a failure, or that the walk may go on. -/
abbrev Answers (κ ε : Type) := List κ → Option ε

variable (answer : Answers κ ε)

def call (k : κ) : Program κ ε Unit := fun calls =>
  match answer (calls ++ [k]) with
  | none => (.ok (), calls ++ [k])
  | some e => (.error e, calls ++ [k])

/-- The walk along a list, after the calls made before it. -/
def follow : List κ → List κ → Except ε Unit × List κ
  | [], calls => (.ok (), calls)
  | k :: rest, calls =>
    match answer (calls ++ [k]) with
    | none => follow rest (calls ++ [k])
    | some e => (.error e, calls ++ [k])

/-- The program makes the calls of a list, as long as none fails. -/
def Walks (m : Program κ ε Unit) (plan : List κ) : Prop :=
  ∀ calls, exec m calls = follow answer plan calls

variable {answer}

/-! ### Putting walks together -/

theorem follow_append (plan plan' calls : List κ) :
    follow answer (plan ++ plan') calls =
      match follow answer plan calls with
      | (.ok _, made) => follow answer plan' made
      | (.error e, made) => (.error e, made) := by
  induction plan generalizing calls with
  | nil => rfl
  | cons k plan ih =>
    rw [List.cons_append, follow, follow]
    cases answer (calls ++ [k]) with
    | none => exact ih (calls ++ [k])
    | some e => rfl

theorem walks_pure : Walks answer (pure ()) [] := fun _ => rfl

theorem walks_call (k : κ) : Walks answer (call answer k) [k] := by
  intro calls
  rw [follow]
  show call answer k calls = _
  rw [call]
  cases answer (calls ++ [k]) <;> rfl

theorem Walks.bind {m : Program κ ε Unit} {n : Unit → Program κ ε Unit} {plan plan' : List κ}
    (hm : Walks answer m plan) (hn : Walks answer (n ()) plan') :
    Walks answer (m >>= n) (plan ++ plan') := by
  intro calls
  have hfirst := hm calls
  rw [follow_append]
  rcases hfollow : follow answer plan calls with ⟨r, made⟩
  rw [hfollow] at hfirst
  cases r with
  | ok u => exact (exec_bind_of_ok hfirst).trans (hn made)
  | error e => exact exec_bind_of_error hfirst

/-- A step that was computed beforehand makes no call. -/
theorem walks_ofExcept {a : α} {k : α → Program κ ε Unit} {r : Except ε α} {plan : List κ}
    (hr : r = .ok a) (hk : Walks answer (k a) plan) : Walks answer (Commit.ofExcept r >>= k) plan := by
  intro calls
  rw [exec_ofExcept_bind, hr]
  exact hk calls

theorem Walks.forM {l : List α} {f : α → Program κ ε Unit} {plan : α → List κ}
    (h : ∀ x ∈ l, Walks answer (f x) (plan x)) : Walks answer (l.forM f) (l.flatMap plan) := by
  induction l with
  | nil => exact walks_pure
  | cons x l ih =>
    rw [List.flatMap_cons]
    exact (h x List.mem_cons_self).bind (ih fun y hy => h y (List.mem_cons_of_mem x hy))

theorem Walks.forM_map {l : List α} {f : α → Program κ ε Unit} {k : α → κ}
    (h : ∀ x ∈ l, Walks answer (f x) [k x]) : Walks answer (l.forM f) (l.map k) := by
  have hflat : l.map k = l.flatMap fun x => [k x] := by rw [List.map_eq_flatMap]
  rw [hflat]
  exact Walks.forM h

/-- A call that is left out under a condition. -/
theorem walks_optional {c : Bool} {m : Program κ ε Unit} {plan : List κ} (h : Walks answer m plan) :
    Walks answer (if c then m else pure ()) (if c then plan else []) := by
  cases c with
  | true => exact h
  | false => exact walks_pure

theorem walks_optional_then {c : Bool} {m n : Program κ ε Unit} {plan plan' : List κ}
    (hm : Walks answer m plan) (hn : Walks answer n plan') :
    Walks answer (if c then m >>= fun _ => n else n) ((if c then plan else []) ++ plan') := by
  cases c with
  | true => exact hm.bind hn
  | false => exact hn

/-! ### What a walk does -/

/-- How a walk along a list ends, with the calls it made. -/
structure Ends (answer : Answers κ ε) (plan : List κ) (result : Except ε Unit) (made : List κ) :
    Prop where
  made_prefix : made <+: plan
  /-- Every call but the last was answered with leave to go on. -/
  went_on : ∀ before, before <+: made → before ≠ [] → before ≠ made → answer before = none
  /-- A failure is the answer to the last call. -/
  stopped : ∀ e, result = .error e ↔ made ≠ [] ∧ answer made = some e
  /-- Without one the list is walked to its end. -/
  finished : result = .ok () → made = plan

theorem follow_finished {plan calls made : List κ} (h : follow answer plan calls = (.ok (), made)) :
    made = calls ++ plan ∧ ∀ before, before <+: plan → before ≠ [] →
      answer (calls ++ before) = none := by
  induction plan generalizing calls with
  | nil =>
    cases h
    refine ⟨(List.append_nil _).symm, fun before hbefore hne => ?_⟩
    exact absurd (List.prefix_nil.mp hbefore) hne
  | cons k plan ih =>
    rw [follow] at h
    cases hk : answer (calls ++ [k]) with
    | some e =>
      rw [hk] at h
      cases h
    | none =>
      rw [hk] at h
      obtain ⟨hmade, hnone⟩ := ih h
      refine ⟨by simpa using hmade, fun before hbefore hne => ?_⟩
      obtain ⟨k', rest, rfl⟩ := List.exists_cons_of_ne_nil hne
      obtain ⟨rfl, hrest⟩ := List.cons_prefix_cons.mp hbefore
      by_cases hnil : rest = []
      · rw [hnil]
        exact hk
      · have := hnone rest hrest hnil
        rwa [List.append_assoc] at this

theorem follow_stopped {plan calls made : List κ} {e : ε}
    (h : follow answer plan calls = (.error e, made)) :
    ∃ walked, walked <+: plan ∧ walked ≠ [] ∧ made = calls ++ walked ∧ answer made = some e ∧
      ∀ before, before <+: walked → before ≠ [] → before ≠ walked →
        answer (calls ++ before) = none := by
  induction plan generalizing calls with
  | nil => cases h
  | cons k plan ih =>
    rw [follow] at h
    cases hk : answer (calls ++ [k]) with
    | some e' =>
      rw [hk] at h
      cases h
      refine ⟨[k], by simp, by simp, rfl, hk, fun before hbefore hne hlast => ?_⟩
      obtain ⟨k', rest, rfl⟩ := List.exists_cons_of_ne_nil hne
      obtain ⟨rfl, hrest⟩ := List.cons_prefix_cons.mp hbefore
      rw [List.prefix_nil.mp hrest] at hlast
      exact absurd rfl hlast
    | none =>
      rw [hk] at h
      obtain ⟨walked, hwithin, -, rfl, hanswer, hbefore⟩ := ih h
      refine ⟨k :: walked, List.cons_prefix_cons.mpr ⟨rfl, hwithin⟩, by simp, by simp, hanswer, ?_⟩
      intro before hsub hne hlast
      obtain ⟨k', rest, rfl⟩ := List.exists_cons_of_ne_nil hne
      obtain ⟨rfl, hrest⟩ := List.cons_prefix_cons.mp hsub
      by_cases hnil : rest = []
      · rw [hnil]
        exact hk
      · have hrestLast : rest ≠ walked := fun heq => hlast (by rw [heq])
        have := hbefore rest hrest hnil hrestLast
        rwa [List.append_assoc] at this

theorem follow_spec (plan : List κ) :
    Ends answer plan (follow answer plan []).1 (follow answer plan []).2 := by
  rcases h : follow answer plan [] with ⟨r, made⟩
  cases r with
  | ok u =>
    obtain ⟨rfl, hnone⟩ := follow_finished h
    refine ⟨by simp, fun before hbefore hne _ => hnone before (by simpa using hbefore) hne, ?_,
      fun _ => by simp⟩
    intro e
    refine iff_of_false (by simp) ?_
    rintro ⟨hne, hanswer⟩
    have := hnone _ (List.prefix_refl _) (by simpa using hne)
    cases this.symm.trans hanswer
  | error e =>
    obtain ⟨walked, hwithin, hne, rfl, hanswer, hbefore⟩ := follow_stopped h
    refine ⟨by simpa using hwithin, fun before hsub hbne hlast =>
      hbefore before (by simpa using hsub) hbne (by simpa using hlast), ?_, by simp⟩
    intro e'
    rw [Except.error.injEq]
    constructor
    · rintro rfl
      exact ⟨by simpa using hne, hanswer⟩
    · rintro ⟨-, hanswer'⟩
      exact Option.some.inj (hanswer.symm.trans hanswer')

/-- A walk reaches its end exactly when every call of the list is answered with leave to go on. -/
theorem Ends.ok_iff {plan made : List κ} {result : Except ε Unit}
    (h : Ends answer plan result made) :
    result = .ok () ↔ ∀ before, before <+: plan → before ≠ [] → answer before = none := by
  constructor
  · intro hok before hbefore hne
    obtain rfl := h.finished hok
    by_cases hlast : before = made
    · cases hanswer : answer before with
      | none => rfl
      | some e =>
        have herror := (h.stopped e).mpr ⟨hlast ▸ hne, hlast ▸ hanswer⟩
        rw [hok] at herror
        cases herror
    · exact h.went_on before hbefore hne hlast
  · intro hall
    cases hresult : result with
    | ok u => rfl
    | error e =>
      obtain ⟨hne, hanswer⟩ := (h.stopped e).mp hresult
      rw [hall made h.made_prefix hne] at hanswer
      cases hanswer

/-- The first failure in the list is where a walk ends. -/
theorem Ends.stops_at {plan made before : List κ} {result : Except ε Unit} {e : ε}
    (h : Ends answer plan result made) (hwithin : before <+: plan) (hne : before ≠ [])
    (hanswer : answer before = some e)
    (hfirst : ∀ earlier, earlier <+: before → earlier ≠ [] → earlier ≠ before →
      answer earlier = none) :
    made = before ∧ result = .error e := by
  have hmade : made = before := by
    by_contra hother
    rcases List.prefix_or_prefix_of_prefix h.made_prefix hwithin with hsub | hsub
    · cases hresult : result with
      | ok u =>
        rw [h.finished hresult] at hsub hother
        exact hother (hsub.eq_of_length_le hwithin.length_le)
      | error stop =>
        obtain ⟨hmadeNe, hstop⟩ := (h.stopped stop).mp hresult
        rw [hfirst made hsub hmadeNe hother] at hstop
        cases hstop
    · rw [h.went_on before hsub hne (Ne.symm hother)] at hanswer
      cases hanswer
  subst hmade
  exact ⟨rfl, (h.stopped e).mpr ⟨hne, hanswer⟩⟩

end Walk
