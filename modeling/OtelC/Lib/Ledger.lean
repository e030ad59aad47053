import Mathlib.Data.List.Induction
import Mathlib.Logic.Function.Basic

/-!
# A ledger of owned references

A reference is acquired once, may change hands and be used while it is held, and is released once.
A ledger is the list of what happened; it is sound when every entry was legal at its time.  A
program is accounted for by a ledger it writes as it goes: that the ledger is sound says that
nothing is released twice and nothing used after its release, and the lives of the references say
who has to release what is still held.

* `sound_concat`: one more entry.
* `releaseCount_eq`: in a sound ledger a reference was released once if its life is over, and
  otherwise not at all.
* `ref_ne_of_released`: nothing happens to a reference after its release.
* `Agrees.update`: what the holders of a program hold follows what the ledger says.
* `Holding`: the same where a holder holds one reference at most.
-/

namespace Ledger

variable {ρ ℓ : Type}

inductive Event (ρ ℓ : Type) where
  | acquire (r : ρ) (holder : ℓ)
  | move (r : ρ) (holder : ℓ)
  | use (r : ρ)
  | release (r : ρ)
  deriving DecidableEq

/-- The reference an entry is about. -/
def Event.ref : Event ρ ℓ → ρ
  | .acquire r _ => r
  | .move r _ => r
  | .use r => r
  | .release r => r

inductive Life (ℓ : Type) where
  | unborn
  | held (holder : ℓ)
  | released
  deriving DecidableEq

variable [DecidableEq ρ]

/-- The lives of all references after one more entry. -/
def apply (lives : ρ → Life ℓ) : Event ρ ℓ → ρ → Life ℓ
  | .acquire r holder => Function.update lives r (.held holder)
  | .move r holder => Function.update lives r (.held holder)
  | .use _ => lives
  | .release r => Function.update lives r .released

def lives (events : List (Event ρ ℓ)) : ρ → Life ℓ :=
  events.foldl apply fun _ => .unborn

/-- An entry is legal when its reference is unborn, or held by somebody. -/
def Legal (lives : ρ → Life ℓ) : Event ρ ℓ → Prop
  | .acquire r _ => lives r = .unborn
  | .move r _ => ∃ holder, lives r = .held holder
  | .use r => ∃ holder, lives r = .held holder
  | .release r => ∃ holder, lives r = .held holder

inductive Sound : List (Event ρ ℓ) → Prop where
  | nil : Sound []
  | concat {events : List (Event ρ ℓ)} {e : Event ρ ℓ} (h : Sound events)
      (hlegal : Legal (lives events) e) : Sound (events ++ [e])

/-! ### One entry -/

@[simp] theorem lives_nil (r : ρ) : lives ([] : List (Event ρ ℓ)) r = .unborn := rfl

@[simp] theorem lives_concat (events : List (Event ρ ℓ)) (e : Event ρ ℓ) :
    lives (events ++ [e]) = apply (lives events) e := by
  rw [lives, List.foldl_append, lives]
  rfl

theorem apply_of_ne {before : ρ → Life ℓ} {e : Event ρ ℓ} {r : ρ} (h : r ≠ e.ref) :
    apply before e r = before r := by
  cases e with
  | acquire x holder => exact Function.update_of_ne h _ _
  | move x holder => exact Function.update_of_ne h _ _
  | use x => rfl
  | release x => exact Function.update_of_ne h _ _

@[simp] theorem apply_acquire_self (before : ρ → Life ℓ) (r : ρ) (holder : ℓ) :
    apply before (.acquire r holder) r = .held holder := Function.update_self _ _ _

@[simp] theorem apply_move_self (before : ρ → Life ℓ) (r : ρ) (holder : ℓ) :
    apply before (.move r holder) r = .held holder := Function.update_self _ _ _

@[simp] theorem apply_use (before : ρ → Life ℓ) (r : ρ) : apply before (.use r) = before := rfl

@[simp] theorem apply_release_self (before : ρ → Life ℓ) (r : ρ) :
    apply before (.release r) r = .released := Function.update_self _ _ _

theorem sound_concat {events : List (Event ρ ℓ)} {e : Event ρ ℓ} :
    Sound (events ++ [e]) ↔ Sound events ∧ Legal (lives events) e := by
  constructor
  · intro h
    generalize hwhole : events ++ [e] = whole at h
    cases h with
    | nil => simp at hwhole
    | concat h hlegal =>
      obtain ⟨rfl, he⟩ := List.append_inj' hwhole rfl
      obtain rfl := (List.cons.inj he).1
      exact ⟨h, hlegal⟩
  · intro h
    exact .concat h.1 h.2

/-! ### The whole life of a reference -/

def isRelease (r : ρ) : Event ρ ℓ → Bool
  | .release x => x = r
  | _ => false

def isAcquire (r : ρ) : Event ρ ℓ → Bool
  | .acquire x _ => x = r
  | _ => false

/-- How often a reference was released. -/
def releaseCount (events : List (Event ρ ℓ)) (r : ρ) : Nat := events.countP (isRelease r)

def acquireCount (events : List (Event ρ ℓ)) (r : ρ) : Nat := events.countP (isAcquire r)

theorem releaseCount_concat (events : List (Event ρ ℓ)) (e : Event ρ ℓ) (r : ρ) :
    releaseCount (events ++ [e]) r = releaseCount events r + if isRelease r e then 1 else 0 := by
  rw [releaseCount, List.countP_append, List.countP_singleton, releaseCount]

theorem acquireCount_concat (events : List (Event ρ ℓ)) (e : Event ρ ℓ) (r : ρ) :
    acquireCount (events ++ [e]) r = acquireCount events r + if isAcquire r e then 1 else 0 := by
  rw [acquireCount, List.countP_append, List.countP_singleton, acquireCount]

theorem isRelease_of_ne {e : Event ρ ℓ} {r : ρ} (h : r ≠ e.ref) : isRelease r e = false := by
  cases e with
  | release x => exact decide_eq_false fun hx => h hx.symm
  | acquire x holder => rfl
  | move x holder => rfl
  | use x => rfl

theorem isAcquire_of_ne {e : Event ρ ℓ} {r : ρ} (h : r ≠ e.ref) : isAcquire r e = false := by
  cases e with
  | acquire x holder => exact decide_eq_false fun hx => h hx.symm
  | release x => rfl
  | move x holder => rfl
  | use x => rfl

def Life.isReleased : Life ℓ → Bool
  | .released => true
  | _ => false

def Life.isUnborn : Life ℓ → Bool
  | .unborn => true
  | _ => false

/-- **A reference is released once, when its life ends.** -/
theorem releaseCount_eq {events : List (Event ρ ℓ)} (h : Sound events) (r : ρ) :
    releaseCount events r = if (lives events r).isReleased then 1 else 0 := by
  induction h with
  | nil => rfl
  | @concat events e _ hlegal ih =>
    rw [releaseCount_concat, ih, lives_concat]
    by_cases hr : r = e.ref
    · subst hr
      cases e with
      | acquire x holder =>
        have hlife : lives events x = .unborn := hlegal
        simp [Event.ref, isRelease, hlife, Life.isReleased]
      | move x holder =>
        obtain ⟨_, hlife⟩ := hlegal
        simp [Event.ref, isRelease, hlife, Life.isReleased]
      | use x => exact Nat.add_zero _
      | release x =>
        obtain ⟨_, hlife⟩ := hlegal
        simp [Event.ref, isRelease, hlife, Life.isReleased]
    · rw [apply_of_ne hr, isRelease_of_ne hr]
      simp

/-- A reference is acquired once. -/
theorem acquireCount_eq {events : List (Event ρ ℓ)} (h : Sound events) (r : ρ) :
    acquireCount events r = if (lives events r).isUnborn then 0 else 1 := by
  induction h with
  | nil => rfl
  | @concat events e _ hlegal ih =>
    rw [acquireCount_concat, ih, lives_concat]
    by_cases hr : r = e.ref
    · subst hr
      cases e with
      | acquire x holder =>
        have hlife : lives events x = .unborn := hlegal
        simp [Event.ref, isAcquire, hlife, Life.isUnborn]
      | move x holder =>
        obtain ⟨_, hlife⟩ := hlegal
        simp [Event.ref, isAcquire, hlife, Life.isUnborn]
      | use x => exact Nat.add_zero _
      | release x =>
        obtain ⟨_, hlife⟩ := hlegal
        simp [Event.ref, isAcquire, hlife, Life.isUnborn]
    · rw [apply_of_ne hr, isAcquire_of_ne hr]
      simp

omit [DecidableEq ρ] in
theorem not_legal_of_released {before : ρ → Life ℓ} {e : Event ρ ℓ}
    (h : before e.ref = .released) : ¬Legal before e := by
  intro hlegal
  cases e with
  | acquire r holder => cases h.symm.trans hlegal
  | move r holder =>
    obtain ⟨_, hheld⟩ := hlegal
    cases h.symm.trans hheld
  | use r =>
    obtain ⟨_, hheld⟩ := hlegal
    cases h.symm.trans hheld
  | release r =>
    obtain ⟨_, hheld⟩ := hlegal
    cases h.symm.trans hheld

/-- **Nothing happens to a reference after its release.** -/
theorem ref_ne_of_released {a b : List (Event ρ ℓ)} {r : ρ} (h : Sound (a ++ b))
    (hreleased : lives a r = .released) : lives (a ++ b) r = .released ∧ ∀ e ∈ b, e.ref ≠ r := by
  induction b using List.reverseRecOn with
  | nil =>
    rw [List.append_nil]
    exact ⟨hreleased, List.forall_mem_nil _⟩
  | append_singleton b e ih =>
    rw [← List.append_assoc] at h ⊢
    obtain ⟨hsound, hlegal⟩ := sound_concat.mp h
    obtain ⟨hlife, hall⟩ := ih hsound
    have hne : e.ref ≠ r := by
      rintro rfl
      exact not_legal_of_released hlife hlegal
    refine ⟨?_, ?_⟩
    · rw [lives_concat, apply_of_ne (Ne.symm hne)]
      exact hlife
    · intro x hx
      rcases List.mem_append.mp hx with hx | hx
      · exact hall x hx
      · rw [List.mem_singleton.mp hx]
        exact hne

/-! ### The holders of a program -/

/-- What the holders of a program hold is what the ledger says; holders that the program does not
keep book of are left out. -/
def Agrees (tracked : ℓ → Prop) (lives : ρ → Life ℓ) (holds : ℓ → ρ → Prop) : Prop :=
  ∀ holder, tracked holder → ∀ r, lives r = .held holder ↔ holds holder r

section Agrees

variable {tracked : ℓ → Prop} {before : ρ → Life ℓ} {holds holds' : ℓ → ρ → Prop}

omit [DecidableEq ρ] in
/-- A reference has one holder. -/
theorem Agrees.holder_eq (h : Agrees tracked before holds) {holder other : ℓ}
    (hholder : tracked holder) (hother : tracked other) {r : ρ} (hr : holds holder r)
    (hr' : holds other r) : holder = other := by
  have hlife := (h holder hholder r).mpr hr
  exact Life.held.inj (hlife.symm.trans ((h other hother r).mpr hr'))

/-- One reference changes its life. -/
theorem Agrees.update (h : Agrees tracked before holds) {r : ρ} {life : Life ℓ}
    (hself : ∀ holder, tracked holder → (life = .held holder ↔ holds' holder r))
    (hother : ∀ holder, tracked holder → ∀ x, x ≠ r → (holds' holder x ↔ holds holder x)) :
    Agrees tracked (Function.update before r life) holds' := by
  intro holder hholder x
  by_cases hx : x = r
  · subst hx
    rw [Function.update_self]
    exact hself holder hholder
  · rw [Function.update_of_ne hx, hother holder hholder x hx]
    exact h holder hholder x

omit [DecidableEq ρ] in
theorem Agrees.congr (h : Agrees tracked before holds)
    (hholds : ∀ holder, tracked holder → ∀ x, holds' holder x ↔ holds holder x) :
    Agrees tracked before holds' := by
  intro holder hholder x
  rw [hholds holder hholder x]
  exact h holder hholder x

end Agrees

/-! ### Holders of one reference -/

/-- The ledger and the contents of the holders agree; every holder has room for one reference. -/
def Holding (lives : ρ → Life ℓ) (content : ℓ → Option ρ) : Prop :=
  ∀ holder r, lives r = .held holder ↔ content holder = some r

section Holding

variable [DecidableEq ℓ] {before : ρ → Life ℓ} {content : ℓ → Option ρ} {holder target : ℓ} {r : ρ}

omit [DecidableEq ρ] [DecidableEq ℓ] in
theorem Holding.legal (h : Holding before content) (hr : content holder = some r) :
    ∃ holder, before r = .held holder := ⟨holder, (h holder r).mpr hr⟩

omit [DecidableEq ρ] [DecidableEq ℓ] in
theorem Holding.holder_eq (h : Holding before content) {other : ℓ} (hr : content holder = some r)
    (hother : content other = some r) : other = holder := by
  have hlife := (h other r).mpr hother
  exact Life.held.inj (hlife.symm.trans ((h holder r).mpr hr))

/-- A holder that held nothing takes a new reference. -/
theorem Holding.acquire (h : Holding before content) (hlife : before r = .unborn)
    (hempty : content holder = none) :
    Holding (apply before (.acquire r holder)) (Function.update content holder (some r)) := by
  intro x y
  by_cases hx : x = holder
  · subst hx
    rw [Function.update_self]
    by_cases hy : y = r
    · subst hy
      rw [apply_acquire_self]
      exact ⟨fun _ => rfl, fun _ => rfl⟩
    · rw [apply_of_ne hy, h x y, hempty]
      exact ⟨fun heq => (by cases heq), fun heq => absurd (Option.some.inj heq).symm hy⟩
  · rw [Function.update_of_ne hx]
    by_cases hy : y = r
    · subst hy
      rw [apply_acquire_self, ← h x y, hlife]
      exact ⟨fun heq => absurd (Life.held.inj heq).symm hx, fun heq => (by cases heq)⟩
    · rw [apply_of_ne hy, h x y]

/-- A holder lets go of its reference for good. -/
theorem Holding.release (h : Holding before content) (hr : content holder = some r) :
    Holding (apply before (.release r)) (Function.update content holder none) := by
  intro x y
  by_cases hy : y = r
  · subst hy
    rw [apply_release_self]
    refine ⟨fun heq => (by cases heq), fun heq => ?_⟩
    by_cases hx : x = holder
    · subst hx
      rw [Function.update_self] at heq
      cases heq
    · rw [Function.update_of_ne hx] at heq
      exact absurd (h.holder_eq hr heq) hx
  · rw [apply_of_ne hy, h x y]
    by_cases hx : x = holder
    · subst hx
      rw [Function.update_self, hr]
      exact ⟨fun heq => absurd (Option.some.inj heq).symm hy, fun heq => (by cases heq)⟩
    · rw [Function.update_of_ne hx]

/-- A reference passes from one holder to another one, which held nothing. -/
theorem Holding.move (h : Holding before content) (hr : content holder = some r)
    (hempty : content target = none) :
    Holding (apply before (.move r target))
      (Function.update (Function.update content holder none) target (some r)) := by
  intro x y
  by_cases hx : x = target
  · subst hx
    rw [Function.update_self]
    by_cases hy : y = r
    · subst hy
      rw [apply_move_self]
      exact ⟨fun _ => rfl, fun _ => rfl⟩
    · rw [apply_of_ne hy, h x y, hempty]
      exact ⟨fun heq => (by cases heq), fun heq => absurd (Option.some.inj heq).symm hy⟩
  · rw [Function.update_of_ne hx]
    by_cases hy : y = r
    · subst hy
      rw [apply_move_self]
      refine ⟨fun heq => absurd (Life.held.inj heq).symm hx, fun heq => ?_⟩
      by_cases hholder : x = holder
      · subst hholder
        rw [Function.update_self] at heq
        cases heq
      · rw [Function.update_of_ne hholder] at heq
        exact absurd (h.holder_eq hr heq) hholder
    · rw [apply_of_ne hy, h x y]
      by_cases hholder : x = holder
      · subst hholder
        rw [Function.update_self, hr]
        exact ⟨fun heq => absurd (Option.some.inj heq).symm hy, fun heq => (by cases heq)⟩
      · rw [Function.update_of_ne hholder]

end Holding

end Ledger
