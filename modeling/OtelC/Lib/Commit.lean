import Mathlib.Data.Multiset.Basic

/-!
# Calls that check and then commit

A call reads and writes a state and may fail, and what it wrote before it failed stays written.  It is
`Atomic` when it fails without having written anything, and there are two ways to be: to check first
(`ReadOnly.bind`), and to have nothing left that can fail afterwards (`Atomic.bind`).

* `bind_eq_ok`, `bind_eq_error`: what is known of a sequence from how it ended.
* `Atomic.zoom`: a call on a part of the state is as atomic as it is on the part alone.
* `Atomic.exec_eq`: an atomic call leaves what `after` says, or fails and leaves everything.
-/

namespace Commit

/-- A call on states of `σ` that may fail with an `ε`. -/
abbrev Call (σ ε : Type) := ExceptT ε (StateM σ)

variable {σ ε α β : Type}

/-- The outcome of a call, and the state it leaves. -/
def exec (m : Call σ ε α) (s : σ) : Except ε α × σ := m s

/-- A step that was computed without the state. -/
def ofExcept (r : Except ε α) : Call σ ε α := fun s => (r, s)

/-- Change the state. -/
def update (f : σ → σ) : Call σ ε Unit := fun s => (.ok (), f s)

/-- The state. -/
def state : Call σ ε σ := fun s => (.ok s, s)

/-- A call on a part of the state.  What it leaves of the part goes back, however it ends. -/
def zoom {τ : Type} (get : σ → Except ε τ) (put : σ → τ → σ) (m : Call τ ε α) : Call σ ε α :=
  fun s =>
    match get s with
    | .error e => (.error e, s)
    | .ok t => ((exec m t).1, put s (exec m t).2)

/-- The state that a call leaves when it succeeds. -/
def after (m : Call σ ε α) (s : σ) : Except ε σ := (exec m s).1.map fun _ => (exec m s).2

/-! ### Running -/

@[simp] theorem exec_pure (a : α) (s : σ) : exec (pure a : Call σ ε α) s = (.ok a, s) := rfl

@[simp] theorem exec_ofExcept (r : Except ε α) (s : σ) : exec (ofExcept r) s = (r, s) := rfl

@[simp] theorem exec_update (f : σ → σ) (s : σ) :
    exec (update f : Call σ ε Unit) s = (.ok (), f s) := rfl

@[simp] theorem exec_state (s : σ) : exec (state : Call σ ε σ) s = (.ok s, s) := rfl

theorem exec_bind_of_ok {m : Call σ ε α} {k : α → Call σ ε β} {s s' : σ} {a : α}
    (h : exec m s = (.ok a, s')) : exec (m >>= k) s = exec (k a) s' := by
  show ExceptT.bindCont k (exec m s).1 (exec m s).2 = exec (k a) s'
  rw [h]
  rfl

theorem exec_bind_of_error {m : Call σ ε α} {k : α → Call σ ε β} {s s' : σ} {e : ε}
    (h : exec m s = (.error e, s')) : exec (m >>= k) s = (.error e, s') := by
  show ExceptT.bindCont k (exec m s).1 (exec m s).2 = (.error e, s')
  rw [h]
  rfl

/-- A step that was computed without the state leaves it alone. -/
theorem exec_ofExcept_bind (r : Except ε α) (k : α → Call σ ε β) (s : σ) :
    exec (ofExcept r >>= k) s =
      match r with
      | .error e => (.error e, s)
      | .ok a => exec (k a) s := by
  cases r with
  | error e => exact exec_bind_of_error rfl
  | ok a => exact exec_bind_of_ok rfl

theorem bind_eq_ok {m : Call σ ε α} {k : α → Call σ ε β} {s s' : σ} {b : β} :
    exec (m >>= k) s = (.ok b, s') ↔
      ∃ a s₁, exec m s = (.ok a, s₁) ∧ exec (k a) s₁ = (.ok b, s') := by
  constructor
  · intro h
    rcases hm : exec m s with ⟨r, s₁⟩
    cases r with
    | error e =>
      rw [exec_bind_of_error hm] at h
      cases h
    | ok a =>
      rw [exec_bind_of_ok hm] at h
      exact ⟨a, s₁, rfl, h⟩
  · rintro ⟨a, s₁, hm, hk⟩
    rw [exec_bind_of_ok hm]
    exact hk

theorem bind_eq_error {m : Call σ ε α} {k : α → Call σ ε β} {s s' : σ} {e : ε} :
    exec (m >>= k) s = (.error e, s') ↔
      exec m s = (.error e, s') ∨
        ∃ a s₁, exec m s = (.ok a, s₁) ∧ exec (k a) s₁ = (.error e, s') := by
  constructor
  · intro h
    rcases hm : exec m s with ⟨r, s₁⟩
    cases r with
    | error e' =>
      rw [exec_bind_of_error hm] at h
      cases h
      exact .inl rfl
    | ok a =>
      rw [exec_bind_of_ok hm] at h
      exact .inr ⟨a, s₁, rfl, h⟩
  · rintro (hm | ⟨a, s₁, hm, hk⟩)
    · exact exec_bind_of_error hm
    · rw [exec_bind_of_ok hm]
      exact hk

theorem ofExcept_bind_eq_ok {r : Except ε α} {k : α → Call σ ε β} {s s' : σ} {b : β} :
    exec (ofExcept r >>= k) s = (.ok b, s') ↔ ∃ a, r = .ok a ∧ exec (k a) s = (.ok b, s') := by
  rw [exec_ofExcept_bind]
  cases r with
  | error e => simp
  | ok a => simp

/-- A check that refuses, and what follows it. -/
theorem guard_eq_ok {c : Prop} [Decidable c] {e : ε} {m : Call σ ε α} {s s' : σ} {a : α} :
    exec (if c then ofExcept (.error e) else m) s = (.ok a, s') ↔
      ¬c ∧ exec m s = (.ok a, s') := by
  split
  · rename_i hc
    simp [hc]
  · rename_i hc
    simp [hc]

theorem exec_zoom_of_ok {τ : Type} {get : σ → Except ε τ} {put : σ → τ → σ} {m : Call τ ε α} {s : σ}
    {t : τ} (h : get s = .ok t) :
    exec (zoom get put m) s = ((exec m t).1, put s (exec m t).2) := by
  rw [exec, zoom, h]

theorem exec_zoom_of_error {τ : Type} {get : σ → Except ε τ} {put : σ → τ → σ} {m : Call τ ε α}
    {s : σ} {e : ε} (h : get s = .error e) : exec (zoom get put m) s = (.error e, s) := by
  rw [exec, zoom, h]

/-! ### What a call leaves when it succeeds -/

theorem after_state_bind (k : σ → Call σ ε α) (s : σ) : after (state >>= k) s = after (k s) s := by
  rw [after, exec_bind_of_ok (exec_state s)]
  rfl

theorem after_ofExcept_bind (r : Except ε α) (k : α → Call σ ε β) (s : σ) :
    after (ofExcept r >>= k) s = r >>= fun a => after (k a) s := by
  rw [after, exec_ofExcept_bind]
  cases r with
  | error e => rfl
  | ok a => rfl

theorem after_ite {c : Prop} [Decidable c] (m n : Call σ ε α) (s : σ) :
    after (if c then m else n) s = if c then after m s else after n s :=
  apply_ite (fun m => after m s) c m n

/-! ### What a failed call has written -/

/-- A failed call has written nothing. -/
def Atomic (m : Call σ ε α) : Prop := ∀ s e s', exec m s = (.error e, s') → s' = s

/-- A call writes nothing at all. -/
def ReadOnly (m : Call σ ε α) : Prop := ∀ s, (exec m s).2 = s

/-- A call always succeeds. -/
def NeverFails (m : Call σ ε α) : Prop := ∀ s, ∃ a s', exec m s = (.ok a, s')

theorem readOnly_pure (a : α) : ReadOnly (pure a : Call σ ε α) := fun _ => rfl

theorem readOnly_ofExcept (r : Except ε α) : ReadOnly (ofExcept r : Call σ ε α) := fun _ => rfl

theorem readOnly_state : ReadOnly (state : Call σ ε σ) := fun _ => rfl

theorem neverFails_pure (a : α) : NeverFails (pure a : Call σ ε α) := fun s => ⟨a, s, rfl⟩

theorem neverFails_update (f : σ → σ) : NeverFails (update f : Call σ ε Unit) :=
  fun s => ⟨(), f s, rfl⟩

theorem ReadOnly.eq {m : Call σ ε α} (hm : ReadOnly m) {s s' : σ} {r : Except ε α}
    (h : exec m s = (r, s')) : s' = s := by
  have hs := hm s
  rw [h] at hs
  exact hs

theorem ReadOnly.atomic {m : Call σ ε α} (hm : ReadOnly m) : Atomic m := fun _ _ _ h => hm.eq h

theorem NeverFails.atomic {m : Call σ ε α} (hm : NeverFails m) : Atomic m := by
  intro s e s' h
  obtain ⟨a, s₁, hok⟩ := hm s
  cases hok.symm.trans h

theorem NeverFails.bind {m : Call σ ε α} {k : α → Call σ ε β} (hm : NeverFails m)
    (hk : ∀ a, NeverFails (k a)) : NeverFails (m >>= k) := by
  intro s
  obtain ⟨a, s₁, hfirst⟩ := hm s
  obtain ⟨b, s₂, hrest⟩ := hk a s₁
  exact ⟨b, s₂, by rw [exec_bind_of_ok hfirst, hrest]⟩

/-- A check comes before what is atomic. -/
theorem ReadOnly.bind {m : Call σ ε α} {k : α → Call σ ε β} (hm : ReadOnly m)
    (hk : ∀ a, Atomic (k a)) : Atomic (m >>= k) := by
  intro s e s' h
  rcases bind_eq_error.mp h with hfirst | ⟨a, s₁, hfirst, hrest⟩
  · exact hm.eq hfirst
  · obtain rfl := hm.eq hfirst
    exact hk a _ _ _ hrest

theorem Atomic.ite {c : Prop} [Decidable c] {m n : Call σ ε α} (hm : Atomic m) (hn : Atomic n) :
    Atomic (if c then m else n) := by
  split
  · exact hm
  · exact hn

/-- A call on a part is atomic, where putting a part back that was not changed changes nothing. -/
theorem Atomic.zoom {τ : Type} {get : σ → Except ε τ} {put : σ → τ → σ} {m : Call τ ε α}
    (hm : Atomic m) (hput : ∀ s t, get s = .ok t → put s t = s) : Atomic (zoom get put m) := by
  intro s e s' h
  cases hget : get s with
  | error e' =>
    rw [exec_zoom_of_error hget] at h
    exact (congrArg Prod.snd h).symm
  | ok t =>
    rw [exec_zoom_of_ok hget] at h
    obtain ⟨hfailed, rfl⟩ := Prod.mk.inj h
    have hkept : (exec m t).2 = t := hm t e _ (Prod.ext hfailed rfl)
    rw [hkept, hput s t hget]

/-- An atomic call either leaves what `after` says, or fails and leaves the state. -/
theorem Atomic.exec_eq {m : Call σ ε Unit} (hm : Atomic m) (s : σ) :
    exec m s = match after m s with
      | .ok s' => (.ok (), s')
      | .error e => (.error e, s) := by
  rcases hexec : exec m s with ⟨r, s'⟩
  rw [after, hexec]
  cases r with
  | error e =>
    obtain rfl := hm _ _ _ hexec
    rfl
  | ok u => rfl

/-- After what is atomic nothing may fail. -/
theorem Atomic.bind {m : Call σ ε α} {k : α → Call σ ε β} (hm : Atomic m)
    (hk : ∀ a, NeverFails (k a)) : Atomic (m >>= k) := by
  intro s e s' h
  rcases bind_eq_error.mp h with hfirst | ⟨a, s₁, -, hrest⟩
  · exact hm _ _ _ hfirst
  · obtain ⟨b, s₂, hok⟩ := hk a s₁
    cases hok.symm.trans hrest

end Commit
