import Mathlib.Data.List.Basic

/-!
# Simulations

A machine answers a call with a reply and moves to its next state.  One machine simulates another
when related states give the same reply to the same call and stay related; then no list of calls
tells the two apart.

* `simulates_of_alike`: one call at a time.
* `Simulates.replies_eq`: two machines in related states give the same replies to any calls.
* `Simulates.related`: and they are in related states afterwards.
* `map_replies_eq`: the same for two machines that are given corresponding calls.
-/

namespace Simulation

variable {σ τ ι ο : Type}

/-- The replies to a list of calls. -/
def replies (step : σ → ι → ο × σ) : σ → List ι → List ο
  | _, [] => []
  | s, call :: calls => (step s call).1 :: replies step (step s call).2 calls

/-- The state after a list of calls. -/
def after (step : σ → ι → ο × σ) (s : σ) (calls : List ι) : σ :=
  calls.foldl (fun s call => (step s call).2) s

@[simp] theorem replies_nil (step : σ → ι → ο × σ) (s : σ) : replies step s [] = [] := rfl

@[simp] theorem replies_cons (step : σ → ι → ο × σ) (s : σ) (call : ι) (calls : List ι) :
    replies step s (call :: calls) = (step s call).1 :: replies step (step s call).2 calls := rfl

@[simp] theorem after_nil (step : σ → ι → ο × σ) (s : σ) : after step s [] = s := rfl

@[simp] theorem after_cons (step : σ → ι → ο × σ) (s : σ) (call : ι) (calls : List ι) :
    after step s (call :: calls) = after step (step s call).2 calls := rfl

theorem after_append (step : σ → ι → ο × σ) (s : σ) (a b : List ι) :
    after step s (a ++ b) = after step (after step s a) b := List.foldl_append

/-- Every reply was given to one of the calls. -/
theorem exists_of_mem_replies {step : σ → ι → ο × σ} {s : σ} {calls : List ι} {reply : ο}
    (h : reply ∈ replies step s calls) : ∃ s' call, (step s' call).1 = reply := by
  induction calls generalizing s with
  | nil => cases h
  | cons call calls ih =>
    rcases List.mem_cons.mp h with rfl | h
    · exact ⟨s, call, rfl⟩
    · exact ih h

/-- Related states give the same reply to every call, and stay related. -/
structure Simulates (concrete : σ → ι → ο × σ) (abstract : τ → ι → ο × τ)
    (rel : σ → τ → Prop) : Prop where
  reply : ∀ s t call, rel s t → (concrete s call).1 = (abstract t call).1
  next : ∀ s t call, rel s t → rel (concrete s call).2 (abstract t call).2

/-- The same reply, and related states. -/
def Alike (rel : σ → τ → Prop) (a : ο × σ) (b : ο × τ) : Prop := a.1 = b.1 ∧ rel a.2 b.2

/-- A call that leaves both states as they are. -/
theorem Alike.same {rel : σ → τ → Prop} {s : σ} {t : τ} (h : rel s t) (reply : ο) :
    Alike rel (reply, s) (reply, t) := ⟨rfl, h⟩

/-- It is enough to look at one call at a time. -/
theorem simulates_of_alike {concrete : σ → ι → ο × σ} {abstract : τ → ι → ο × τ} {rel : σ → τ → Prop}
    (h : ∀ s t call, rel s t → Alike rel (concrete s call) (abstract t call)) :
    Simulates concrete abstract rel where
  reply s t call hrel := (h s t call hrel).1
  next s t call hrel := (h s t call hrel).2

variable {concrete : σ → ι → ο × σ} {abstract : τ → ι → ο × τ} {rel : σ → τ → Prop} {s : σ} {t : τ}

theorem Simulates.related (h : Simulates concrete abstract rel) (h0 : rel s t) (calls : List ι) :
    rel (after concrete s calls) (after abstract t calls) := by
  induction calls generalizing s t with
  | nil => exact h0
  | cons call calls ih => exact ih (h.next s t call h0)

/-- **No list of calls tells related states apart.** -/
theorem Simulates.replies_eq (h : Simulates concrete abstract rel) (h0 : rel s t)
    (calls : List ι) : replies concrete s calls = replies abstract t calls := by
  induction calls generalizing s t with
  | nil => rfl
  | cons call calls ih => rw [replies_cons, replies_cons, h.reply s t call h0, ih (h.next s t call h0)]

/-- **Calls that correspond cannot be told apart** by what is observed of the replies, when they keep
states related. -/
theorem map_replies_eq {ι' ο' π : Type} {f : σ → ι → ο × σ} {g : τ → ι' → ο' × τ} {obs : ο → π}
    {obs' : ο' → π} {same : ι → ι' → Prop}
    (hstep : ∀ s t call call', rel s t → same call call' →
      obs (f s call).1 = obs' (g t call').1 ∧ rel (f s call).2 (g t call').2)
    (h0 : rel s t) {calls : List ι} {calls' : List ι'} (hcalls : List.Forall₂ same calls calls') :
    (replies f s calls).map obs = (replies g t calls').map obs' := by
  induction hcalls generalizing s t with
  | nil => rfl
  | @cons call call' calls calls' hcall _ ih =>
    obtain ⟨hreply, hrel⟩ := hstep s t call call' h0 hcall
    rw [replies_cons, replies_cons, List.map_cons, List.map_cons, hreply, ih hrel]

/-- What holds at the start and is kept by every call holds afterwards. -/
theorem after_invariant {p : σ → Prop} (hstep : ∀ s call, p s → p (concrete s call).2) (h0 : p s)
    (calls : List ι) : p (after concrete s calls) := by
  induction calls generalizing s with
  | nil => exact h0
  | cons call calls ih => exact ih (hstep s call h0)

end Simulation
