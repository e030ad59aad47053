import Mathlib.Algebra.GroupWithZero.Nat
import Mathlib.Algebra.BigOperators.Group.List.Basic

/-!
# Weights of a pool

A pool is a list of activities that come, change and go in any order.  Its weight counts what they
hold together, and a change of one activity changes the weight by what it changes of its own.

* `Exchange`: some activities of a pool gave way to others.
* `Account.Holds.turn`: an account of a state, a history and a pool stays even, when each turn of an
  activity keeps it even on its own.
-/

namespace Pool

variable {α : Type}

/-- What the activities of a pool hold together. -/
def weight (w : α → Nat) (pool : List α) : Nat := (pool.map w).sum

variable {w : α → Nat} {pool : List α} {i : Nat} {a : α}

@[simp] theorem weight_nil (w : α → Nat) : weight w [] = 0 := rfl

@[simp] theorem weight_cons (w : α → Nat) (a : α) (pool : List α) :
    weight w (a :: pool) = w a + weight w pool := List.sum_cons

@[simp] theorem weight_append (w : α → Nat) (a b : List α) :
    weight w (a ++ b) = weight w a + weight w b := by
  rw [weight, List.map_append, List.sum_append, weight, weight]

/-- One activity changes. -/
theorem weight_set (h : pool[i]? = some a) (b : α) :
    weight w (pool.set i b) + w a = weight w pool + w b := by
  induction pool generalizing i with
  | nil => cases h
  | cons c pool ih =>
    cases i with
    | zero =>
      obtain rfl := Option.some.inj h
      rw [List.set_cons_zero, weight_cons, weight_cons]
      omega
    | succ i =>
      rw [List.getElem?_cons_succ] at h
      have hrest := ih h
      rw [List.set_cons_succ, weight_cons, weight_cons]
      omega

/-- One activity goes. -/
theorem weight_eraseIdx (h : pool[i]? = some a) :
    weight w (pool.eraseIdx i) + w a = weight w pool := by
  induction pool generalizing i with
  | nil => cases h
  | cons c pool ih =>
    cases i with
    | zero =>
      obtain rfl := Option.some.inj h
      rw [List.eraseIdx_cons_zero, weight_cons]
      omega
    | succ i =>
      rw [List.getElem?_cons_succ] at h
      have hrest := ih h
      rw [List.eraseIdx_cons_succ, weight_cons, weight_cons]
      omega

theorem le_weight (h : pool[i]? = some a) : w a ≤ weight w pool := by
  have hrest := weight_eraseIdx (w := w) h
  omega

theorem le_weight_of_mem (h : a ∈ pool) : w a ≤ weight w pool := by
  obtain ⟨i, hi⟩ := List.mem_iff_getElem?.mp h
  exact le_weight hi

theorem weight_eq_zero (h : ∀ a ∈ pool, w a = 0) : weight w pool = 0 := by
  induction pool with
  | nil => rfl
  | cons a pool ih =>
    rw [weight_cons, h a List.mem_cons_self, ih fun b hb => h b (List.mem_cons_of_mem _ hb)]

theorem weight_eq_zero_iff : weight w pool = 0 ↔ ∀ a ∈ pool, w a = 0 := by
  refine ⟨fun hzero a ha => ?_, weight_eq_zero⟩
  have hle := le_weight_of_mem (w := w) ha
  omega

@[simp] theorem weight_zero (pool : List α) : weight (fun _ => 0) pool = 0 :=
  weight_eq_zero fun _ _ => rfl

theorem weight_mono {w' : α → Nat} (h : ∀ a, w a ≤ w' a) (pool : List α) :
    weight w pool ≤ weight w' pool := by
  induction pool with
  | nil => exact Nat.le_refl 0
  | cons a pool ih =>
    rw [weight_cons, weight_cons]
    exact Nat.add_le_add (h a) ih

theorem weight_add (w w' : α → Nat) (pool : List α) :
    weight (fun a => w a + w' a) pool = weight w pool + weight w' pool := by
  induction pool with
  | nil => rfl
  | cons a pool ih =>
    rw [weight_cons, weight_cons, weight_cons, ih]
    omega

theorem weight_flatMap {β : Type} (w : β → Nat) (f : α → List β) (pool : List α) :
    weight w (pool.flatMap f) = weight (fun a => weight w (f a)) pool := by
  induction pool with
  | nil => rfl
  | cons a pool ih => rw [List.flatMap_cons, weight_append, weight_cons, ih]

/-! ### Exchanges -/

/-- The activities `gone` of a pool gave way to `come`. -/
def Exchange (pool pool' gone come : List α) : Prop :=
  ∀ w : α → Nat, weight w pool' + weight w gone = weight w pool + weight w come

/-- One of several lists of activities changes at its head. -/
theorem exchange_flatMap {β : Type} {lists : List β} {list list' : β} (f : β → List α)
    (h : lists[i]? = some list) {gone come rest : List α} (hlist : f list = gone ++ rest)
    (hlist' : f list' = come ++ rest) :
    Exchange (lists.flatMap f) ((lists.set i list').flatMap f) gone come := by
  intro w
  have hset := weight_set (w := fun l => weight w (f l)) h list'
  rw [hlist, hlist', weight_append, weight_append] at hset
  rw [weight_flatMap, weight_flatMap]
  omega

/-- One of several lists changes outside of what is looked at. -/
theorem flatMap_set {β : Type} {f : β → List α} {lists : List β} {list list' : β}
    (h : lists[i]? = some list) (hsame : f list' = f list) :
    (lists.set i list').flatMap f = lists.flatMap f := by
  induction lists generalizing i with
  | nil => rfl
  | cons c lists ih =>
    cases i with
    | zero =>
      obtain rfl := Option.some.inj h
      rw [List.set_cons_zero, List.flatMap_cons, List.flatMap_cons, hsame]
    | succ i =>
      rw [List.getElem?_cons_succ] at h
      rw [List.set_cons_succ, List.flatMap_cons, List.flatMap_cons, ih h]

/-! ### Accounts -/

/-- What a state, the events of a history and the activities of a pool come to on two sides. -/
structure Account (σ ε α : Type) where
  credit : σ → Nat
  debit : σ → Nat
  credited : ε → Bool
  debited : ε → Bool
  held : α → Nat

namespace Account

variable {σ ε : Type} {account : Account σ ε α} {s s' : σ} {events added : List ε}
  {pool' gone come : List α}

/-- The two sides are even. -/
def Holds (account : Account σ ε α) (s : σ) (pool : List α) (events : List ε) : Prop :=
  account.credit s + events.countP account.credited =
    account.debit s + events.countP account.debited + weight account.held pool

/-- A turn adds as much to one side as to the other. -/
def Conserved (account : Account σ ε α) (s s' : σ) (gone come : List α) (added : List ε) : Prop :=
  account.credit s' + added.countP account.credited + (account.debit s + weight account.held gone) =
    account.credit s + (account.debit s' + added.countP account.debited + weight account.held come)

theorem Holds.turn (h : account.Holds s pool events) (hexchange : Exchange pool pool' gone come)
    (hconserved : account.Conserved s s' gone come added) :
    account.Holds s' pool' (events ++ added) := by
  have hpool := hexchange account.held
  unfold Holds Conserved at *
  rw [List.countP_append, List.countP_append]
  omega

end Account

end Pool
