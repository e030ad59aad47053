import OtelC.Lib.Fields

/-!
# Programs that read fields

A program reads the memory behind a pointer a field at a time, and what it reads next may depend on
what it has read.  `run` is what it comes to and `footprint` the fields it has read on the way.  A
program comes to the same on every memory that holds the same at its footprint (`run_congr`).
-/

namespace Fields

/-- A program that reads fields of one memory. -/
inductive Scan (α : Type) where
  | done (a : α)
  | read (offset width : Nat) (next : List UInt8 → Scan α)

namespace Scan

variable {α β : Type}

def bind (p : Scan α) (f : α → Scan β) : Scan β :=
  match p with
  | done a => f a
  | read offset width next => read offset width fun bytes => (next bytes).bind f

instance : Monad Scan where
  pure := done
  bind := bind

/-- What the program comes to on a memory. -/
def run (memory : Memory) : Scan α → α
  | done a => a
  | read offset width next => (next (bytesAt memory offset width)).run memory

/-- The offsets and widths of the fields it reads there, in order. -/
def footprint (memory : Memory) : Scan α → List (Nat × Nat)
  | done _ => []
  | read offset width next =>
    (offset, width) :: (next (bytesAt memory offset width)).footprint memory

def u32 (offset : Nat) : Scan UInt32 := read offset 4 fun bytes => done (.ofNat (leNat bytes))

def u64 (offset : Nat) : Scan UInt64 := read offset 8 fun bytes => done (.ofNat (leNat bytes))

/-- A field, or the default of a memory that does not have it. -/
def covered (size stop : Nat) (p : Scan α) (default : α) : Scan α :=
  if stop ≤ size then p else done default

@[simp] theorem run_pure (memory : Memory) (a : α) : (pure a : Scan α).run memory = a := rfl

@[simp] theorem footprint_pure (memory : Memory) (a : α) :
    (pure a : Scan α).footprint memory = [] := rfl

@[simp] theorem run_u32 (memory : Memory) (offset : Nat) :
    (u32 offset).run memory = u32At memory offset := rfl

@[simp] theorem footprint_u32 (memory : Memory) (offset : Nat) :
    (u32 offset).footprint memory = [(offset, 4)] := rfl

@[simp] theorem run_u64 (memory : Memory) (offset : Nat) :
    (u64 offset).run memory = u64At memory offset := rfl

@[simp] theorem footprint_u64 (memory : Memory) (offset : Nat) :
    (u64 offset).footprint memory = [(offset, 8)] := rfl

@[simp] theorem run_bind (memory : Memory) (p : Scan α) (f : α → Scan β) :
    (p >>= f).run memory = (f (p.run memory)).run memory := by
  induction p with
  | done a => rfl
  | read offset width next ih => exact ih (bytesAt memory offset width)

@[simp] theorem footprint_bind (memory : Memory) (p : Scan α) (f : α → Scan β) :
    (p >>= f).footprint memory = p.footprint memory ++ (f (p.run memory)).footprint memory := by
  induction p with
  | done a => rfl
  | read offset width next ih =>
    show (offset, width) :: (next (bytesAt memory offset width) >>= f).footprint memory = _
    rw [ih (bytesAt memory offset width)]
    rfl

theorem run_covered (memory : Memory) (size stop : Nat) (p : Scan α) (default : α) :
    (covered size stop p default).run memory = if stop ≤ size then p.run memory else default := by
  rw [covered]
  split
  · rfl
  · rfl

theorem mem_footprint_covered {memory : Memory} {size stop : Nat} {p : Scan α} {default : α}
    {field : Nat × Nat} (h : field ∈ (covered size stop p default).footprint memory) :
    stop ≤ size ∧ field ∈ p.footprint memory := by
  rw [covered] at h
  by_cases hstop : stop ≤ size
  · rw [if_pos hstop] at h
    exact ⟨hstop, h⟩
  · rw [if_neg hstop] at h
    cases h

/-- A program comes to the same, through the same fields, wherever these hold the same. -/
theorem run_congr {memory memory' : Memory} (p : Scan α)
    (h : ∀ field ∈ p.footprint memory, SameAt memory memory' field.1 field.2) :
    p.run memory = p.run memory' ∧ p.footprint memory = p.footprint memory' := by
  induction p with
  | done a => exact ⟨rfl, rfl⟩
  | read offset width next ih =>
    have hbytes : bytesAt memory offset width = bytesAt memory' offset width :=
      bytesAt_congr (h (offset, width) (by simp [footprint]))
    obtain ⟨hrun, hfoot⟩ := ih (bytesAt memory offset width) fun field hfield =>
      h field (by simp [footprint, hfield])
    rw [run, run, footprint, footprint, ← hbytes, hrun, hfoot]
    exact ⟨rfl, rfl⟩

end Scan

end Fields
