import OtelC.Context.Stack
import OtelC.Lib.Run

/-!
# Attaching and detaching on many threads

Every thread has a stack of its own, which comes into being at its first use and takes the next
thread token of the process.  A token of an attachment is a value: threads may copy it, keep it and
pass it on.

* `attachOn_cases`, `detachOn_cases`: a call is refused and changes no stack, or it pushes an entry
  with the next token, or it pops the entry its token names.
* `step_cases`: what one call does to the process and its history.
-/

namespace OtelC.Context

/-! ### The stacks of all threads -/

/-- The `CURRENT_CONTEXT` of one thread. -/
inductive Slot where
  | fresh
  | live (stack : ContextStack)
  | destroyed

structure Process where
  nextThreadToken : UInt64
  slots : Nat → Slot

/-- `ContextStack::new`, with the counter it leaves. -/
def ContextStack.new (nextThreadToken : UInt64) : ContextStack × UInt64 :=
  if nextThreadToken = 0 then (⟨nextThreadToken + 1, 1, []⟩, nextThreadToken + 1 + 1)
  else (⟨nextThreadToken, 1, []⟩, nextThreadToken + 1)

def Process.put (process : Process) (thread : Nat) (slot : Slot) : Process :=
  { process with slots := Function.update process.slots thread slot }

/-- `CURRENT_CONTEXT.try_with` up to the closure: the stack is created at its first use. -/
def Process.touch (process : Process) (thread : Nat) : Process :=
  match process.slots thread with
  | .fresh =>
    let (stack, next) := ContextStack.new process.nextThreadToken
    { process with nextThreadToken := next }.put thread (.live stack)
  | _ => process

/-- What a call answers. -/
structure Reply where
  status : OtelStatus
  message : Option String
  scope : Option OtelContextScope

def ScopeCall.reply (call : ScopeCall) : Reply := ⟨call.status, call.message, call.scope⟩

/-- The closure of `try_with`, on the stack of this thread. -/
def Process.withStack (process : Process) (thread : Nat) (scope : Option OtelContextScope)
    (body : ContextStack → ScopeCall) : Reply × Process :=
  let process := process.touch thread
  match process.slots thread with
  | .live stack => ((body stack).reply, process.put thread (.live (body stack).stack))
  | _ => (⟨.internalError, some "thread-local context is unavailable", scope⟩, process)

/-- `otel_context_attach` on a thread: the checks, and then the closure on its stack. -/
def attachOn (process : Process) (thread : Nat) (context : HandleArg ContextData)
    (scope : Option OtelContextScope) : Reply × Process :=
  match scope with
  | none => (⟨.invalidArgument, some "context scope is NULL", none⟩, process)
  | some scope =>
    if scope.structSize < scopeSize then
      (⟨.invalidConfig, some "context scope struct_size is too small", none⟩, process)
    else
      let inactive := { scope with threadToken := 0, generation := 0, reserved := (0, 0) }
      match checkedRef context with
      | .error e => (⟨.invalidArgument, some e.message, some inactive⟩, process)
      | .ok _ =>
        process.withStack thread (some inactive) fun stack =>
          otelContextAttach stack context (some scope)

/-- `otel_context_scope_detach` on a thread. -/
def detachOn (process : Process) (thread : Nat) (scope : Option OtelContextScope) :
    Reply × Process :=
  match scope with
  | none => (⟨.invalidArgument, some "context scope is NULL", none⟩, process)
  | some scope =>
    if scope.structSize < scopeSize then
      (⟨.invalidConfig, some "context scope struct_size is too small", none⟩, process)
    else if scope.reserved ≠ (0, 0) ∨ scope.threadToken = 0 ∨ scope.generation = 0 then
      (⟨.invalidArgument, some "context scope is inactive or invalid", none⟩, process)
    else
      process.withStack thread none fun stack => otelContextScopeDetach stack (some scope)

/-- `current_data` on a thread. -/
def currentOn (process : Process) (thread : Nat) : Option ContextData × Process :=
  let process := process.touch thread
  match process.slots thread with
  | .live stack => (currentData stack, process)
  | _ => (none, process)

/-! ### Runs -/

/-- What identifies an attachment. -/
structure Token where
  threadToken : UInt64
  generation : UInt64
  deriving DecidableEq

def OtelContextScope.token (scope : OtelContextScope) : Token :=
  ⟨scope.threadToken, scope.generation⟩

inductive Call where
  | attach (thread : Nat) (context : HandleArg ContextData) (scope : Option OtelContextScope)
  | detach (thread : Nat) (scope : Option OtelContextScope)
  | current (thread : Nat)
  | exit (thread : Nat)

/-- A process and its history: the threads in the order in which their stacks came into being, and
the tokens handed out and taken back, each with the thread that called. -/
structure World where
  process : Process
  started : List Nat
  issued : List (Nat × Token)
  detached : List (Nat × Token)

def World.initial : World := ⟨⟨1, fun _ => .fresh⟩, [], [], []⟩

def Slot.isFresh : Slot → Bool
  | .fresh => true
  | _ => false

/-- The next process of a world, with a stack that has come into being noted. -/
def World.proceed (world : World) (thread : Nat) (process : Process) : World :=
  { world with
    process := process
    started :=
      if (world.process.slots thread).isFresh && !(process.slots thread).isFresh then
        world.started ++ [thread]
      else world.started }

def step (world : World) : Call → World
  | .attach thread context scope =>
    let (reply, process) := attachOn world.process thread context scope
    let world := world.proceed thread process
    match reply.status, reply.scope with
    | .ok, some scope => { world with issued := world.issued ++ [(thread, scope.token)] }
    | _, _ => world
  | .detach thread scope =>
    let (reply, process) := detachOn world.process thread scope
    let world := world.proceed thread process
    match reply.status, scope with
    | .ok, some scope => { world with detached := world.detached ++ [(thread, scope.token)] }
    | _, _ => world
  | .current thread => world.proceed thread (currentOn world.process thread).2
  | .exit thread =>
    match world.process.slots thread with
    | .live _ => { world with process := world.process.put thread .destroyed }
    | _ => world

/-- The world after a sequence of calls from the start of the process. -/
def run (calls : List Call) : World := Run.run step World.initial calls

/-! ### What one call does -/

theorem Process.put_self {process : Process} {thread : Nat} {slot : Slot}
    (h : process.slots thread = slot) : process.put thread slot = process := by
  rw [Process.put, ← h, Function.update_eq_self]

theorem Process.put_slots_self (process : Process) (thread : Nat) (slot : Slot) :
    (process.put thread slot).slots thread = slot := Function.update_self _ _ _

theorem Process.put_slots_of_ne {process : Process} {thread other : Nat} {slot : Slot}
    (h : other ≠ thread) : (process.put thread slot).slots other = process.slots other :=
  Function.update_of_ne h _ _

/-- The stack after an attachment. -/
def ContextStack.push (stack : ContextStack) (data : ContextData) : ContextStack :=
  { (allocateGeneration stack).2 with entries := stack.entries ++ [⟨stack.nextGeneration, data⟩] }

def ContextStack.pop (stack : ContextStack) : ContextStack :=
  { stack with entries := stack.entries.dropLast }

/-- The token of the next attachment. -/
def ContextStack.nextToken (stack : ContextStack) : Token :=
  ⟨stack.threadToken, stack.nextGeneration⟩

/-- A token as `attach` writes it. -/
def OtelContextScope.WellFormed (scope : OtelContextScope) : Prop :=
  scopeSize ≤ scope.structSize ∧ scope.reserved = (0, 0)

theorem withStack_cases (process : Process) (thread : Nat) (scope : Option OtelContextScope)
    (body : ContextStack → ScopeCall) :
    (∃ stack, (process.touch thread).slots thread = .live stack ∧
      process.withStack thread scope body =
        ((body stack).reply, (process.touch thread).put thread (.live (body stack).stack))) ∨
      (∀ stack, (process.touch thread).slots thread ≠ .live stack) ∧
        process.withStack thread scope body =
          (⟨.internalError, some "thread-local context is unavailable", scope⟩,
            process.touch thread) := by
  rw [Process.withStack]
  cases hslot : (process.touch thread).slots thread with
  | live stack => exact .inl ⟨stack, rfl, rfl⟩
  | fresh => exact .inr ⟨fun _ => Slot.noConfusion, rfl⟩
  | destroyed => exact .inr ⟨fun _ => Slot.noConfusion, rfl⟩

/-- The scope while it names no attachment. -/
def OtelContextScope.inactive (scope : OtelContextScope) : OtelContextScope :=
  { scope with threadToken := 0, generation := 0, reserved := (0, 0) }

theorem otelContextAttach_full {stack : ContextStack} {data : ContextData}
    {scope : OtelContextScope} (hsize : ¬scope.structSize < scopeSize)
    (hfull : maxContextDepth ≤ stack.entries.length) :
    otelContextAttach stack (.live data) (some scope) =
      ⟨.invalidConfig, some "context attachment depth exceeds 64", some scope.inactive, stack⟩ := by
  rw [otelContextAttach]
  simp only [if_neg hsize, checkedRef_live]
  rw [if_pos hfull]
  rfl

theorem otelContextAttach_room {stack : ContextStack} {data : ContextData}
    {scope : OtelContextScope} (hsize : ¬scope.structSize < scopeSize)
    (hroom : stack.entries.length < maxContextDepth) :
    otelContextAttach stack (.live data) (some scope) =
      ⟨.ok, none, some ⟨scope.structSize, stack.threadToken, stack.nextGeneration, (0, 0)⟩,
        stack.push data⟩ := by
  rw [otelContextAttach]
  simp only [if_neg hsize, checkedRef_live]
  rw [if_neg (by omega)]
  rfl

theorem withStack_live {process : Process} {thread : Nat} {scope : Option OtelContextScope}
    {body : ContextStack → ScopeCall} {stack : ContextStack}
    (hlive : (process.touch thread).slots thread = .live stack) :
    process.withStack thread scope body =
      ((body stack).reply, (process.touch thread).put thread (.live (body stack).stack)) := by
  rw [Process.withStack]
  simp only [hlive]

/-- An attachment with room on the stack is accepted. -/
theorem attachOn_room {process : Process} {thread : Nat} {stack : ContextStack} {data : ContextData}
    {scope : OtelContextScope} (hlive : (process.touch thread).slots thread = .live stack)
    (hsize : ¬scope.structSize < scopeSize) (hroom : stack.entries.length < maxContextDepth) :
    attachOn process thread (.live data) (some scope) =
      (⟨.ok, none, some ⟨scope.structSize, stack.threadToken, stack.nextGeneration, (0, 0)⟩⟩,
        (process.touch thread).put thread (.live (stack.push data))) := by
  rw [attachOn]
  simp only [if_neg hsize, checkedRef_live]
  rw [withStack_live hlive, otelContextAttach_room hsize hroom]
  rfl

/-- An attachment is refused and changes no stack, or it pushes an entry with the next token. -/
theorem attachOn_cases (process : Process) (thread : Nat) (context : HandleArg ContextData)
    (scope : Option OtelContextScope) :
    ((attachOn process thread context scope).1.status ≠ .ok ∧
      ((attachOn process thread context scope).2 = process ∨
        (attachOn process thread context scope).2 = process.touch thread)) ∨
      ∃ stack data scope', context = .live data ∧
        (process.touch thread).slots thread = .live stack ∧
        stack.entries.length < maxContextDepth ∧ OtelContextScope.WellFormed scope' ∧
        scope'.token = stack.nextToken ∧
        attachOn process thread context scope =
          (⟨.ok, none, some scope'⟩, (process.touch thread).put thread (.live (stack.push data))) := by
  unfold attachOn
  cases scope with
  | none => exact .inl ⟨by simp, .inl rfl⟩
  | some scope =>
    dsimp only
    by_cases hsize : scope.structSize < scopeSize
    · rw [if_pos hsize]
      exact .inl ⟨by simp, .inl rfl⟩
    · rw [if_neg hsize]
      cases hcontext : checkedRef context with
      | error e => exact .inl ⟨by simp, .inl rfl⟩
      | ok data =>
        obtain rfl := live_of_checkedRef hcontext
        dsimp only
        rcases withStack_cases process thread (some scope.inactive) (fun stack =>
          otelContextAttach stack (.live data) (some scope)) with ⟨stack, hlive, h⟩ | ⟨-, h⟩
        · by_cases hroom : stack.entries.length < maxContextDepth
          · rw [otelContextAttach_room hsize hroom] at h
            exact .inr ⟨stack, data, ⟨scope.structSize, stack.threadToken, stack.nextGeneration, (0, 0)⟩,
              rfl, hlive, hroom, ⟨Nat.not_lt.mp hsize, rfl⟩, rfl, h⟩
          · rw [otelContextAttach_full hsize (Nat.not_lt.mp hroom)] at h
            have hsame := Process.put_self hlive
            refine .inl ?_
            rw [OtelContextScope.inactive] at h
            rw [h]
            exact ⟨by simp [ScopeCall.reply], .inr hsame⟩
        · refine .inl ?_
          rw [OtelContextScope.inactive] at h
          rw [h]
          exact ⟨by simp, .inr rfl⟩

theorem otelContextScopeDetach_top {stack : ContextStack} {scope : OtelContextScope}
    (hscope : scope.WellFormed) (hthread : scope.threadToken ≠ 0) (hgeneration : scope.generation ≠ 0)
    (htoken : stack.threadToken = scope.threadToken)
    (htop : stack.entries.getLast?.map StackEntry.generation = some scope.generation) :
    otelContextScopeDetach stack (some scope) =
      ⟨.ok, none, some { scope with threadToken := 0, generation := 0 }, stack.pop⟩ := by
  rw [otelContextScopeDetach]
  simp [Nat.not_lt.mpr hscope.1, hscope.2, hthread, hgeneration, htoken, htop, ContextStack.pop]

theorem detachOn_reaches {process : Process} {thread : Nat} {stack : ContextStack}
    {scope : OtelContextScope} (hlive : (process.touch thread).slots thread = .live stack)
    (hscope : scope.WellFormed) (hthread : scope.threadToken ≠ 0) (hgeneration : scope.generation ≠ 0) :
    detachOn process thread (some scope) =
      ((otelContextScopeDetach stack (some scope)).reply,
        (process.touch thread).put thread (.live (otelContextScopeDetach stack (some scope)).stack)) := by
  rw [detachOn]
  simp only [if_neg (Nat.not_lt.mpr hscope.1), hscope.2, hthread, hgeneration, ne_eq,
    not_true_eq_false, false_or, if_false]
  exact withStack_live hlive

/-- A detachment is refused and changes no stack, or it pops the entry that its token names. -/
theorem detachOn_cases (process : Process) (thread : Nat) (scope : Option OtelContextScope) :
    ((detachOn process thread scope).1.status ≠ .ok ∧
      ((detachOn process thread scope).2 = process ∨
        (detachOn process thread scope).2 = process.touch thread)) ∨
      ∃ stack scope', scope = some scope' ∧ (process.touch thread).slots thread = .live stack ∧
        OtelContextScope.WellFormed scope' ∧ stack.threadToken = scope'.threadToken ∧
        stack.entries.getLast?.map StackEntry.generation = some scope'.generation ∧
        (detachOn process thread scope).1.status = .ok ∧
        (detachOn process thread scope).2 = (process.touch thread).put thread (.live stack.pop) := by
  unfold detachOn
  cases scope with
  | none => exact .inl ⟨by simp, .inl rfl⟩
  | some scope =>
    dsimp only
    by_cases hsize : scope.structSize < scopeSize
    · rw [if_pos hsize]
      exact .inl ⟨by simp, .inl rfl⟩
    · rw [if_neg hsize]
      by_cases hinactive : scope.reserved ≠ (0, 0) ∨ scope.threadToken = 0 ∨ scope.generation = 0
      · rw [if_pos hinactive]
        exact .inl ⟨by simp, .inl rfl⟩
      · rw [if_neg hinactive]
        simp only [ne_eq, not_or, not_not] at hinactive
        have hscope : scope.WellFormed := ⟨Nat.not_lt.mp hsize, hinactive.1⟩
        rcases withStack_cases process thread none (fun stack =>
          otelContextScopeDetach stack (some scope)) with ⟨stack, hlive, h⟩ | ⟨-, h⟩
        · by_cases htoken : stack.threadToken = scope.threadToken
          · by_cases htop : stack.entries.getLast?.map StackEntry.generation = some scope.generation
            · rw [otelContextScopeDetach_top hscope hinactive.2.1 hinactive.2.2 htoken htop] at h
              refine .inr ⟨stack, scope, rfl, hlive, hscope, htoken, htop, ?_⟩
              rw [h]
              exact ⟨rfl, rfl⟩
            · have hbody : otelContextScopeDetach stack (some scope) = ⟨.invalidArgument,
                  some "context scopes must be detached once in LIFO order", none, stack⟩ := by
                rw [otelContextScopeDetach]
                simp [hsize, hinactive, htoken, htop]
              rw [hbody] at h
              refine .inl ?_
              rw [h]
              exact ⟨by simp [ScopeCall.reply], .inr (Process.put_self hlive)⟩
          · have hbody : otelContextScopeDetach stack (some scope) = ⟨.invalidArgument,
                some "context scope belongs to another thread", none, stack⟩ := by
              rw [otelContextScopeDetach]
              simp [hsize, hinactive, htoken]
            rw [hbody] at h
            refine .inl ?_
            rw [h]
            exact ⟨by simp [ScopeCall.reply], .inr (Process.put_self hlive)⟩
        · refine .inl ?_
          rw [h]
          exact ⟨by simp, .inr rfl⟩

/-! ### What one step does -/

theorem touch_slots_of_ne {process : Process} {thread other : Nat} (h : other ≠ thread) :
    (process.touch thread).slots other = process.slots other := by
  unfold Process.touch
  split
  · exact Process.put_slots_of_ne h
  · rfl

theorem touch_of_not_fresh {process : Process} {thread : Nat} (h : process.slots thread ≠ .fresh) :
    process.touch thread = process := by
  unfold Process.touch
  split
  · rename_i hfresh
    exact absurd hfresh h
  · rfl

theorem touch_of_fresh {process : Process} {thread : Nat} (h : process.slots thread = .fresh) :
    process.touch thread =
      { process with nextThreadToken := (ContextStack.new process.nextThreadToken).2 }.put thread
        (.live (ContextStack.new process.nextThreadToken).1) := by
  unfold Process.touch
  rw [h]

def World.touch (world : World) (thread : Nat) : World :=
  world.proceed thread (world.process.touch thread)

def World.attached (world : World) (thread : Nat) (stack : ContextStack) (data : ContextData) :
    World :=
  { world with
    process := world.process.put thread (.live (stack.push data))
    issued := world.issued ++ [(thread, stack.nextToken)] }

def World.popped (world : World) (thread : Nat) (stack : ContextStack) (token : Token) : World :=
  { world with
    process := world.process.put thread (.live stack.pop)
    detached := world.detached ++ [(thread, token)] }

theorem proceed_self (world : World) (thread : Nat) :
    world.proceed thread world.process = world := by
  cases h : (world.process.slots thread).isFresh with
  | true => simp [World.proceed, h]
  | false => simp [World.proceed, h]

theorem proceed_put {world : World} {thread : Nat} {stack stack' : ContextStack}
    (h : (world.process.touch thread).slots thread = .live stack) :
    world.proceed thread ((world.process.touch thread).put thread (.live stack')) =
      { world.touch thread with
        process := (world.process.touch thread).put thread (.live stack') } := by
  simp [World.touch, World.proceed, Process.put_slots_self, h, Slot.isFresh]

/-- **What one call can do**: nothing, create a stack, push, pop, or end a thread. -/
theorem step_cases (world : World) (call : Call) :
    step world call = world ∨ (∃ thread, step world call = world.touch thread) ∨
      (∃ thread stack data, (world.touch thread).process.slots thread = .live stack ∧
        stack.entries.length < maxContextDepth ∧
        step world call = (world.touch thread).attached thread stack data) ∨
      (∃ thread stack token, (world.touch thread).process.slots thread = .live stack ∧
        stack.threadToken = token.threadToken ∧
        stack.entries.getLast?.map StackEntry.generation = some token.generation ∧
        step world call = (world.touch thread).popped thread stack token) ∨
      ∃ thread stack, world.process.slots thread = .live stack ∧
        step world call = { world with process := world.process.put thread .destroyed } := by
  cases call with
  | attach thread context scope =>
    rcases attachOn_cases world.process thread context scope with ⟨hstatus, hprocess⟩ |
      ⟨stack, data, scope', -, hlive, hroom, -, htoken, h⟩
    · have hstep : step world (.attach thread context scope) =
          world.proceed thread (attachOn world.process thread context scope).2 := by
        rw [step]
        cases hreply : attachOn world.process thread context scope with
        | mk reply process =>
          rw [hreply] at hstatus
          dsimp only
          split
          · exact absurd (by assumption) hstatus
          · rfl
      rw [hstep]
      rcases hprocess with hprocess | hprocess
      · rw [hprocess]
        exact .inl (proceed_self world thread)
      · rw [hprocess]
        exact .inr (.inl ⟨thread, rfl⟩)
    · refine .inr (.inr (.inl ⟨thread, stack, data, hlive, hroom, ?_⟩))
      rw [step, h]
      dsimp only
      rw [proceed_put hlive, htoken]
      rfl
  | detach thread scope =>
    rcases detachOn_cases world.process thread scope with ⟨hstatus, hprocess⟩ |
      ⟨stack, scope', rfl, hlive, -, hthread, htop, hok, hprocess⟩
    · have hstep : step world (.detach thread scope) =
          world.proceed thread (detachOn world.process thread scope).2 := by
        rw [step]
        cases hreply : detachOn world.process thread scope with
        | mk reply process =>
          rw [hreply] at hstatus
          dsimp only
          split
          · exact absurd (by assumption) hstatus
          · rfl
      rw [hstep]
      rcases hprocess with hprocess | hprocess
      · rw [hprocess]
        exact .inl (proceed_self world thread)
      · rw [hprocess]
        exact .inr (.inl ⟨thread, rfl⟩)
    · refine .inr (.inr (.inr (.inl ⟨thread, stack, scope'.token, hlive, hthread, htop, ?_⟩)))
      rw [step]
      cases hreply : detachOn world.process thread (some scope') with
      | mk reply process =>
        rw [hreply] at hok hprocess
        dsimp only at hok hprocess
        dsimp only
        rw [hok, hprocess, proceed_put hlive]
        rfl
  | current thread =>
    have hcurrent : (currentOn world.process thread).2 = world.process.touch thread := by
      rw [currentOn]
      split
      · rfl
      · rfl
    exact .inr (.inl ⟨thread, by rw [step, hcurrent]; rfl⟩)
  | exit thread =>
    rw [step]
    split
    · rename_i stack hlive
      exact .inr (.inr (.inr (.inr ⟨thread, stack, hlive, rfl⟩)))
    · exact .inl rfl

end OtelC.Context
