import OtelC.Context.Discipline

/-!
# The context of a scope

As long as a scope can be detached, the current context of its thread is the one that was attached
for it: `current_of_open`.  What is attached and detached in between, there and on other threads,
does not matter.
-/

namespace OtelC.Context

/-! ### The number of attachments -/

def Call.attaches : Call → Bool
  | .attach _ _ _ => true
  | _ => false

theorem issued_length_attaches (world : World) (call : Call) :
    (step world call).issued.length ≤ world.issued.length + if call.attaches then 1 else 0 := by
  cases call with
  | attach thread context scope =>
    rw [step]
    dsimp only
    split
    · show (world.issued ++ [_]).length ≤ world.issued.length + 1
      rw [List.length_append]
      exact Nat.le_refl _
    · exact Nat.le_succ _
  | detach thread scope =>
    rw [step]
    dsimp only
    split <;> exact Nat.le_refl _
  | current thread => exact Nat.le_refl _
  | exit thread =>
    rw [step]
    split <;> exact Nat.le_refl _

theorem issued_length_run (world : World) (calls : List Call) :
    (Run.run step world calls).issued.length ≤
      world.issued.length + calls.countP Call.attaches := by
  induction calls generalizing world with
  | nil => exact Nat.le_refl _
  | cons call calls ih =>
    have hstep := issued_length_attaches world call
    have hrest := ih (step world call)
    rw [Run.run_cons, List.countP_cons]
    omega

theorem process_attach (world : World) (thread : Nat) (context : HandleArg ContextData)
    (scope : Option OtelContextScope) : (step world (.attach thread context scope)).process =
      (attachOn world.process thread context scope).2 := by
  rw [step]
  dsimp only
  split <;> rfl

theorem process_detach (world : World) (thread : Nat) (scope : Option OtelContextScope) :
    (step world (.detach thread scope)).process = (detachOn world.process thread scope).2 := by
  rw [step]
  dsimp only
  split <;> rfl

/-! ### What a token stands for -/

/-- A token of this thread, and wherever it is attached the context is this one. -/
structure StandsFor (world : World) (thread : Nat) (token : Token) (context : ContextData) :
    Prop where
  issued : (thread, token) ∈ world.issued
  context : ∀ data, (token, data) ∈ world.process.attachments thread → data = context

section StandsFor

variable {world : World} {thread : Nat} {token : Token} {context : ContextData}

/-- What is attached was handed out. -/
theorem Invariant.issued_of_attached (h : Invariant world) {data : ContextData}
    (hmem : (token, data) ∈ world.process.attachments thread) : (thread, token) ∈ world.issued := by
  cases hslot : world.process.slots thread with
  | live stack =>
    rw [attachments_live hslot] at hmem
    obtain ⟨entry, hentry, heq⟩ := List.mem_map.mp hmem
    obtain ⟨rfl, -⟩ := Prod.mk.inj heq
    exact (h.entries_issued thread stack hslot entry hentry).1
  | fresh =>
    rw [Process.attachments, hslot] at hmem
    cases hmem
  | destroyed =>
    rw [Process.attachments, hslot] at hmem
    cases hmem

theorem attachments_attached {stack : ContextStack}
    (hlive : world.process.slots thread = .live stack) (data : ContextData) :
    (world.attached thread stack data).process.attachments thread =
      world.process.attachments thread ++ [(stack.nextToken, data)] := by
  rw [attachments_live hlive]
  exact (attachments_put_self _ _ _).trans List.map_append

/-- The token of an attachment stands for its context. -/
theorem Invariant.standsFor_attached (h : Invariant world) {stack : ContextStack}
    (hlive : world.process.slots thread = .live stack)
    (hbound : world.issued.length + 1 < tokenRange) (data : ContextData) :
    StandsFor (world.attached thread stack data) thread stack.nextToken data where
  issued := List.mem_append_right _ (List.mem_singleton_self _)
  context data' hmem := by
    rw [attachments_attached hlive] at hmem
    rcases List.mem_append.mp hmem with hmem | hmem
    · exact absurd rfl (h.nextToken_fresh hlive hbound (h.issued_of_attached hmem))
    · exact (Prod.mk.inj (List.mem_singleton.mp hmem)).2

theorem StandsFor.touch (hs : StandsFor world thread token context) (other : Nat) :
    StandsFor (world.touch other) thread token context where
  issued := hs.issued
  context data hmem := by
    refine hs.context data ?_
    rwa [← attachments_touch world.process other thread]

theorem StandsFor.attached (hs : StandsFor world thread token context) (h : Invariant world)
    {other : Nat} {stack : ContextStack} (hlive : world.process.slots other = .live stack)
    (hbound : world.issued.length + 1 < tokenRange) (data : ContextData) :
    StandsFor (world.attached other stack data) thread token context where
  issued := List.mem_append_left _ hs.issued
  context data' hmem := by
    by_cases hother : thread = other
    · subst hother
      rw [attachments_attached hlive] at hmem
      rcases List.mem_append.mp hmem with hmem | hmem
      · exact hs.context data' hmem
      · obtain ⟨rfl, -⟩ := Prod.mk.inj (List.mem_singleton.mp hmem)
        exact absurd rfl (h.nextToken_fresh hlive hbound hs.issued)
    · refine hs.context data' ?_
      rwa [World.attached, attachments_put_of_ne hother] at hmem

theorem StandsFor.popped (hs : StandsFor world thread token context) {other : Nat}
    {stack : ContextStack} (hlive : world.process.slots other = .live stack) (token' : Token) :
    StandsFor (world.popped other stack token') thread token context where
  issued := hs.issued
  context data hmem := by
    refine hs.context data ?_
    by_cases hother : thread = other
    · subst hother
      rw [attachments_live hlive]
      rw [World.popped, attachments_put_self, ContextStack.pop, List.map_dropLast] at hmem
      exact List.mem_of_mem_dropLast hmem
    · rwa [World.popped, attachments_put_of_ne hother] at hmem

/-- **One call keeps what a token stands for**, while there are fewer than `2 ^ 64` attachments. -/
theorem StandsFor.step (hs : StandsFor world thread token context) (h : Invariant world)
    (call : Call) (hbound : (Context.step world call).issued.length < tokenRange) :
    StandsFor (Context.step world call) thread token context := by
  rcases step_cases world call with hstep | ⟨other, hstep⟩ |
    ⟨other, stack, data, hlive, -, hstep⟩ | ⟨other, stack, token', hlive, -, -, hstep⟩ |
    ⟨other, stack, -, hstep⟩
  · rw [hstep]
    exact hs
  · rw [hstep]
    exact hs.touch other
  · rw [hstep] at hbound ⊢
    have hlength : (world.touch other).issued.length + 1 < tokenRange := by
      simpa [World.attached] using hbound
    exact (hs.touch other).attached (h.touch other) hlive hlength data
  · rw [hstep]
    exact (hs.touch other).popped hlive token'
  · rw [hstep]
    refine ⟨hs.issued, fun data hmem => ?_⟩
    by_cases hother : thread = other
    · subst hother
      rw [Process.attachments, Process.put_slots_self] at hmem
      cases hmem
    · rw [attachments_put_of_ne hother] at hmem
      exact hs.context data hmem

theorem StandsFor.run (hs : StandsFor world thread token context) (h : Invariant world)
    (calls : List Call) (hbound : world.issued.length + calls.countP Call.attaches < tokenRange) :
    StandsFor (Run.run Context.step world calls) thread token context := by
  induction calls generalizing world with
  | nil => exact hs
  | cons call calls ih =>
    have hlength := issued_length_attaches world call
    rw [List.countP_cons] at hbound
    have hstep : (Context.step world call).issued.length < tokenRange := by omega
    exact ih (hs.step h call hstep) (h.step call hstep) (by omega)

/-- While its scope can be detached, a token is on top of the stack. -/
theorem StandsFor.current (hs : StandsFor world thread token context)
    {scope : OtelContextScope} (hscope : scope.token = token)
    (hopen : (detachOn world.process thread (some scope)).1.status = .ok) :
    (currentOn world.process thread).1 = some context := by
  obtain ⟨-, htop⟩ := top_of_detachOn hopen
  obtain ⟨⟨token', data⟩, hlast, heq⟩ := Option.map_eq_some_iff.mp htop
  have hdata := hs.context data (by
    rw [← hscope, ← show token' = scope.token from heq]
    exact List.mem_of_getLast? hlast)
  rw [currentOn_eq, hlast, ← hdata]
  rfl

end StandsFor

/-- The token of a scope that was attached stands for the context. -/
theorem Invariant.standsFor_attach {world : World} (h : Invariant world) {thread : Nat}
    {context : ContextData} {scope : Option OtelContextScope} {scope' : OtelContextScope}
    (hattach : (attachOn world.process thread (.live context) scope).1 = ⟨.ok, none, some scope'⟩)
    (hbound : world.issued.length + 1 < tokenRange) :
    StandsFor (Context.step world (.attach thread (.live context) scope)) thread scope'.token
      context := by
  rcases attachOn_cases world.process thread (.live context) scope with ⟨hstatus, -⟩ |
    ⟨stack, data, scope'', hdata, hlive, -, -, htoken, hcall⟩
  · rw [hattach] at hstatus
    exact absurd rfl hstatus
  · obtain rfl := HandleArg.live.inj hdata
    rw [hcall] at hattach
    obtain rfl := Option.some.inj (congrArg Reply.scope hattach)
    have hstep : Context.step world (.attach thread (.live context) scope) =
        (world.touch thread).attached thread stack context := by
      rw [Context.step, hcall]
      dsimp only
      rw [proceed_put hlive, htoken]
      rfl
    rw [hstep, htoken]
    exact (h.touch thread).standsFor_attached hlive hbound context

/-- **The context of a scope is current until the scope is detached**, but for contexts that are
attached and not yet detached since: whenever the scope can be detached, its context is current. -/
theorem current_of_open {before inside : List Call} {thread : Nat} {context : ContextData}
    {scope : Option OtelContextScope} {scope' : OtelContextScope}
    (hbound : (before ++ .attach thread (.live context) scope :: inside).countP Call.attaches <
      tokenRange)
    (hattach : (attachOn (run before).process thread (.live context) scope).1 =
      ⟨.ok, none, some scope'⟩)
    (hopen : (detachOn (run (before ++ .attach thread (.live context) scope :: inside)).process
      thread (some scope')).1.status = .ok) :
    (currentOn (run (before ++ .attach thread (.live context) scope :: inside)).process thread).1 =
      some context := by
  have hbefore : (run before).issued.length ≤ 0 + before.countP Call.attaches :=
    issued_length_run World.initial before
  rw [List.countP_append, List.countP_cons_of_pos rfl] at hbound
  rw [run, Run.run_append, Run.run_cons] at hopen ⊢
  have hinvariant : Invariant (run before) := invariant_run (by omega)
  have hattached := hinvariant.standsFor_attach hattach (by omega)
  have hlength : (Context.step (run before) (.attach thread (.live context) scope)).issued.length ≤
      (run before).issued.length + 1 := issued_length_attaches _ _
  have hinvariant' := hinvariant.step (.attach thread (.live context) scope) (by omega)
  exact (hattached.run hinvariant' inside (by omega)).current rfl hopen

end OtelC.Context
