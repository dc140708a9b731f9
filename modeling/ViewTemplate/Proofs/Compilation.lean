import ViewTemplate.Proofs.LoopStack

/-!
Compiled programs. Running the instructions of statements from the first one on is executing the
statements, and no jump or loop goes astray on the way (`runsAsExecuted_instructionsOf`).
-/

namespace ViewTemplate

open Fragment

variable {σ α : Type}

/-- A rendering ends with an outcome if it is allowed enough steps. -/
def Render.Ends (rendering : (fuel : Nat) → Render σ α) (state : RenderState σ)
    (outcome : Outcome σ α) : Prop :=
  Outcome.Settled outcome ∧ ∃ fuel, rendering fuel state = outcome

namespace RenderContext

variable (context : RenderContext σ (Render σ))

/-- The instructions of statements do what the statements say. -/
structure RunsAsExecuted (statements : List Statement) (scope : Entries Value)
    (state : RenderState σ) : Prop where
  /-- A run ends if and only if the execution does, in the same way; if it ends without an error,
  that is behind the last instruction and without loops. -/
  ends_iff (outcome : Outcome σ RenderFrame) :
    Render.Ends
        (fun fuel => context.run (instructionsOf statements) fuel (RenderFrame.initial scope))
        state outcome ↔
      Render.Ends
        (fun rounds => do
          let page ← context.executeAll rounds statements (Page.initial scope)
          return ⟨(instructionsOf statements).size, [], page⟩)
        state outcome
  /-- The targets of all jumps have been filled in. -/
  target_le (instruction : Instruction) :
    instruction ∈ instructionsOf statements →
      ∀ target ∈ instruction.target?,
        target ≤ (instructionsOf statements).size ∧
          ((instructionsOf statements).size < unknownTarget → target ≠ unknownTarget)
  /-- Where a loop over elements goes on, it is the innermost one that runs. -/
  innermost {running : List Nat} {frame : RenderFrame} {reached : RenderState σ} {target : Nat} :
    context.Visits (instructionsOf statements) scope state running frame reached →
      (instructionsOf statements)[frame.position]? = some (.nextElement target) →
        ∃ start others loop outer iterable,
          frame.position = start + 1 ∧ running = start :: others ∧ frame.loops = loop :: outer ∧
            (instructionsOf statements)[start]? = some (.startLoop loop.binding iterable)

theorem run_behind {instructions : Array Instruction} {fuel : Nat} {loops : List LoopState}
    {page : Page} {state : RenderState σ}
    (settled : Outcome.Settled
      (context.run instructions fuel ⟨instructions.size, loops, page⟩ state)) :
    context.run instructions fuel ⟨instructions.size, loops, page⟩ =
      pure ⟨instructions.size, loops, page⟩ := by
  obtain ⟨less, rfl⟩ := exists_less_of_settled settled
  simp [run]

/-- A run from the first instruction on ends if and only if the execution of the statements does. -/
theorem ends_run_iff (statements : List Statement) (page : Page) (state : RenderState σ)
    (outcome : Outcome σ RenderFrame) :
    Render.Ends (fun fuel => context.run (instructionsOf statements) fuel ⟨0, [], page⟩)
        state outcome ↔
      Render.Ends
        (fun rounds => do
          let after ← context.executeAll rounds statements page
          return ⟨(instructionsOf statements).size, [], after⟩)
        state outcome := by
  have simulates : context.Simulates (instructionsOf statements) ⟨0, [], page⟩
      (fun rounds => context.executeAll rounds statements page)
      fun after => ⟨(instructionsOf statements).size, [], after⟩ :=
    simulates_executeAll statements (standsAt_instructionsOf statements)
      (by rw [size_instructionsOf, Nat.zero_add]) page
  constructor
  · rintro ⟨settled, fuel, rfl⟩
    obtain ⟨rest, _, same⟩ := simulates.refines (Nat.le_refl fuel) state settled
    refine ⟨settled, fuel, ?_⟩
    change _ = context.run _ _ ⟨0, [], page⟩ state
    change Outcome.Settled (context.run _ _ ⟨0, [], page⟩ state) at settled
    rw [same] at settled ⊢
    cases ended : context.executeAll fuel statements page state with
    | error interrupt reached =>
        rw [Render.bind_of_error ended]
        exact Render.bind_of_error ended _
    | ok page reached =>
        rw [Render.bind_of_ok ended] at settled ⊢
        rw [run_behind context settled]
        exact Render.bind_of_ok ended _
  · rintro ⟨settled, rounds, rfl⟩
    obtain ⟨steps, same⟩ := simulates.reproduces rounds state (Render.settled_of_bind settled)
    refine ⟨settled, 1 + steps, ?_⟩
    change context.run _ _ ⟨0, [], page⟩ state = _
    rw [same 1]
    refine congrFun (congrArg _ (funext fun page => ?_)) state
    simp [run]

theorem exists_loop_of_visits {statements : List Statement} {scope : Entries Value}
    {state reached : RenderState σ} {running : List Nat} {frame : RenderFrame} {target : Nat}
    (visits : context.Visits (instructionsOf statements) scope state running frame reached)
    (here : (instructionsOf statements)[frame.position]? = some (.nextElement target)) :
    ∃ start others loop outer iterable,
      frame.position = start + 1 ∧ running = start :: others ∧ frame.loops = loop :: outer ∧
        (instructionsOf statements)[start]? = some (.startLoop loop.binding iterable) := by
  have standing := visits_standing visits
  obtain ⟨start, others, position, same, _⟩ := agrees_markedTable here
  rw [← standing.marked] at same
  have loops := standing.loops
  rw [same] at loops
  obtain ⟨loop, outer, ⟨iterable, first⟩, _, sameLoops⟩ := List.forall₂_cons_left_iff.1 loops
  exact ⟨start, others, loop, outer, iterable, position, same, sameLoops, first⟩

/-- Compilation keeps the meaning of statements: whatever they are nested in, with whatever effects
and errors their expressions have. -/
theorem runsAsExecuted_instructionsOf (statements : List Statement) (scope : Entries Value)
    (state : RenderState σ) : context.RunsAsExecuted statements scope state where
  ends_iff := context.ends_run_iff statements (Page.initial scope) state
  target_le instruction member target found := by
    have le := targetsWithin_instructionsOf statements instruction (by simpa using member) target
      found
    exact ⟨le, fun small => by omega⟩
  innermost := context.exists_loop_of_visits

end RenderContext

end ViewTemplate
