import Mathlib.Data.List.Forall2
import ViewTemplate.Proofs.Execution

/-!
The loops that are running while a program runs. All loops over elements share one stack; where
each stands in the program decides which ones are on it at a position (`visits_standing`).
-/

namespace ViewTemplate

open Fragment

/-! ## Loops at positions -/

namespace Fragment

mutual

/-- The instructions of a statement, each with the loops that run when it is reached. A loop goes by
the position of the instruction that starts it; the innermost comes first. -/
def marked (running : List Nat) (base : Nat) : Statement → List (Instruction × List Nat)
  | .action action => [(.perform action, running)]
  | .branch condition thenBranch elseBranch =>
      let stop := base + 1 + (layoutAll (base + 1) thenBranch).length
      (.jumpUnless condition (elseStart stop elseBranch), running) ::
        markedAll running (base + 1) thenBranch ++ markedElse running stop elseBranch
  | .each binding iterable body =>
      let bottom := base + 2 + (layoutAll (base + 2) body).length
      (.startLoop binding iterable, running) ::
        (.nextElement (bottom + 1), base :: running) ::
          markedAll (base :: running) (base + 2) body ++ [(.jump (base + 1), base :: running)]
  | .count start condition step body =>
      let top := base + (assignmentCode start).length
      let inside := top + (conditionCode 0 condition).length
      let stop :=
        inside + (layoutAll inside body).length + (assignmentCode step).length + 1
      (assignmentCode start).map (·, running) ++ (conditionCode stop condition).map (·, running) ++
        markedAll running inside body ++ (assignmentCode step).map (·, running) ++
          [(.jump top, running)]
  | .repeat condition body =>
      let bottom := base + 1 + (layoutAll (base + 1) body).length
      (.jumpUnless condition (bottom + 1), running) :: markedAll running (base + 1) body ++
        [(.jump base, running)]

def markedAll (running : List Nat) (base : Nat) : List Statement → List (Instruction × List Nat)
  | [] => []
  | statement :: statements =>
      marked running base statement ++
        markedAll running (base + (layout base statement).length) statements

def markedElse (running : List Nat) (base : Nat) :
    Option (List Statement) → List (Instruction × List Nat)
  | none => []
  | some elseBranch =>
      (.jump (base + 1 + (layoutAll (base + 1) elseBranch).length), running) ::
        markedAll running (base + 1) elseBranch

end

mutual

theorem map_fst_marked (running : List Nat) (base : Nat) :
    ∀ statement : Statement, (marked running base statement).map Prod.fst = layout base statement
  | .action action => rfl
  | .branch condition thenBranch elseBranch => by
      simp [marked, layout, map_fst_markedAll, map_fst_markedElse]
  | .each binding iterable body => by
      simp [marked, layout, map_fst_markedAll]
  | .count start condition step body => by
      simp [marked, layout, map_fst_markedAll, Function.comp_def]
  | .repeat condition body => by
      simp [marked, layout, map_fst_markedAll]

theorem map_fst_markedAll (running : List Nat) (base : Nat) :
    ∀ statements : List Statement,
      (markedAll running base statements).map Prod.fst = layoutAll base statements
  | [] => rfl
  | statement :: statements => by
      simp [markedAll, layoutAll, map_fst_marked, map_fst_markedAll]

theorem map_fst_markedElse (running : List Nat) (base : Nat) :
    ∀ elseBranch : Option (List Statement),
      (markedElse running base elseBranch).map Prod.fst = layoutElse base elseBranch
  | none => rfl
  | some elseBranch => by
      simp [markedElse, layoutElse, map_fst_markedAll]

end

theorem length_marked (running : List Nat) (base : Nat) (statement : Statement) :
    (marked running base statement).length = (layout base statement).length := by
  rw [← map_fst_marked running, List.length_map]

theorem length_markedAll (running : List Nat) (base : Nat) (statements : List Statement) :
    (markedAll running base statements).length = (layoutAll base statements).length := by
  rw [← map_fst_markedAll running, List.length_map]

/-! ### Flow -/

variable {table : Nat → Option (Instruction × List Nat)} {running : List Nat}
  {base middle stop : Nat}

/-- The loops that run at a position; behind all instructions there are none. -/
def runningAt (table : Nat → Option (Instruction × List Nat)) (position : Nat) : List Nat :=
  ((table position).map Prod.snd).getD []

theorem runningAt_of_eq_some {position : Nat} {instruction : Instruction}
    (here : table position = some (instruction, running)) : runningAt table position = running := by
  rw [runningAt, here]
  rfl

/-- The loops that run at a position are right for every way to go on from the instruction there. -/
def Agrees (table : Nat → Option (Instruction × List Nat)) (position : Nat) (running : List Nat) :
    Instruction → Prop
  | .perform _ => runningAt table (position + 1) = running
  | .jump target => runningAt table target = running
  | .jumpUnless _ target =>
      runningAt table (position + 1) = running ∧ runningAt table target = running
  | .startLoop _ _ => runningAt table (position + 1) = position :: running
  | .nextElement target =>
      ∃ start outer, position = start + 1 ∧ running = start :: outer ∧
        (∃ binding iterable, (table start).map Prod.fst = some (.startLoop binding iterable)) ∧
          runningAt table (position + 1) = running ∧ runningAt table target = outer

/-- The instructions between two positions agree with the loops that run, which begin as given. -/
structure Covers (table : Nat → Option (Instruction × List Nat)) (base stop : Nat)
    (running : List Nat) : Prop where
  begins : runningAt table base = running
  agrees (position : Nat) (instruction : Instruction) (running : List Nat) :
    base ≤ position → position < stop → table position = some (instruction, running) →
      Agrees table position running instruction

namespace Covers

theorem none (behind : runningAt table base = running) : Covers table base base running :=
  ⟨behind, fun _ _ _ => by omega⟩

theorem one {instruction : Instruction} (here : table base = some (instruction, running))
    (agrees : Agrees table base running instruction) : Covers table base (base + 1) running := by
  refine ⟨runningAt_of_eq_some here, fun position other _ first last found => ?_⟩
  obtain rfl : position = base := by omega
  cases here.symm.trans found
  exact agrees

theorem append {later : List Nat} (first : Covers table base middle running)
    (second : Covers table middle stop later) : Covers table base stop running :=
  ⟨first.begins, fun position instruction running from_base to_stop found =>
    if before : position < middle then
      first.agrees position instruction running from_base before found
    else second.agrees position instruction running (by omega) to_stop found⟩

theorem straight {code : List Instruction}
    (straight : ∀ instruction ∈ code, ∃ action, instruction = .perform action)
    (stands : StandsAt table base (code.map (·, running)))
    (ends : stop = base + code.length) (behind : runningAt table stop = running) :
    Covers table base stop running := by
  induction code generalizing base with
  | nil =>
      subst ends
      exact none behind
  | cons instruction code inductionHypothesis =>
      obtain ⟨here, others⟩ := stands
      have rest := inductionHypothesis (fun other member => straight other (.tail _ member)) others
        (by rw [ends, List.length_cons]; omega)
      obtain ⟨action, rfl⟩ := straight instruction (.head _)
      exact (one here rest.begins).append rest

end Covers

theorem perform_of_mem_assignmentCode {assignment : Option Assignment} :
    ∀ instruction ∈ assignmentCode assignment, ∃ action, instruction = .perform action := by
  cases assignment with
  | none => simp [assignmentCode]
  | some assignment => simp [assignmentCode]

mutual

theorem covers_marked :
    ∀ (statement : Statement) {running : List Nat} {base stop : Nat},
      StandsAt table base (marked running base statement) →
        stop = base + (layout base statement).length → runningAt table stop = running →
          Covers table base stop running
  | .action action, running, base, stop, stands, ends, behind => by
      subst ends
      exact .one stands.1 behind
  | .branch condition thenBranch elseBranch, running, base, stop, stands, ends, behind => by
      obtain ⟨⟨test, inside⟩, other⟩ := StandsAt.append.1 stands
      simp only [layout, List.length_append, List.length_cons] at ends
      rw [List.length_cons, length_markedAll, Nat.add_comm _ 1,
        ← Nat.add_assoc] at other
      obtain ⟨turned, turnedBegins⟩ := covers_markedElse elseBranch other (by omega) behind
      have chosen := covers_markedAll thenBranch inside rfl turned.begins
      exact ((Covers.one test ⟨chosen.begins, turnedBegins⟩).append chosen).append turned
  | .each binding iterable body, running, base, stop, stands, ends, behind => by
      obtain ⟨⟨start, next, inside⟩, jump, _⟩ := StandsAt.append.1 stands
      simp only [layout, List.length_append, List.length_cons, List.length_nil] at ends
      change StandsAt table (base + 2) _ at inside
      rw [List.length_cons, List.length_cons, length_markedAll] at jump
      rw [show base + 2 + (layoutAll (base + 2) body).length + 1 = stop by omega] at next
      have bottom := Covers.one jump (runningAt_of_eq_some next)
      have round := covers_markedAll body inside (by omega) bottom.begins
      have binds := Covers.one next
        ⟨base, running, rfl, rfl, ⟨binding, iterable, by rw [start]; rfl⟩, round.begins, behind⟩
      have whole := (((Covers.one start binds.begins).append binds).append round).append bottom
      rwa [show base + ((layoutAll (base + 2) body).length + 1 + 1) + 1 = stop by omega] at whole
  | .count start condition step body, running, base, stop, stands, ends, behind => by
      simp only [marked, layout, StandsAt.append, List.length_append, List.length_map,
        ← Nat.add_assoc, length_conditionCode _ condition] at stands ends
      obtain ⟨⟨⟨⟨started, test⟩, inside⟩, after⟩, jump, _⟩ := stands
      rw [length_markedAll] at after jump
      rw [List.length_cons, List.length_nil, Nat.zero_add] at ends
      rw [← ends] at test
      have bottom := runningAt_of_eq_some jump
      have stepped := Covers.straight perform_of_mem_assignmentCode after rfl bottom
      have round := covers_markedAll body inside rfl stepped.begins
      have tested : Covers table (base + (assignmentCode start).length)
          (base + (assignmentCode start).length + (conditionCode 0 condition).length) running := by
        cases condition with
        | none => exact .none round.begins
        | some condition => exact .one test.1 ⟨round.begins, behind⟩
      have initial := Covers.straight perform_of_mem_assignmentCode started rfl tested.begins
      have returns := Covers.one jump tested.begins
      rw [ends]
      exact (((initial.append tested).append round).append stepped).append returns
  | .repeat condition body, running, base, stop, stands, ends, behind => by
      obtain ⟨⟨test, inside⟩, jump, _⟩ := StandsAt.append.1 stands
      simp only [layout, List.length_append, List.length_cons, List.length_nil] at ends
      rw [List.length_cons, length_markedAll] at jump
      rw [show base + 1 + (layoutAll (base + 1) body).length + 1 = stop by omega] at test
      have bottom := Covers.one jump (runningAt_of_eq_some test)
      have round := covers_markedAll body inside (by omega) bottom.begins
      have whole := ((Covers.one test ⟨round.begins, behind⟩).append round).append bottom
      rwa [show base + ((layoutAll (base + 1) body).length + 1) + 1 = stop by omega] at whole

theorem covers_markedAll :
    ∀ (statements : List Statement) {running : List Nat} {base stop : Nat},
      StandsAt table base (markedAll running base statements) →
        stop = base + (layoutAll base statements).length → runningAt table stop = running →
          Covers table base stop running
  | [], running, base, stop, _, ends, behind => by
      subst ends
      exact .none behind
  | statement :: statements, running, base, stop, stands, ends, behind => by
      obtain ⟨first, others⟩ := StandsAt.append.1 stands
      rw [length_marked] at others
      rw [layoutAll, List.length_append, ← Nat.add_assoc] at ends
      have rest := covers_markedAll statements others ends behind
      exact (covers_marked statement first rfl rest.begins).append rest

theorem covers_markedElse :
    ∀ (elseBranch : Option (List Statement)) {running : List Nat} {base stop : Nat},
      StandsAt table base (markedElse running base elseBranch) →
        stop = base + (layoutElse base elseBranch).length → runningAt table stop = running →
          Covers table base stop running ∧ runningAt table (elseStart base elseBranch) = running
  | none, running, base, stop, _, ends, behind => by
      subst ends
      exact ⟨.none behind, behind⟩
  | some elseBranch, running, base, stop, stands, ends, behind => by
      rw [layoutElse, List.length_cons] at ends
      obtain ⟨jump, inside⟩ := stands
      rw [show base + 1 + (layoutAll (base + 1) elseBranch).length = stop by omega] at jump
      have rest := covers_markedAll elseBranch inside (by omega) behind
      exact ⟨(Covers.one jump behind).append rest, rest.begins⟩

end

/-! ### Whole programs -/

/-- The instructions of statements with the loops that run, by their positions. -/
def markedTable (statements : List Statement) (position : Nat) : Option (Instruction × List Nat) :=
  (markedAll [] 0 statements)[position]?

theorem map_fst_markedTable (statements : List Statement) (position : Nat) :
    (markedTable statements position).map Prod.fst = (instructionsOf statements)[position]? := by
  rw [markedTable, ← List.getElem?_map, map_fst_markedAll, ← toList_instructionsOf,
    Array.getElem?_toList]

theorem covers_markedTable (statements : List Statement) :
    Covers (markedTable statements) 0 (instructionsOf statements).size [] := by
  have stands : StandsAt (markedTable statements) 0 (markedAll [] 0 statements) :=
    StandsAt.of_append [] _
  refine covers_markedAll statements stands (by rw [size_instructionsOf, Nat.zero_add]) ?_
  have behind := map_fst_markedTable statements (instructionsOf statements).size
  rw [Array.getElem?_eq_none (Nat.le_refl _), Option.map_eq_none_iff] at behind
  rw [runningAt, behind]
  rfl

theorem agrees_markedTable {statements : List Statement} {position : Nat}
    {instruction : Instruction} (here : (instructionsOf statements)[position]? = some instruction) :
    Agrees (markedTable statements) position (runningAt (markedTable statements) position)
      instruction := by
  have inside : position < (instructionsOf statements).size :=
    (Array.getElem?_eq_some_iff.1 here).1
  rw [← map_fst_markedTable] at here
  obtain ⟨⟨_, running⟩, found, rfl⟩ := Option.map_eq_some_iff.1 here
  rw [runningAt_of_eq_some found]
  exact (covers_markedTable statements).agrees position _ running (Nat.zero_le position) inside
    found

end Fragment

/-! ## Runs -/

/-- The loops that run after an instruction is carried out. -/
def RenderFrame.runningAfter (frame : RenderFrame) (running : List Nat) : Instruction → List Nat
  | .startLoop _ _ => frame.position :: running
  | .nextElement _ =>
      match frame.loops with
      | ⟨_, []⟩ :: _ => running.tail
      | _ => running
  | .perform _ | .jump _ | .jumpUnless _ _ => running

namespace RenderContext

variable {σ : Type} (context : RenderContext σ (Render σ))

/-- The frames and states that a run of instructions comes to, with the loops that run there. A
loop goes by the position of the instruction that started it. -/
inductive Visits (instructions : Array Instruction) (scope : Entries Value)
    (state : RenderState σ) : List Nat → RenderFrame → RenderState σ → Prop
  | initial : Visits instructions scope state [] (RenderFrame.initial scope) state
  | step {running : List Nat} {frame next : RenderFrame} {before after : RenderState σ}
      {instruction : Instruction} :
      Visits instructions scope state running frame before →
        instructions[frame.position]? = some instruction →
          context.step frame instruction before = .ok next after →
            Visits instructions scope state (frame.runningAfter running instruction) next after

/-- The loops of a frame are those that run at its position. -/
structure Standing (statements : List Statement) (running : List Nat) (frame : RenderFrame) :
    Prop where
  marked : running = runningAt (markedTable statements) frame.position
  loops : List.Forall₂
    (fun start loop => ∃ iterable,
      (instructionsOf statements)[start]? = some (.startLoop loop.binding iterable))
    running frame.loops

variable {context} {statements : List Statement} {running : List Nat}

theorem standing_initial (scope : Entries Value) :
    Standing statements [] (RenderFrame.initial scope) :=
  ⟨(covers_markedTable statements).begins.symm, .nil⟩

theorem standing_step {frame next : RenderFrame} {before after : RenderState σ}
    {instruction : Instruction} (standing : Standing statements running frame)
    (here : (instructionsOf statements)[frame.position]? = some instruction)
    (stepped : context.step frame instruction before = .ok next after) :
    Standing statements (frame.runningAfter running instruction) next := by
  have agrees := agrees_markedTable here
  rw [← standing.marked] at agrees
  cases instruction with
  | perform action =>
      obtain ⟨page, reached, _, returned⟩ := Render.exists_ok_of_bind stepped
      cases returned
      exact ⟨agrees.symm, standing.loops⟩
  | jump target =>
      cases stepped
      exact ⟨agrees.symm, standing.loops⟩
  | jumpUnless condition target =>
      obtain ⟨value, reached, _, returned⟩ := Render.exists_ok_of_bind stepped
      cases returned
      cases value.isTruthy with
      | true => exact ⟨agrees.1.symm, standing.loops⟩
      | false => exact ⟨agrees.2.symm, standing.loops⟩
  | startLoop binding iterable =>
      obtain ⟨elements, reached, _, returned⟩ := Render.exists_ok_of_bind stepped
      cases returned
      exact ⟨agrees.symm, .cons ⟨iterable, here⟩ standing.loops⟩
  | nextElement target =>
      obtain ⟨start, outer, _, same, _, inside, behind⟩ := agrees
      obtain ⟨position, loops, page⟩ := frame
      have loopsStand := standing.loops
      rw [same] at loopsStand
      obtain ⟨⟨binding, remaining⟩, outerLoops, first, others, sameLoops⟩ :=
        List.forall₂_cons_left_iff.1 loopsStand
      cases sameLoops
      cases same
      cases remaining with
      | nil =>
          cases stepped
          exact ⟨behind.symm, others⟩
      | cons element remaining =>
          cases stepped
          exact ⟨inside.symm, .cons first others⟩

theorem visits_standing {scope : Entries Value} {frame : RenderFrame}
    {state reached : RenderState σ}
    (visits : context.Visits (instructionsOf statements) scope state running frame reached) :
    Standing statements running frame := by
  induction visits with
  | initial => exact standing_initial scope
  | step _ here stepped standing => exact standing_step standing here stepped

end RenderContext

end ViewTemplate
