import ViewTemplate.Proofs.Execution
import ViewTemplate.Proofs.TagActions
import ViewTemplate.Render.View

/-!
Fragments of actions alone: no statement of them stands inside another. Their programs perform one
action after the other.
-/

namespace ViewTemplate

open Fragment

namespace Fragment

/-! ## Clauses -/

/-- Clauses that were read to the end and are actions alone. -/
structure ActsAs (clauses : Clauses) (actions : List Action) : Prop where
  complete : ∃ length, clauses.ending = .complete length
  actions : clauses.clauses.map PlacedClause.clause = actions.map Clause.action

namespace ActsAs

theorem nil (length : Nat) : ActsAs ⟨[], .complete length⟩ [] :=
  ⟨⟨length, rfl⟩, rfl⟩

theorem cons {clauses : Clauses} {actions : List Action} (acts : ActsAs clauses actions)
    (action : Action) (span : Span) :
    ActsAs (clauses.cons ⟨.action action, span⟩) (action :: actions) :=
  ⟨acts.complete, congrArg (Clause.action action :: ·) acts.actions⟩

theorem assemble {clauses : Clauses} {actions : List Action} (acts : ActsAs clauses actions) :
    assemble clauses = .ok (actions.map Statement.action) := by
  obtain ⟨⟨length, complete⟩, same⟩ := acts
  have pushed : ∀ (placed : List PlacedClause) (actions : List Action)
      (statements : List Statement),
      placed.map PlacedClause.clause = actions.map Clause.action →
        placed.foldlM Assembly.next ⟨statements, []⟩ =
          .ok ⟨(actions.map Statement.action).reverse ++ statements, []⟩ := by
    intro placed
    induction placed with
    | nil =>
        intro actions statements same
        obtain rfl := List.map_eq_nil_iff.1 same.symm
        rfl
    | cons clause placed inductionHypothesis =>
        intro actions statements same
        obtain ⟨action, others, rfl, first, rest⟩ := List.map_eq_cons_iff.1 same.symm
        have next : Assembly.next ⟨statements, []⟩ clause =
            .ok ⟨.action action :: statements, []⟩ := by
          rw [Assembly.next, ← first]
          rfl
        have later := inductionHypothesis others (.action action :: statements) rest.symm
        rw [List.foldlM_cons, next]
        exact later.trans (by simp)
  rw [Fragment.assemble, pushed clauses.clauses actions [] same, complete]
  simp [bind, Except.bind, Assembly.finished]

end ActsAs

/-! ## Texts -/

/-- The action that outputs a text, unless the text is empty. -/
def rawActions (content : List Char) : List Action :=
  if content = [] then [] else [.raw (String.ofList content)]

/-- A text is read as actions, wherever it stands. -/
def ReadsAsActions (text : List Char) (actions : List Action → Prop) : Prop :=
  ∀ offset, ∃ performed, actions performed ∧ ActsAs (clausesFrom offset text) performed

theorem readsAsActions_nil : ReadsAsActions [] fun performed => performed = [] := by
  intro offset
  rw [clausesFrom_nil]
  exact ⟨[], rfl, .nil offset⟩

theorem readsAsActions_tag {lexemes : List Lexeme} {action : Action → Prop} {rest : List Char}
    {actions : List Action → Prop} (lexes : Lexes (endTag ++ rest) lexemes)
    (reads : ReadsAs lexemes action) (behind : ReadsAsActions rest actions) :
    ReadsAsActions (tagOf lexemes ++ rest) fun performed =>
      ∃ first others, performed = first :: others ∧ action first ∧ actions others := by
  intro offset
  obtain ⟨first, span, is, same⟩ := clausesFrom_of_readsAs lexes reads offset
  obtain ⟨others, are, acts⟩ := behind (offset + Text.byteLength (tagOf lexemes))
  refine ⟨first :: others, ⟨first, others, rfl, is, are⟩, ?_⟩
  rw [same]
  exact acts.cons first span

theorem readsAsActions_text {content rest : List Char} {lexemes : List Lexeme}
    {actions : List Action → Prop} (noTag : ¬ beginTag <:+: content)
    (behind : ReadsAsActions (tagOf lexemes ++ rest) actions) :
    ReadsAsActions (content ++ (tagOf lexemes ++ rest)) fun performed =>
      ∃ others, performed = rawActions content ++ others ∧ actions others := by
  intro offset
  have tag : beginTag ++ (codeOf lexemes ++ endTag ++ rest) = tagOf lexemes ++ rest := by
    simp [tagOf]
  obtain ⟨others, are, acts⟩ := behind (offset + Text.byteLength content)
  refine ⟨rawActions content ++ others, ⟨others, rfl, are⟩, ?_⟩
  rw [← tag, ← List.append_assoc, clausesFrom_text_tag offset noTag, rawActions, tag]
  split
  next empty =>
    rw [empty] at acts
    exact acts
  next => exact acts.cons _ _

theorem exists_compile_of_readsAsActions {source : String} {actions : List Action → Prop}
    (reads : ReadsAsActions source.toList actions) :
    ∃ performed, actions performed ∧
      Program.compile source =
        .ok ⟨source, instructionsOf (performed.map Statement.action)⟩ := by
  obtain ⟨performed, are, acts⟩ := reads 0
  have parsed : parse source.toList = .ok (performed.map Statement.action) := acts.assemble
  refine ⟨performed, are, ?_⟩
  rw [Program.compile, parsed]
  rfl

theorem layoutAll_actions (base : Nat) (actions : List Action) :
    layoutAll base (actions.map Statement.action) = actions.map Instruction.perform := by
  induction actions generalizing base with
  | nil => rfl
  | cons action actions inductionHypothesis =>
      rw [List.map_cons, layoutAll, inductionHypothesis]
      rfl

end Fragment

/-! ## Runs -/

namespace RenderContext

variable {σ : Type} {context : RenderContext σ (Render σ)}

theorem run_actions {instructions : Array Instruction} {loops : List LoopState}
    {actions : List Action} {position : Nat}
    (stands : StandsAt (fun position => instructions[position]?) position
      (actions.map Instruction.perform))
    (ends : instructions.size = position + actions.length) {fuel : Nat}
    (enough : actions.length < fuel) (page : Page) :
    context.run instructions fuel ⟨position, loops, page⟩ =
      (actions.foldlM context.perform page >>= fun after =>
        pure ⟨instructions.size, loops, after⟩) := by
  induction actions generalizing position fuel page with
  | nil =>
      obtain ⟨fuel, rfl⟩ : ∃ less, fuel = less + 1 := ⟨fuel - 1, by simp at enough; omega⟩
      obtain rfl : position = instructions.size := ends.symm
      simp [run]
  | cons action actions inductionHypothesis =>
      rw [List.length_cons] at enough ends
      obtain ⟨fuel, rfl⟩ : ∃ less, fuel = less + 1 := ⟨fuel - 1, by omega⟩
      have others := fun after => inductionHypothesis stands.2 (by omega)
        (show actions.length < fuel by omega) after
      rw [run_succ stands.1, List.foldlM_cons, bind_assoc]
      change (context.perform page action >>= _) >>= _ = _
      rw [bind_assoc]
      refine congrArg (context.perform page action >>= ·) (funext fun after => ?_)
      rw [pure_bind, ← others after]
      rfl

end RenderContext

/-! ## Programs -/

/-- Nothing is dropped if the captures are those that there were. -/
theorem RenderState.truncate_depth {σ : Type} {state reached : RenderState σ}
    (kept : reached.sections.captures = state.sections.captures) :
    reached.truncate state.sections.depth = reached := by
  have depth : reached.sections.depth = state.sections.depth := congrArg List.length kept
  rw [RenderState.truncate, Sections.truncate, depth, Nat.sub_self, List.drop_zero]

namespace Environment

variable {σ : Type} {environment : Environment σ} {enter : String → Entries Value → Render σ String}
  {fuel : Nat} {scope : Entries Value} {state reached : RenderState σ}

/-- A program that closes the captures that it opens outputs what its run leaves on the page. -/
theorem renderProgram_of_run {source : String} {instructions : Array Instruction}
    {frame : RenderFrame}
    (ran : RenderContext.run ⟨environment, source, state.sections.depth, enter⟩ instructions fuel
      (RenderFrame.initial scope) state = .ok frame reached)
    (kept : reached.sections.captures = state.sections.captures) :
    environment.renderProgram enter fuel ⟨source, instructions⟩ scope state =
      .ok frame.page.output reached := by
  have depth : reached.sections.depth = state.sections.depth := congrArg List.length kept
  have closed : (Rendering.unclosed? state.sections.depth : Render σ (Option String)) reached =
      .ok none reached := by
    have beyond : reached.sections.captures.reverse.length ≤ state.sections.depth := by
      rw [List.length_reverse]
      exact Nat.le_of_eq depth
    change EStateM.Result.ok (Option.map _ (reached.sections.captures.reverse[_]?)) reached = _
    rw [List.getElem?_eq_none beyond]
    rfl
  change Outcome.mapReached (RenderState.truncate state.sections.depth)
    (RenderContext.runProgram ⟨environment, source, state.sections.depth, enter⟩ fuel
      ⟨source, instructions⟩ scope state) = _
  rw [RenderContext.runProgram, Render.bind_of_ok ran, Render.bind_of_ok closed]
  change EStateM.Result.ok frame.page.output (reached.truncate state.sections.depth) = _
  rw [RenderState.truncate_depth kept]

theorem renderProgram_actions {source : String} {actions : List Action}
    (enough : actions.length < fuel) {page : Page}
    (performed : actions.foldlM
      (RenderContext.perform ⟨environment, source, state.sections.depth, enter⟩)
        (Page.initial scope) state = .ok page reached)
    (kept : reached.sections.captures = state.sections.captures) :
    environment.renderProgram enter fuel ⟨source, instructionsOf (actions.map .action)⟩ scope
      state = .ok page.output reached := by
  have stands := standsAt_instructionsOf (actions.map .action)
  rw [layoutAll_actions] at stands
  have size : (instructionsOf (actions.map .action)).size = 0 + actions.length := by
    rw [size_instructionsOf, layoutAll_actions, List.length_map, Nat.zero_add]
  have ran : RenderContext.run ⟨environment, source, state.sections.depth, enter⟩
      (instructionsOf (actions.map .action)) fuel (RenderFrame.initial scope) state =
        .ok ⟨(instructionsOf (actions.map .action)).size, [], page⟩ reached := by
    rw [RenderFrame.initial, RenderContext.run_actions stands size enough,
      Render.bind_of_ok performed]
    rfl
  exact renderProgram_of_run ran kept

end Environment

end ViewTemplate
