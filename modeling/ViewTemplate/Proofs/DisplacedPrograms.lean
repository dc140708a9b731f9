import ViewTemplate.Proofs.DisplacedClauses
import ViewTemplate.Proofs.Layout
import ViewTemplate.Proofs.TagActions

/-!
Programs inside longer ones. The statements of a fragment between two actions are its own statements
with displaced spans, and its instructions stand between those of the actions, with displaced
targets.
-/

namespace ViewTemplate.Fragment

open ViewTemplate.Text

variable (move : Span → Span)

/-! ## Assembly above other statements -/

def Opening.mapSpans : Opening → Opening
  | .branch isElseif condition thenBranch =>
      .branch isElseif (condition.mapSpans move)
        (thenBranch.map (List.map (Statement.mapSpans move)))
  | .each binding iterable => .each (binding.mapSpans move) (iterable.mapSpans move)
  | .count start condition step =>
      .count (start.map (Assignment.mapSpans move)) (condition.map (Expression.mapSpans move))
        (step.map (Assignment.mapSpans move))
  | .repeat condition => .repeat (condition.mapSpans move)

/-- An assembly at other bytes, behind statements outside all of its blocks. -/
def Assembly.above (below statements : List Statement) : List OpenBlock → Assembly
  | [] => ⟨statements.map (Statement.mapSpans move) ++ below, []⟩
  | ⟨opening, span, outer⟩ :: blocks =>
      let outside := above below outer blocks
      ⟨statements.map (Statement.mapSpans move),
        ⟨opening.mapSpans move, move span, outside.statements⟩ :: outside.blocks⟩

namespace Assembly

variable {move} {below statements : List Statement} {blocks : List OpenBlock}
  {assembly : Assembly}

theorem above_cons (statement : Statement) :
    above move below (statement :: statements) blocks =
      (above move below statements blocks).push (statement.mapSpans move) := by
  cases blocks <;> rfl

theorem turned_above {keyword : Keyword} {span : Span}
    (turns : turned keyword span ⟨statements, blocks⟩ = .ok assembly) :
    turned keyword (move span) (above move below statements blocks) =
      .ok (above move below assembly.statements assembly.blocks) := by
  unfold turned at turns
  split at turns
  next isElseif condition opener outer others opened =>
    cases turns
    dsimp only at opened
    subst opened
    rw [above, above, turned]
    simp [Opening.mapSpans]
  next => cases turns

theorem closedBranch_above {span : Span}
    (closes : closedBranch span statements blocks = .ok assembly) :
    closedBranch (move span) (above move below statements blocks).statements
        (above move below statements blocks).blocks =
      .ok (above move below assembly.statements assembly.blocks) := by
  induction blocks generalizing statements with
  | nil => cases closes
  | cons block blocks inductionHypothesis =>
      obtain ⟨opening, opener, outer⟩ := block
      cases opening with
      | branch isElseif condition thenBranch =>
          have whole : ∀ closed : Statement,
              (if isElseif then closedBranch span (closed :: outer) blocks
                else .ok ⟨closed :: outer, blocks⟩) = .ok assembly →
              (if isElseif then
                  closedBranch (move span)
                    (closed.mapSpans move :: (above move below outer blocks).statements)
                    (above move below outer blocks).blocks
                else
                  .ok ⟨closed.mapSpans move :: (above move below outer blocks).statements,
                    (above move below outer blocks).blocks⟩) =
                .ok (above move below assembly.statements assembly.blocks) := by
            intro closed closes
            cases isElseif with
            | true =>
                have outside := inductionHypothesis closes
                rw [above_cons] at outside
                exact outside
            | false =>
                cases closes
                rw [above_cons]
                rfl
          rw [above]
          cases thenBranch with
          | none =>
              have closed := whole (.branch condition statements.reverse none) closes
              rw [Statement.mapSpans, mapSpansStatements_eq_map, List.map_reverse] at closed
              exact closed
          | some first =>
              have closed := whole (.branch condition first (some statements.reverse)) closes
              rw [Statement.mapSpans, mapSpansElse, mapSpansStatements_eq_map,
                mapSpansStatements_eq_map, List.map_reverse] at closed
              exact closed
      | _ => cases closes

theorem closedLoop_above {keyword : Keyword} {span : Span}
    {loop? : List Statement → Opening → Option Statement}
    (alike : ∀ body opening, loop? (body.map (Statement.mapSpans move)) (opening.mapSpans move) =
      (loop? body opening).map (Statement.mapSpans move))
    (closes : closedLoop keyword span loop? ⟨statements, blocks⟩ = .ok assembly) :
    closedLoop keyword (move span) loop? (above move below statements blocks) =
      .ok (above move below assembly.statements assembly.blocks) := by
  cases blocks with
  | nil => cases closes
  | cons block blocks =>
      obtain ⟨opening, opener, outer⟩ := block
      rw [closedLoop] at closes
      rw [above, closedLoop]
      dsimp only at closes ⊢
      rw [← List.map_reverse, alike]
      split at closes
      next loop found =>
        cases closes
        rw [found, above_cons]
        rfl
      next => cases closes

/-- What a clause does to an assembly it does above other statements too. -/
theorem next_above {placed : PlacedClause}
    (nexts : next ⟨statements, blocks⟩ placed = .ok assembly) :
    next (above move below statements blocks) (placed.mapSpans move) =
      .ok (above move below assembly.statements assembly.blocks) := by
  obtain ⟨clause, span⟩ := placed
  cases clause with
  | action performed =>
      cases nexts
      exact congrArg Except.ok (above_cons (.action performed)).symm
  | «if» condition | foreach binding iterable | «while» condition =>
      cases nexts
      rfl
  | «for» start condition step =>
      cases nexts
      rfl
  | «elseif» condition =>
      obtain ⟨between, turns, made⟩ := bind_eq_ok.1 nexts
      cases made
      exact bind_eq_ok.2 ⟨_, turned_above turns, rfl⟩
  | «else» => exact turned_above nexts
  | endif => exact closedBranch_above nexts
  | endforeach =>
      refine closedLoop_above (fun body opening => ?_) nexts
      cases opening <;>
        simp [each?, Opening.mapSpans, Statement.mapSpans, mapSpansStatements_eq_map]
  | endfor =>
      refine closedLoop_above (fun body opening => ?_) nexts
      cases opening <;>
        simp [count?, Opening.mapSpans, Statement.mapSpans, mapSpansStatements_eq_map]
  | endwhile =>
      refine closedLoop_above (fun body opening => ?_) nexts
      cases opening <;>
        simp [repeat?, Opening.mapSpans, Statement.mapSpans, mapSpansStatements_eq_map]

theorem foldlM_next_above {clauses : List PlacedClause}
    (nexts : clauses.foldlM next ⟨statements, blocks⟩ = .ok assembly) :
    (clauses.map (PlacedClause.mapSpans move)).foldlM next (above move below statements blocks) =
      .ok (above move below assembly.statements assembly.blocks) := by
  induction clauses generalizing statements blocks with
  | nil =>
      cases nexts
      rfl
  | cons clause clauses inductionHypothesis =>
      rw [List.foldlM_cons] at nexts
      obtain ⟨between, first, nexts⟩ := bind_eq_ok.1 nexts
      rw [List.map_cons, List.foldlM_cons, next_above first]
      exact inductionHypothesis nexts

end Assembly

/-- Clauses between two actions are assembled to their own statements between the actions. -/
theorem assemble_between {clauses : Clauses} {statements : List Statement}
    (assembled : assemble clauses = .ok statements) (first last : Action) (start stop : Span)
    (length : Nat) :
    assemble ⟨⟨.action first, start⟩ ::
        (clauses.clauses.map (PlacedClause.mapSpans move) ++ [⟨.action last, stop⟩]),
        .complete length⟩ =
      .ok (.action first :: (statements.map (Statement.mapSpans move) ++ [.action last])) := by
  have between : (clauses.clauses.map (PlacedClause.mapSpans move)).foldlM Assembly.next
      ⟨[.action first], []⟩ =
        .ok ⟨statements.reverse.map (Statement.mapSpans move) ++ [.action first], []⟩ :=
    Assembly.foldlM_next_above (assemble_eq_ok_iff.1 assembled).2
  rw [assemble, List.foldlM_cons]
  change (List.foldlM Assembly.next ⟨[.action first], []⟩ _ >>= _) = _
  rw [List.foldlM_append, between]
  simp [bind, Except.bind, pure, Except.pure, Assembly.next, Assembly.push, Assembly.finished]

/-! ## Layout -/

/-- The same instruction at other bytes and further back in a longer program. -/
def Instruction.displaced (distance : Nat) : Instruction → Instruction
  | .perform action => .perform (action.mapSpans move)
  | .jump target => .jump (target + distance)
  | .jumpUnless condition target => .jumpUnless (condition.mapSpans move) (target + distance)
  | .startLoop binding iterable => .startLoop (binding.mapSpans move) (iterable.mapSpans move)
  | .nextElement target => .nextElement (target + distance)

theorem assignmentCode_mapSpans (distance : Nat) (assignment : Option Assignment) :
    assignmentCode (assignment.map (Assignment.mapSpans move)) =
      (assignmentCode assignment).map (Instruction.displaced move distance) := by
  cases assignment <;> rfl

theorem conditionCode_mapSpans (stop distance : Nat) (condition : Option Expression) :
    conditionCode (stop + distance) (condition.map (Expression.mapSpans move)) =
      (conditionCode stop condition).map (Instruction.displaced move distance) := by
  cases condition <;> rfl

theorem elseStart_mapSpans (stop distance : Nat) (elseBranch : Option (List Statement)) :
    elseStart (stop + distance) (mapSpansElse move elseBranch) =
      elseStart stop elseBranch + distance := by
  cases elseBranch with
  | none => rfl
  | some elseBranch => exact Nat.add_right_comm ..

mutual

theorem layout_mapSpans (base distance : Nat) :
    ∀ statement : Statement,
      layout (base + distance) (statement.mapSpans move) =
        (layout base statement).map (Instruction.displaced move distance)
  | .action performed => rfl
  | .branch condition thenBranch elseBranch => by
      have chosen := layoutAll_mapSpans (base + 1) distance thenBranch
      have otherwise := layoutElse_mapSpans (base + 1 + (layoutAll (base + 1) thenBranch).length)
        distance elseBranch
      have start := elseStart_mapSpans move (base + 1 + (layoutAll (base + 1) thenBranch).length)
        distance elseBranch
      rw [Nat.add_right_comm] at chosen otherwise start
      rw [Nat.add_right_comm base] at otherwise start
      simp only [Statement.mapSpans, layout, chosen, List.length_map, otherwise, start,
        List.map_cons, List.map_append, Instruction.displaced]
  | .each binding iterable body => by
      have code := layoutAll_mapSpans (base + 2) distance body
      rw [Nat.add_right_comm] at code
      have stop : base + distance + 2 + (layoutAll (base + 2) body).length + 1 =
          base + 2 + (layoutAll (base + 2) body).length + 1 + distance := by omega
      simp only [Statement.mapSpans, layout, code, List.length_map, stop, Nat.add_right_comm base,
        List.map_cons, List.map_append, List.map_nil, Instruction.displaced]
  | .count start condition step body => by
      have conditions : (conditionCode 0 (condition.map (Expression.mapSpans move))).length =
          (conditionCode 0 condition).length := by cases condition <;> rfl
      have code := layoutAll_mapSpans
        (base + (assignmentCode start).length + (conditionCode 0 condition).length) distance body
      rw [Nat.add_right_comm, Nat.add_right_comm base] at code
      have stop : base + distance + (assignmentCode start).length +
            (conditionCode 0 condition).length +
            (layoutAll (base + (assignmentCode start).length +
              (conditionCode 0 condition).length) body).length +
            (assignmentCode step).length + 1 =
          base + (assignmentCode start).length + (conditionCode 0 condition).length +
            (layoutAll (base + (assignmentCode start).length +
              (conditionCode 0 condition).length) body).length +
            (assignmentCode step).length + 1 + distance := by omega
      have top : base + distance + (assignmentCode start).length =
          base + (assignmentCode start).length + distance := Nat.add_right_comm ..
      simp only [Statement.mapSpans, layout, conditions, code, List.length_map,
        assignmentCode_mapSpans move distance, stop, conditionCode_mapSpans, List.map_cons,
        List.map_append, List.map_nil, Instruction.displaced]
      rw [top]
  | .repeat condition body => by
      have code := layoutAll_mapSpans (base + 1) distance body
      rw [Nat.add_right_comm] at code
      have stop : base + distance + 1 + (layoutAll (base + 1) body).length + 1 =
          base + 1 + (layoutAll (base + 1) body).length + 1 + distance := by omega
      simp only [Statement.mapSpans, layout, code, List.length_map, stop, List.map_cons,
        List.map_append, List.map_nil, Instruction.displaced]

theorem layoutAll_mapSpans (base distance : Nat) :
    ∀ statements : List Statement,
      layoutAll (base + distance) (mapSpansStatements move statements) =
        (layoutAll base statements).map (Instruction.displaced move distance)
  | [] => rfl
  | statement :: statements => by
      have first := layout_mapSpans base distance statement
      have others := layoutAll_mapSpans (base + (layout base statement).length) distance statements
      rw [mapSpansStatements, layoutAll, layoutAll, first, List.length_map, List.map_append,
        Nat.add_right_comm, others]

theorem layoutElse_mapSpans (base distance : Nat) :
    ∀ elseBranch : Option (List Statement),
      layoutElse (base + distance) (mapSpansElse move elseBranch) =
        (layoutElse base elseBranch).map (Instruction.displaced move distance)
  | none => rfl
  | some elseBranch => by
      have code := layoutAll_mapSpans (base + 1) distance elseBranch
      rw [Nat.add_right_comm] at code
      have stop : base + distance + 1 + (layoutAll (base + 1) elseBranch).length =
          base + 1 + (layoutAll (base + 1) elseBranch).length + distance := by omega
      simp only [mapSpansElse, layoutElse, code, List.length_map, stop, List.map_cons,
        Instruction.displaced]

end

theorem layoutAll_append (base : Nat) (first second : List Statement) :
    layoutAll base (first ++ second) =
      layoutAll base first ++ layoutAll (base + (layoutAll base first).length) second := by
  induction first generalizing base with
  | nil => rfl
  | cons statement first inductionHypothesis =>
      rw [List.cons_append, layoutAll, layoutAll, inductionHypothesis, List.length_append,
        Nat.add_assoc, List.append_assoc]

/-- Between two actions stand the instructions of the statements themselves, displaced. -/
theorem layoutAll_between (first last : Action) (statements : List Statement) :
    layoutAll 0
        (.action first :: (statements.map (Statement.mapSpans move) ++ [.action last])) =
      .perform first ::
        ((layoutAll 0 statements).map (Instruction.displaced move 1) ++ [.perform last]) := by
  have inside := layoutAll_mapSpans move 0 1 statements
  rw [mapSpansStatements_eq_map] at inside
  rw [layoutAll, layout]
  change _ :: layoutAll 1 _ = _
  rw [layoutAll_append, inside]
  rfl

/-! ## Whole fragments -/

/-- Between two tags that are actions a fragment has the statements that it has alone. -/
theorem exists_parse_between {first last : List Lexeme} {opens closes : Action → Prop}
    {fragment : List Char} {statements : List Statement}
    (lexesFirst : Lexes (endTag ++ (fragment ++ tagOf last)) first)
    (readsFirst : ReadsAs first opens) (lexesLast : Lexes (endTag ++ []) last)
    (readsLast : ReadsAs last closes) (parsed : parse fragment = .ok statements) :
    ∃ opening closing distance, opens opening ∧ closes closing ∧
      parse (tagOf first ++ (fragment ++ tagOf last)) =
        .ok (.action opening ::
          (statements.map (Statement.mapSpans (Span.later distance)) ++ [.action closing])) := by
  have assembled : assemble (clausesFrom 0 fragment) = .ok statements := parsed
  obtain ⟨length, complete⟩ := (assemble_eq_ok_iff.1 assembled).1
  obtain ⟨opening, start, isOpening, begins⟩ := clausesFrom_of_readsAs lexesFirst readsFirst 0
  obtain ⟨closing, stop, isClosing, ends⟩ := clausesFrom_of_readsAs lexesLast readsLast
    (length + byteLength (tagOf first))
  have tag : beginTag ++ (codeOf last ++ endTag) = tagOf last := (List.append_assoc ..).symm
  have between := clausesFrom_append complete (byteLength (tagOf first)) (codeOf last ++ endTag)
  rw [List.append_nil, clausesFrom_nil] at ends
  rw [tag, ends] at between
  refine ⟨opening, closing, byteLength (tagOf first), isOpening, isClosing, ?_⟩
  change assemble (clausesFrom 0 _) = _
  rw [begins, between]
  exact assemble_between _ assembled opening closing start stop _

end ViewTemplate.Fragment
