import ViewTemplate.Fragment.Program

/-!
Moving the spans of code. The code of a fragment that stands inside a longer one is the same code
with every span moved, so what it does can be compared.
-/

namespace ViewTemplate.Fragment

/-! ## Names and expressions -/

section Moving

variable (move : Span → Span)

def Identifier.mapSpan (identifier : Identifier) : Identifier :=
  ⟨identifier.name, move identifier.span⟩

def MemberKey.mapSpan : MemberKey → MemberKey
  | .field identifier => .field (identifier.mapSpan move)
  | .position index span => .position index (move span)

mutual

/-- The same expression at other bytes. -/
def Expression.mapSpans : Expression → Expression
  | .literal literal span => .literal literal (move span)
  | .variable identifier => .variable (identifier.mapSpan move)
  | .list items span => .list (mapSpansAll items) (move span)
  | .map entries span => .map (mapSpansEntries entries) (move span)
  | .member target key span => .member target.mapSpans (key.mapSpan move) (move span)
  | .index target selector span => .index target.mapSpans selector.mapSpans (move span)
  | .call function arguments span =>
      .call (function.mapSpan move) (mapSpansAll arguments) (move span)
  | .method name arguments span =>
      .method (name.mapSpan move) (mapSpansAll arguments) (move span)
  | .unary operator operand span => .unary operator operand.mapSpans (move span)
  | .binary operator left right span =>
      .binary operator left.mapSpans right.mapSpans (move span)

def mapSpansAll : List Expression → List Expression
  | [] => []
  | expression :: expressions => expression.mapSpans :: mapSpansAll expressions

def mapSpansEntries : List (Expression × Expression) → List (Expression × Expression)
  | [] => []
  | (key, value) :: entries => (key.mapSpans, value.mapSpans) :: mapSpansEntries entries

end

/-! ## Statements -/

def AssignmentAction.mapSpans : AssignmentAction → AssignmentAction
  | .set value => .set (value.mapSpans move)
  | .add value => .add (value.mapSpans move)
  | .subtract value => .subtract (value.mapSpans move)
  | .increment => .increment
  | .decrement => .decrement

def Assignment.mapSpans (assignment : Assignment) : Assignment :=
  ⟨assignment.target.mapSpan move, assignment.action.mapSpans move, move assignment.span⟩

def Action.mapSpans : Action → Action
  | .raw text => .raw text
  | .echo value => .echo (value.mapSpans move)
  | .evaluate value => .evaluate (value.mapSpans move)
  | .assign assignment => .assign (assignment.mapSpans move)

def LoopVariables.mapSpans : LoopVariables → LoopVariables
  | .item name => .item (name.mapSpan move)
  | .entry key value => .entry (key.mapSpan move) (value.mapSpan move)

mutual

def Statement.mapSpans : Statement → Statement
  | .action performed => .action (performed.mapSpans move)
  | .branch condition thenBranch elseBranch =>
      .branch (condition.mapSpans move) (mapSpansStatements thenBranch) (mapSpansElse elseBranch)
  | .each binding iterable body =>
      .each (binding.mapSpans move) (iterable.mapSpans move) (mapSpansStatements body)
  | .count start condition step body =>
      .count (start.map (Assignment.mapSpans move)) (condition.map (Expression.mapSpans move))
        (step.map (Assignment.mapSpans move)) (mapSpansStatements body)
  | .repeat condition body => .repeat (condition.mapSpans move) (mapSpansStatements body)

def mapSpansStatements : List Statement → List Statement
  | [] => []
  | statement :: statements => statement.mapSpans :: mapSpansStatements statements

def mapSpansElse : Option (List Statement) → Option (List Statement)
  | none => none
  | some elseBranch => some (mapSpansStatements elseBranch)

end

def Instruction.mapSpans : Instruction → Instruction
  | .perform action => .perform (action.mapSpans move)
  | .jumpUnless condition target => .jumpUnless (condition.mapSpans move) target
  | .startLoop binding iterable => .startLoop (binding.mapSpans move) (iterable.mapSpans move)
  | other => other

/-! ## Laws -/

theorem mapSpansStatements_eq_map (statements : List Statement) :
    mapSpansStatements move statements = statements.map (Statement.mapSpans move) := by
  induction statements with
  | nil => rfl
  | cons statement statements inductionHypothesis =>
      rw [mapSpansStatements, inductionHypothesis, List.map_cons]

@[simp]
theorem Identifier.name_mapSpan (identifier : Identifier) :
    (identifier.mapSpan move).name = identifier.name :=
  rfl

@[simp]
theorem Expression.span_mapSpans (expression : Expression) :
    (expression.mapSpans move).span = move expression.span := by
  cases expression <;> rfl

end Moving

@[simp]
theorem Identifier.mapSpan_id (identifier : Identifier) : identifier.mapSpan id = identifier :=
  rfl

@[simp]
theorem MemberKey.mapSpan_id (key : MemberKey) : key.mapSpan id = key := by
  cases key <;> rfl

mutual

@[simp]
theorem Expression.mapSpans_id : ∀ expression : Expression, expression.mapSpans id = expression
  | .literal .. | .variable .. => rfl
  | .list items span => by
      simp only [Expression.mapSpans, mapSpansAll_id items, id_eq]
  | .map entries span => by
      simp only [Expression.mapSpans, mapSpansEntries_id entries, id_eq]
  | .member target key span => by
      simp only [Expression.mapSpans, target.mapSpans_id, MemberKey.mapSpan_id, id_eq]
  | .index target selector span => by
      simp only [Expression.mapSpans, target.mapSpans_id, selector.mapSpans_id, id_eq]
  | .call function arguments span => by
      simp only [Expression.mapSpans, mapSpansAll_id arguments, Identifier.mapSpan_id, id_eq]
  | .method name arguments span => by
      simp only [Expression.mapSpans, mapSpansAll_id arguments, Identifier.mapSpan_id, id_eq]
  | .unary operator operand span => by
      simp only [Expression.mapSpans, operand.mapSpans_id, id_eq]
  | .binary operator left right span => by
      simp only [Expression.mapSpans, left.mapSpans_id, right.mapSpans_id, id_eq]

theorem mapSpansAll_id : ∀ expressions : List Expression, mapSpansAll id expressions = expressions
  | [] => rfl
  | expression :: expressions => by
      simp only [mapSpansAll, expression.mapSpans_id, mapSpansAll_id expressions]

theorem mapSpansEntries_id :
    ∀ entries : List (Expression × Expression), mapSpansEntries id entries = entries
  | [] => rfl
  | (key, value) :: entries => by
      simp only [mapSpansEntries, key.mapSpans_id, value.mapSpans_id,
        mapSpansEntries_id entries]

end

@[simp]
theorem Assignment.mapSpans_id (assignment : Assignment) :
    assignment.mapSpans id = assignment := by
  obtain ⟨target, action, span⟩ := assignment
  cases action <;>
    simp only [Assignment.mapSpans, AssignmentAction.mapSpans, Expression.mapSpans_id,
      Identifier.mapSpan_id, id_eq]

@[simp]
theorem Instruction.mapSpans_id (instruction : Instruction) :
    instruction.mapSpans id = instruction := by
  cases instruction with
  | perform action => cases action <;> simp [Instruction.mapSpans, Action.mapSpans]
  | startLoop binding iterable =>
      cases binding <;> simp [Instruction.mapSpans, LoopVariables.mapSpans]
  | _ => simp [Instruction.mapSpans]

end ViewTemplate.Fragment
