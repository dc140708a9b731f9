import ViewTemplate.Fragment.ReadExpression
import ViewTemplate.Fragment.Statement

/-!
Clauses are what stands between code tags, one after the other: actions, and the openings,
continuations and closings of blocks. They are read without regard to how blocks nest.
-/

namespace ViewTemplate.Fragment

inductive Clause where
  | action (action : Action)
  | if (condition : Expression)
  | elseif (condition : Expression)
  | else
  | endif
  | foreach (binding : LoopVariables) (iterable : Expression)
  | endforeach
  | for (start : Option Assignment) (condition : Option Expression) (step : Option Assignment)
  | endfor
  | while (condition : Expression)
  | endwhile

variable (ending : Ending)

/-! ## Parts of clauses -/

/-- Reads a condition in parentheses and the colon behind it. -/
def readCondition : Reader Expression := fun tokens => do
  let (_, inner) ← readKind ending (.symbol .leftParenthesis) tokens
  let (condition, last) ← readExpression ending inner.1
  let (_, behind) ← readKind ending (.symbol .rightParenthesis) last.1
  let (_, rest) ← readKind ending (.symbol .colon) behind.1
  return (condition, inner.andThen (last.andThen (behind.andThen rest)))

def readIdentifier : Reader Identifier := fun tokens => do
  let (token, rest) ← readKind ending .identifier tokens
  return (token.identifier, rest)

/-- Reads the variables of a loop, one for the items or two for keys and values. -/
def readLoopVariables : Reader LoopVariables := fun tokens => do
  let (first, behind) ← readIdentifier ending tokens
  match ← peek ending behind.1 with
  | some (.symbol .arrow) =>
      let (_, next) ← readKind ending (.symbol .arrow) behind.1
      let (second, rest) ← readIdentifier ending next.1
      return (.entry first second, behind.andThen (next.andThen rest))
  | _ => return (.item first, behind)

/-- The assignment with a value that a kind of token introduces. -/
def valueAssignment? : TokenKind → Option (Expression → AssignmentAction)
  | .symbol .assign => some .set
  | .symbol .plusAssign => some .add
  | .symbol .minusAssign => some .subtract
  | _ => none

/-- The assignment without a value that a kind of token makes. -/
def stepAssignment? : TokenKind → Option AssignmentAction
  | .symbol .increment => some .increment
  | .symbol .decrement => some .decrement
  | _ => none

/-- Reads the rest of an assignment to a variable, if there is one. -/
def readAssignmentTo? (target : Identifier) (tokens : List Token) :
    Except SyntaxError (Option (Assignment × Shorter tokens)) := do
  match ← peek ending tokens with
  | none => return none
  | some kind =>
      match valueAssignment? kind, stepAssignment? kind with
      | some action, _ =>
          let (_, behind) ← readAny ending tokens
          let (value, rest) ← readExpression ending behind.1
          return some (⟨target, action value, target.span.cover value.span⟩, behind.andThen rest)
      | none, some action =>
          let (token, rest) ← readAny ending tokens
          return some (⟨target, action, target.span.cover token.span⟩, rest)
      | none, none => return none

def readAssignment : Reader Assignment := fun tokens => do
  let (target, behind) ← readIdentifier ending tokens
  match ← readAssignmentTo? ending target behind.1 with
  | some (assignment, rest) => return (assignment, behind.andThen rest)
  | none =>
      match behind.1 with
      | [] => .error (ending.missing .assignment)
      | token :: _ => .error ⟨.expected .assignment (some token.kind), token.span⟩

/-- Reads an optional part up to the mark that ends it, and the mark. -/
def readUpTo {α : Type} (mark : Symbol) (part : Reader α) : Reader (Option α) := fun tokens => do
  if (← peek ending tokens) = some (.symbol mark) then
    let (_, rest) ← readKind ending (.symbol mark) tokens
    return (none, rest)
  else
    let (value, behind) ← part tokens
    let (_, rest) ← readKind ending (.symbol mark) behind.1
    return (some value, behind.andThen rest)

/-! ## Clauses -/

/-- Reads the head of a loop over a list or a map, behind its keyword. -/
def readForeach : Reader Clause := fun tokens => do
  let (_, inner) ← readKind ending (.symbol .leftParenthesis) tokens
  let (iterable, afterIterable) ← readExpression ending inner.1
  let (_, afterAs) ← readKeyword ending .as afterIterable.1
  let (binding, last) ← readLoopVariables ending afterAs.1
  let (_, behind) ← readKind ending (.symbol .rightParenthesis) last.1
  let (_, rest) ← readKind ending (.symbol .colon) behind.1
  return (.foreach binding iterable,
    inner.andThen (afterIterable.andThen (afterAs.andThen (last.andThen (behind.andThen rest)))))

/-- Reads the head of a counting loop, behind its keyword. -/
def readFor : Reader Clause := fun tokens => do
  let (_, inner) ← readKind ending (.symbol .leftParenthesis) tokens
  let (start, afterStart) ← readUpTo ending .semicolon (readAssignment ending) inner.1
  let (condition, afterCondition) ←
    readUpTo ending .semicolon (readExpression ending) afterStart.1
  let (step, behind) ←
    readUpTo ending .rightParenthesis (readAssignment ending) afterCondition.1
  let (_, rest) ← readKind ending (.symbol .colon) behind.1
  return (.for start condition step,
    inner.andThen (afterStart.andThen (afterCondition.andThen (behind.andThen rest))))

/-- Reads what a keyword at the beginning of a clause introduces, behind the keyword. Keywords that
are literals introduce nothing of their own. -/
def readKeywordClause (keyword : Token) (word : Keyword) (tokens : List Token) :
    Except SyntaxError (Clause × NotLonger tokens) := do
  match word with
  | .echo =>
      let (value, rest) ← readExpression ending tokens
      return (.action (.echo value), rest.weaken)
  | .if =>
      let (condition, rest) ← readCondition ending tokens
      return (.if condition, rest.weaken)
  | .elseif =>
      let (condition, rest) ← readCondition ending tokens
      return (.elseif condition, rest.weaken)
  | .while =>
      let (condition, rest) ← readCondition ending tokens
      return (.while condition, rest.weaken)
  | .else =>
      let (_, rest) ← readKind ending (.symbol .colon) tokens
      return (.else, rest.weaken)
  | .foreach =>
      let (clause, rest) ← readForeach ending tokens
      return (clause, rest.weaken)
  | .for =>
      let (clause, rest) ← readFor ending tokens
      return (clause, rest.weaken)
  | .endif => return (.endif, .untouched tokens)
  | .endforeach => return (.endforeach, .untouched tokens)
  | .endfor => return (.endfor, .untouched tokens)
  | .endwhile => return (.endwhile, .untouched tokens)
  | .as | .true | .false | .null | .none =>
      .error ⟨.unexpectedKeyword word, keyword.span⟩

/-- Reads a clause that begins with an expression: an assignment if the expression is a variable
and an assignment follows, else an evaluation. -/
def readPlainClause : Reader Clause := fun tokens => do
  let (value, behind) ← readExpression ending tokens
  match value with
  | .variable target =>
      match ← readAssignmentTo? ending target behind.1 with
      | some (assignment, rest) => return (.action (.assign assignment), behind.andThen rest)
      | none => return (.action (.evaluate value), behind)
  | _ => return (.action (.evaluate value), behind)

def readClause : Reader Clause
  | [] => readPlainClause ending []
  | token :: tokens =>
      match token.kind with
      | .keyword word =>
          if (keywordLiteral? word).isSome then readPlainClause ending (token :: tokens)
          else do
            let behind := Shorter.tail token tokens
            let (clause, rest) ← readKeywordClause ending token word behind.1
            return (clause, behind.upTo rest)
      | _ => readPlainClause ending (token :: tokens)

/-! ## Whole fragments -/

/-- A clause and the token that it begins with. -/
structure PlacedClause where
  clause : Clause
  span : Span

/-- The clauses of a fragment up to its end or to the point where reading failed. -/
structure Clauses where
  clauses : List PlacedClause
  ending : Ending

def Clauses.cons (clause : PlacedClause) (clauses : Clauses) : Clauses :=
  ⟨clause :: clauses.clauses, clauses.ending⟩

/-- Reads the clauses of tokens, of which the first stands inside a code tag or outside. A comment
may stand in front of a clause, and so may a semicolon. -/
def readClauses (inTag : Bool) (tokens : List Token) : Clauses :=
  match inTag, tokens with
  | false, [] => ⟨[], ending⟩
  | false, token :: rest =>
      match token.kind with
      | .raw =>
          (readClauses false rest).cons ⟨.action (.raw (String.ofList token.text)), token.span⟩
      | .beginTag => readClauses true rest
      | other => ⟨[], .failed ⟨.unexpectedToken other, token.span⟩⟩
  | true, [] => ⟨[], .failed (ending.missing (.token .endTag))⟩
  | true, token :: rest =>
      match token.kind with
      | .endTag => readClauses false rest
      | .comment => readClauses true rest
      | .symbol .semicolon => readClauses true rest
      | _ =>
          match readClause ending (token :: rest) with
          | .error error => ⟨[], .failed error⟩
          | .ok (clause, behind) =>
              (readClauses true behind.1).cons ⟨clause, token.span⟩
termination_by tokens.length
decreasing_by
  iterate 5 exact Nat.lt_succ_self _
  exact behind.2

def clausesOf (source : List Char) : Clauses :=
  let scanned := scan source
  readClauses scanned.ending false scanned.significant

end ViewTemplate.Fragment
