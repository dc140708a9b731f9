import ViewTemplate.Fragment.Clause

/-!
Assembling clauses into statements. The blocks that are open form a stack; each holds what stands
in front of it, so that closing a block is putting one statement behind that.
-/

namespace ViewTemplate.Fragment

/-- What opened a block. -/
inductive Opening where
  /-- An `if`, or an `elseif` inside the `else` of the block around it. In its `else` it holds the
  finished first branch. -/
  | branch (isElseif : Bool) (condition : Expression) (thenBranch : Option (List Statement))
  | each (binding : LoopVariables) (iterable : Expression)
  | count (start : Option Assignment) (condition : Option Expression) (step : Option Assignment)
  | repeat (condition : Expression)

def Opening.keyword : Opening → Keyword
  | .branch .. => .if
  | .each .. => .foreach
  | .count .. => .for
  | .repeat .. => .while

/-- An open block: what opened it, the token that did, and the statements in front of it, last
first. -/
structure OpenBlock where
  opening : Opening
  span : Span
  outer : List Statement

/-- The state of assembly: the statements of the innermost open block, last first, and the open
blocks, innermost first. -/
structure Assembly where
  statements : List Statement
  blocks : List OpenBlock

namespace Assembly

def push (statement : Statement) (assembly : Assembly) : Assembly :=
  ⟨statement :: assembly.statements, assembly.blocks⟩

def opened (opening : Opening) (span : Span) (assembly : Assembly) : Assembly :=
  ⟨[], ⟨opening, span, assembly.statements⟩ :: assembly.blocks⟩

/-- Turns to the other branch of the innermost block, which must be an `if` that has none yet. -/
def turned (keyword : Keyword) (span : Span) (assembly : Assembly) :
    Except SyntaxError Assembly :=
  match assembly.blocks with
  | ⟨.branch isElseif condition none, opener, outer⟩ :: blocks =>
      .ok ⟨[], ⟨.branch isElseif condition (some assembly.statements.reverse), opener, outer⟩ ::
        blocks⟩
  | _ => .error ⟨.strayClause keyword, span⟩

/-- Closes the innermost `if`, and with an `elseif` also the block whose `else` it fills. -/
def closedBranch (span : Span) (statements : List Statement) :
    List OpenBlock → Except SyntaxError Assembly
  | ⟨.branch isElseif condition thenBranch, _, outer⟩ :: blocks =>
      let statement : Statement :=
        match thenBranch with
        | none => .branch condition statements.reverse none
        | some thenBranch => .branch condition thenBranch (some statements.reverse)
      if isElseif then closedBranch span (statement :: outer) blocks
      else .ok ⟨statement :: outer, blocks⟩
  | _ => .error ⟨.strayClause .endif, span⟩

/-- Closes the innermost block, a loop that the keyword ends, around its body. -/
def closedLoop (keyword : Keyword) (span : Span)
    (loop? : List Statement → Opening → Option Statement) (assembly : Assembly) :
    Except SyntaxError Assembly :=
  match assembly.blocks with
  | ⟨opening, _, outer⟩ :: blocks =>
      match loop? assembly.statements.reverse opening with
      | some loop => .ok ⟨loop :: outer, blocks⟩
      | none => .error ⟨.strayClause keyword, span⟩
  | [] => .error ⟨.strayClause keyword, span⟩

def each? (body : List Statement) : Opening → Option Statement
  | .each binding iterable => some (.each binding iterable body)
  | _ => none

def count? (body : List Statement) : Opening → Option Statement
  | .count start condition step => some (.count start condition step body)
  | _ => none

def repeat? (body : List Statement) : Opening → Option Statement
  | .repeat condition => some (.repeat condition body)
  | _ => none

def next (assembly : Assembly) (placed : PlacedClause) : Except SyntaxError Assembly :=
  match placed.clause with
  | .action action => .ok (assembly.push (.action action))
  | .if condition => .ok (assembly.opened (.branch false condition none) placed.span)
  | .elseif condition => do
      let turned ← assembly.turned .elseif placed.span
      .ok (turned.opened (.branch true condition none) placed.span)
  | .else => assembly.turned .else placed.span
  | .endif => closedBranch placed.span assembly.statements assembly.blocks
  | .foreach binding iterable => .ok (assembly.opened (.each binding iterable) placed.span)
  | .endforeach => assembly.closedLoop .endforeach placed.span each?
  | .for start condition step =>
      .ok (assembly.opened (.count start condition step) placed.span)
  | .endfor => assembly.closedLoop .endfor placed.span count?
  | .while condition => .ok (assembly.opened (.repeat condition) placed.span)
  | .endwhile => assembly.closedLoop .endwhile placed.span repeat?

/-- The statements when no block is open any more; else the block that was opened first is at
fault. -/
def finished (assembly : Assembly) : Except SyntaxError (List Statement) :=
  match assembly.blocks.getLast? with
  | none => .ok assembly.statements.reverse
  | some block => .error ⟨.unclosedBlock block.opening.keyword, block.span⟩

theorem finished_eq_ok_iff {assembly : Assembly} {statements : List Statement} :
    assembly.finished = .ok statements ↔ assembly = ⟨statements.reverse, []⟩ := by
  obtain ⟨reversed, blocks⟩ := assembly
  unfold finished
  constructor
  · intro ends
    split at ends
    next none =>
      cases ends
      obtain rfl : blocks = [] := List.getLast?_eq_none_iff.1 none
      rw [List.reverse_reverse]
    next => cases ends
  · intro same
    cases same
    change Except.ok statements.reverse.reverse = _
    rw [List.reverse_reverse]

end Assembly

def assemble (clauses : Clauses) : Except SyntaxError (List Statement) := do
  let assembly ← clauses.clauses.foldlM Assembly.next ⟨[], []⟩
  match clauses.ending with
  | .complete _ => assembly.finished
  | .failed error => .error error

/-- Clauses are assembled to statements if there is no error behind them, and all that is left when
they are taken in is these statements. -/
theorem assemble_eq_ok_iff {clauses : Clauses} {statements : List Statement} :
    assemble clauses = .ok statements ↔
      (∃ length, clauses.ending = .complete length) ∧
        clauses.clauses.foldlM Assembly.next ⟨[], []⟩ = .ok ⟨statements.reverse, []⟩ := by
  rw [assemble, bind_eq_ok]
  constructor
  · rintro ⟨assembly, folded, finished⟩
    split at finished
    next length complete =>
      obtain rfl := Assembly.finished_eq_ok_iff.1 finished
      exact ⟨⟨length, complete⟩, folded⟩
    next => cases finished
  · rintro ⟨⟨length, complete⟩, folded⟩
    refine ⟨_, folded, ?_⟩
    rw [complete]
    exact Assembly.finished_eq_ok_iff.2 rfl

def parse (source : List Char) : Except SyntaxError (List Statement) :=
  assemble (clausesOf source)

end ViewTemplate.Fragment
