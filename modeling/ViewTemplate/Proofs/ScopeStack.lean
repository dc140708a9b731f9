import ViewTemplate.Fragment.Assembly

/-!
Assembly on two stacks, one of open blocks and one of the scopes that gather their statements. The
stacks grow at different rates: a block with a second branch has two scopes. Assembling on them is
assembling (`assembleOnStacks_eq_mapError`), so no scope is ever missing and one is left at the end.
-/

namespace ViewTemplate.Fragment

/-- What is known of an open block without the statements in it. -/
inductive BlockHead where
  | branch (isElseif : Bool) (condition : Expression) (hasElse : Bool)
  | each (binding : LoopVariables) (iterable : Expression)
  | count (start : Option Assignment) (condition : Option Expression) (step : Option Assignment)
  | repeat (condition : Expression)

def BlockHead.keyword : BlockHead → Keyword
  | .branch .. => .if
  | .each .. => .foreach
  | .count .. => .for
  | .repeat .. => .while

/-- The loop over its body that a block is, if it is one over a list or a map. -/
def BlockHead.each? : BlockHead → Option (List Statement → Statement)
  | .each binding iterable => some (.each binding iterable)
  | _ => none

def BlockHead.count? : BlockHead → Option (List Statement → Statement)
  | .count start condition step => some (.count start condition step)
  | _ => none

def BlockHead.repeat? : BlockHead → Option (List Statement → Statement)
  | .repeat condition => some (.repeat condition)
  | _ => none

/-- The heads of the open blocks with the tokens that opened them, and the scopes with their
statements last first. The innermost one stands first on both stacks. -/
structure ScopeStacks where
  blocks : List (BlockHead × Span)
  scopes : List (List Statement)

inductive StackFault where
  | malformed (error : SyntaxError)
  /-- There was no scope to put a statement into, or to take off. -/
  | noScope
  /-- All blocks are closed, and there is not exactly one scope. -/
  | wrongScopes

namespace ScopeStacks

def pushed (statement : Statement) :
    List (List Statement) → Except StackFault (List (List Statement))
  | [] => .error .noScope
  | scope :: scopes => .ok ((statement :: scope) :: scopes)

def popped : List (List Statement) → Except StackFault (List Statement × List (List Statement))
  | [] => .error .noScope
  | scope :: scopes => .ok (scope.reverse, scopes)

/-- Takes off the scope of a second branch, if there is one. -/
def poppedElse (hasElse : Bool) (scopes : List (List Statement)) :
    Except StackFault (Option (List Statement) × List (List Statement)) :=
  if hasElse then do
    let (elseBranch, scopes) ← popped scopes
    .ok (some elseBranch, scopes)
  else .ok (none, scopes)

def opened (head : BlockHead) (span : Span) (held : ScopeStacks) : ScopeStacks :=
  ⟨(head, span) :: held.blocks, [] :: held.scopes⟩

def turned (keyword : Keyword) (span : Span) (held : ScopeStacks) :
    Except StackFault ScopeStacks :=
  match held.blocks with
  | (.branch isElseif condition false, opener) :: blocks =>
      .ok ⟨(.branch isElseif condition true, opener) :: blocks, [] :: held.scopes⟩
  | _ => .error (.malformed ⟨.strayClause keyword, span⟩)

/-- Closes the innermost `if`, and with an `elseif` also the block whose second branch it is. -/
def closedBranch (span : Span) :
    List (BlockHead × Span) → List (List Statement) → Except StackFault ScopeStacks
  | (.branch isElseif condition hasElse, _) :: blocks, scopes => do
      let (elseBranch, scopes) ← poppedElse hasElse scopes
      let (thenBranch, scopes) ← popped scopes
      let scopes ← pushed (.branch condition thenBranch elseBranch) scopes
      if isElseif then closedBranch span blocks scopes else .ok ⟨blocks, scopes⟩
  | _, _ => .error (.malformed ⟨.strayClause .endif, span⟩)

/-- Closes the innermost block, a loop that the keyword ends, around its body. -/
def closedLoop (keyword : Keyword) (span : Span)
    (loop? : BlockHead → Option (List Statement → Statement)) (held : ScopeStacks) :
    Except StackFault ScopeStacks :=
  match held.blocks with
  | (head, _) :: blocks =>
      match loop? head with
      | some loop => do
          let (body, scopes) ← popped held.scopes
          let scopes ← pushed (loop body) scopes
          .ok ⟨blocks, scopes⟩
      | none => .error (.malformed ⟨.strayClause keyword, span⟩)
  | [] => .error (.malformed ⟨.strayClause keyword, span⟩)

def next (held : ScopeStacks) (placed : PlacedClause) : Except StackFault ScopeStacks :=
  match placed.clause with
  | .action action => do
      let scopes ← pushed (.action action) held.scopes
      .ok ⟨held.blocks, scopes⟩
  | .if condition => .ok (held.opened (.branch false condition false) placed.span)
  | .elseif condition => do
      let turned ← held.turned .elseif placed.span
      .ok (turned.opened (.branch true condition false) placed.span)
  | .else => held.turned .else placed.span
  | .endif => closedBranch placed.span held.blocks held.scopes
  | .foreach binding iterable => .ok (held.opened (.each binding iterable) placed.span)
  | .endforeach => held.closedLoop .endforeach placed.span BlockHead.each?
  | .for start condition step => .ok (held.opened (.count start condition step) placed.span)
  | .endfor => held.closedLoop .endfor placed.span BlockHead.count?
  | .while condition => .ok (held.opened (.repeat condition) placed.span)
  | .endwhile => held.closedLoop .endwhile placed.span BlockHead.repeat?

/-- The statements of the one scope that is left when no block is open any more. -/
def finished (held : ScopeStacks) : Except StackFault (List Statement) :=
  match held.blocks.getLast? with
  | some (head, span) => .error (.malformed ⟨.unclosedBlock head.keyword, span⟩)
  | none =>
      match held.scopes with
      | [scope] => .ok scope.reverse
      | _ => .error .wrongScopes

end ScopeStacks

/-- Assembles clauses on two stacks, of which the one for scopes begins with the outermost. -/
def assembleOnStacks (clauses : Clauses) : Except StackFault (List Statement) := do
  let held ← clauses.clauses.foldlM ScopeStacks.next ⟨[], [[]]⟩
  match clauses.ending with
  | .complete _ => held.finished
  | .failed error => .error (.malformed error)

/-! ## The stacks of an assembly -/

def Opening.head : Opening → BlockHead
  | .branch isElseif condition thenBranch => .branch isElseif condition thenBranch.isSome
  | .each binding iterable => .each binding iterable
  | .count start condition step => .count start condition step
  | .repeat condition => .repeat condition

/-- The scopes below that of the innermost block. A block in its second branch also has the scope of
the first one there. -/
def scopesBelow : List OpenBlock → List (List Statement)
  | [] => []
  | ⟨.branch _ _ (some thenBranch), _, outer⟩ :: blocks =>
      thenBranch.reverse :: outer :: scopesBelow blocks
  | ⟨.branch _ _ none, _, outer⟩ :: blocks | ⟨.each _ _, _, outer⟩ :: blocks
  | ⟨.count _ _ _, _, outer⟩ :: blocks | ⟨.repeat _, _, outer⟩ :: blocks =>
      outer :: scopesBelow blocks

def headsOf (blocks : List OpenBlock) : List (BlockHead × Span) :=
  blocks.map fun block => (block.opening.head, block.span)

namespace Assembly

def scopeStacks (assembly : Assembly) : ScopeStacks :=
  ⟨headsOf assembly.blocks, assembly.statements :: scopesBelow assembly.blocks⟩

/-- What a step of assembly comes to on the stacks. -/
def onStacks : Except SyntaxError Assembly → Except StackFault ScopeStacks
  | .ok assembly => .ok assembly.scopeStacks
  | .error error => .error (.malformed error)

variable (span : Span)

theorem turned_stacks (keyword : Keyword) (assembly : Assembly) :
    assembly.scopeStacks.turned keyword span = onStacks (assembly.turned keyword span) := by
  obtain ⟨statements, blocks⟩ := assembly
  cases blocks with
  | nil => rfl
  | cons block blocks =>
      obtain ⟨opening, opener, outer⟩ := block
      cases opening with
      | branch isElseif condition thenBranch =>
          cases thenBranch with
          | none =>
              have scope : statements.reverse.reverse = statements :=
                List.reverse_reverse statements
              simp only [turned, onStacks, scopeStacks, scopesBelow, scope]
              rfl
          | some thenBranch => rfl
      | _ => rfl

theorem closedBranch_stacks (statements : List Statement) (blocks : List OpenBlock) :
    ScopeStacks.closedBranch span (headsOf blocks) (statements :: scopesBelow blocks) =
      onStacks (closedBranch span statements blocks) := by
  induction blocks generalizing statements with
  | nil => rfl
  | cons block blocks inductionHypothesis =>
      obtain ⟨opening, opener, outer⟩ := block
      cases opening with
      | branch isElseif condition thenBranch =>
          cases thenBranch with
          | none =>
              have closed := inductionHypothesis
                (.branch condition statements.reverse none :: outer)
              cases isElseif with
              | false => rfl
              | true => exact closed
          | some thenBranch =>
              have branch : thenBranch.reverse.reverse = thenBranch :=
                List.reverse_reverse thenBranch
              have closed := inductionHypothesis
                (.branch condition thenBranch (some statements.reverse) :: outer)
              cases isElseif with
              | false =>
                  change Except.ok (ScopeStacks.mk (headsOf blocks)
                    ((Statement.branch condition thenBranch.reverse.reverse
                      (some statements.reverse) :: outer) :: scopesBelow blocks)) = _
                  rw [branch]
                  rfl
              | true =>
                  change ScopeStacks.closedBranch span (headsOf blocks)
                    ((Statement.branch condition thenBranch.reverse.reverse
                      (some statements.reverse) :: outer) :: scopesBelow blocks) = _
                  rw [branch]
                  exact closed
      | _ => rfl

theorem closedLoop_stacks {keyword : Keyword}
    {loop? : List Statement → Opening → Option Statement}
    {headLoop? : BlockHead → Option (List Statement → Statement)}
    (same : ∀ body opening, loop? body opening = (headLoop? opening.head).map (· body))
    (noBranch : ∀ isElseif condition hasElse,
      headLoop? (.branch isElseif condition hasElse) = none)
    (assembly : Assembly) :
    assembly.scopeStacks.closedLoop keyword span headLoop? =
      onStacks (assembly.closedLoop keyword span loop?) := by
  obtain ⟨statements, blocks⟩ := assembly
  cases blocks with
  | nil => rfl
  | cons block blocks =>
      obtain ⟨opening, opener, outer⟩ := block
      simp only [ScopeStacks.closedLoop, scopeStacks, headsOf, List.map_cons, closedLoop, same]
      cases opening with
      | branch isElseif condition thenBranch =>
          rw [Opening.head, noBranch]
          rfl
      | each binding iterable => cases headLoop? (Opening.each binding iterable).head <;> rfl
      | count start condition step =>
          cases headLoop? (Opening.count start condition step).head <;> rfl
      | «repeat» condition => cases headLoop? (Opening.repeat condition).head <;> rfl

theorem next_stacks (assembly : Assembly) (placed : PlacedClause) :
    assembly.scopeStacks.next placed = onStacks (assembly.next placed) := by
  obtain ⟨clause, span⟩ := placed
  cases clause with
  | action action => rfl
  | «if» condition => rfl
  | «elseif» condition =>
      rw [ScopeStacks.next, Assembly.next, turned_stacks]
      cases assembly.turned .elseif span <;> rfl
  | «else» => exact turned_stacks span .else assembly
  | endif => exact closedBranch_stacks span assembly.statements assembly.blocks
  | foreach binding iterable => rfl
  | endforeach =>
      exact closedLoop_stacks span (fun body opening => by cases opening <;> rfl)
        (fun _ _ _ => rfl) assembly
  | «for» start condition step => rfl
  | endfor =>
      exact closedLoop_stacks span (fun body opening => by cases opening <;> rfl)
        (fun _ _ _ => rfl) assembly
  | «while» condition => rfl
  | endwhile =>
      exact closedLoop_stacks span (fun body opening => by cases opening <;> rfl)
        (fun _ _ _ => rfl) assembly

theorem foldlM_next_stacks (placed : List PlacedClause) (assembly : Assembly) :
    placed.foldlM ScopeStacks.next assembly.scopeStacks =
      onStacks (placed.foldlM next assembly) := by
  induction placed generalizing assembly with
  | nil => rfl
  | cons first placed inductionHypothesis =>
      rw [List.foldlM_cons, List.foldlM_cons, next_stacks]
      cases assembly.next first with
      | error error => rfl
      | ok following => exact inductionHypothesis following

theorem finished_stacks (assembly : Assembly) :
    assembly.scopeStacks.finished = assembly.finished.mapError .malformed := by
  obtain ⟨statements, blocks⟩ := assembly
  rw [ScopeStacks.finished, finished]
  simp only [scopeStacks, headsOf, List.getLast?_map]
  cases last : blocks.getLast? with
  | none =>
      rw [List.getLast?_eq_none_iff.1 last]
      rfl
  | some block =>
      obtain ⟨opening, opener, outer⟩ := block
      cases opening <;> rfl

end Assembly

/-- Assembling on the stacks never lacks a scope and ends with the outermost one alone: it finds the
statements that assembling finds, and the same errors. -/
theorem assembleOnStacks_eq_mapError (clauses : Clauses) :
    assembleOnStacks clauses = (assemble clauses).mapError .malformed := by
  have run := Assembly.foldlM_next_stacks clauses.clauses ⟨[], []⟩
  have start : (Assembly.mk [] []).scopeStacks = ⟨[], [[]]⟩ := rfl
  rw [start] at run
  rw [assembleOnStacks, assemble, run]
  cases clauses.clauses.foldlM Assembly.next ⟨[], []⟩ with
  | error error => rfl
  | ok assembly =>
      cases clauses.ending with
      | complete length => exact Assembly.finished_stacks assembly
      | failed error => rfl

end ViewTemplate.Fragment
