import ViewTemplate.Proofs.ScopeStack

/-!
The grammar of blocks. Clauses are assembled into statements exactly if they are whole blocks one
behind the other, and the statements are those blocks, where an `elseif` is an `if` that alone makes
up the second branch of the one before it (`recognisesBlocks_parse`).
-/

namespace ViewTemplate.Fragment

/-! ## The grammar -/

mutual

/-- Clauses that are whole blocks and actions, one behind the other, and their statements. -/
inductive Forms : List PlacedClause → List Statement → Prop
  | nil : Forms [] []
  | action {span : Span} {later : List PlacedClause} {statements : List Statement}
      (action : Action) (rest : Forms later statements) :
      Forms (⟨.action action, span⟩ :: later) (.action action :: statements)
  | branch {opener closer : Span} {body alternatives later : List PlacedClause}
      {thenBranch statements : List Statement} {elseBranch : Option (List Statement)}
      (condition : Expression) (inside : Forms body thenBranch)
      (otherwise : FormsElse alternatives elseBranch) (rest : Forms later statements) :
      Forms (⟨.if condition, opener⟩ :: (body ++ (alternatives ++ ⟨.endif, closer⟩ :: later)))
        (.branch condition thenBranch elseBranch :: statements)
  | each {opener closer : Span} {body later : List PlacedClause}
      {repeated statements : List Statement} (binding : LoopVariables) (iterable : Expression)
      (inside : Forms body repeated) (rest : Forms later statements) :
      Forms (⟨.foreach binding iterable, opener⟩ :: (body ++ ⟨.endforeach, closer⟩ :: later))
        (.each binding iterable repeated :: statements)
  | count {opener closer : Span} {body later : List PlacedClause}
      {repeated statements : List Statement} (start : Option Assignment)
      (condition : Option Expression) (step : Option Assignment)
      (inside : Forms body repeated) (rest : Forms later statements) :
      Forms (⟨.for start condition step, opener⟩ :: (body ++ ⟨.endfor, closer⟩ :: later))
        (.count start condition step repeated :: statements)
  | repeat {opener closer : Span} {body later : List PlacedClause}
      {repeated statements : List Statement} (condition : Expression)
      (inside : Forms body repeated) (rest : Forms later statements) :
      Forms (⟨.while condition, opener⟩ :: (body ++ ⟨.endwhile, closer⟩ :: later))
        (.repeat condition repeated :: statements)

/-- What stands between the first branch of an `if` and its end: any number of `elseif`s and then
perhaps an `else`, which together make up the second branch. -/
inductive FormsElse : List PlacedClause → Option (List Statement) → Prop
  | none : FormsElse [] none
  | else {turn : Span} {body : List PlacedClause} {statements : List Statement}
      (inside : Forms body statements) : FormsElse (⟨.else, turn⟩ :: body) (some statements)
  | elseif {turn : Span} {body alternatives : List PlacedClause} {thenBranch : List Statement}
      {elseBranch : Option (List Statement)} (condition : Expression)
      (inside : Forms body thenBranch) (otherwise : FormsElse alternatives elseBranch) :
      FormsElse (⟨.elseif condition, turn⟩ :: (body ++ alternatives))
        (some [.branch condition thenBranch elseBranch])

end

theorem Forms.append {first second : List PlacedClause} {left right : List Statement}
    (forms : Forms first left) (behind : Forms second right) :
    Forms (first ++ second) (left ++ right) := by
  match forms with
  | .nil => exact behind
  | .action performed rest => exact .action performed (rest.append behind)
  | .branch condition inside otherwise rest =>
      simpa using Forms.branch condition inside otherwise (rest.append behind)
  | .each binding iterable inside rest =>
      simpa using Forms.each binding iterable inside (rest.append behind)
  | .count start condition step inside rest =>
      simpa using Forms.count start condition step inside (rest.append behind)
  | .repeat condition inside rest =>
      simpa using Forms.repeat condition inside (rest.append behind)

/-! ## Blocks are assembled -/

namespace Assembly

/-- Leaves an `if` that has become a statement, and with an `elseif` also the block around it. -/
def left (span : Span) (isElseif : Bool) (statement : Statement) (outer : List Statement)
    (blocks : List OpenBlock) : Except SyntaxError Assembly :=
  if isElseif then closedBranch span (statement :: outer) blocks
  else .ok ⟨statement :: outer, blocks⟩

section Branches

variable (closer turn opener : Span) (isElseif : Bool) (condition other : Expression)
  (statements thenBranch outer : List Statement) (blocks : List OpenBlock)

theorem next_endif_then :
    next ⟨statements, ⟨.branch isElseif condition none, opener, outer⟩ :: blocks⟩
        ⟨.endif, closer⟩ =
      left closer isElseif (.branch condition statements.reverse none) outer blocks :=
  rfl

theorem next_endif_else :
    next ⟨statements, ⟨.branch isElseif condition (some thenBranch), opener, outer⟩ :: blocks⟩
        ⟨.endif, closer⟩ =
      left closer isElseif (.branch condition thenBranch (some statements.reverse)) outer blocks :=
  rfl

theorem next_else :
    next ⟨statements, ⟨.branch isElseif condition none, opener, outer⟩ :: blocks⟩ ⟨.else, turn⟩ =
      .ok ⟨[], ⟨.branch isElseif condition (some statements.reverse), opener, outer⟩ :: blocks⟩ :=
  rfl

theorem next_elseif :
    next ⟨statements, ⟨.branch isElseif condition none, opener, outer⟩ :: blocks⟩
        ⟨.elseif other, turn⟩ =
      .ok ⟨[], ⟨.branch true other none, turn, []⟩ ::
        ⟨.branch isElseif condition (some statements.reverse), opener, outer⟩ :: blocks⟩ :=
  rfl

end Branches

end Assembly

/-- Steps that succeed, and then others. -/
theorem foldlM_next_append {first : List PlacedClause} {start reached : Assembly}
    (steps : first.foldlM Assembly.next start = .ok reached) (second : List PlacedClause) :
    (first ++ second).foldlM Assembly.next start = second.foldlM Assembly.next reached := by
  rw [List.foldlM_append, steps]
  rfl

/-- A loop is put behind what stands in front of it when the keyword that ends it comes. -/
theorem foldlM_next_loop {head closing : PlacedClause} {body : List PlacedClause}
    {repeated outer : List Statement} {blocks : List OpenBlock} {opening : Opening}
    {loop : Statement} {keyword : Keyword} {loop? : List Statement → Opening → Option Statement}
    (opens : ∀ assembly : Assembly, assembly.next head = .ok (assembly.opened opening head.span))
    (closes : ∀ assembly : Assembly,
      assembly.next closing = assembly.closedLoop keyword closing.span loop?)
    (whole : loop? repeated opening = some loop)
    (inside : List.foldlM Assembly.next ⟨[], ⟨opening, head.span, outer⟩ :: blocks⟩ body =
      .ok ⟨repeated.reverse ++ [], ⟨opening, head.span, outer⟩ :: blocks⟩)
    (later : List PlacedClause) :
    List.foldlM Assembly.next ⟨outer, blocks⟩ (head :: (body ++ closing :: later)) =
      List.foldlM Assembly.next ⟨loop :: outer, blocks⟩ later := by
  have closed : Assembly.next ⟨repeated.reverse ++ [], ⟨opening, head.span, outer⟩ :: blocks⟩
      closing = .ok ⟨loop :: outer, blocks⟩ := by
    rw [closes, Assembly.closedLoop]
    simp only [List.append_nil, List.reverse_reverse, whole]
  rw [List.foldlM_cons, opens]
  refine (foldlM_next_append inside _).trans ?_
  rw [List.foldlM_cons, closed]
  rfl

mutual

/-- Whole blocks add their statements to those in front, and no open block. -/
theorem Forms.foldlM_next {placed : List PlacedClause} {statements : List Statement}
    (forms : Forms placed statements) (outer : List Statement) (blocks : List OpenBlock) :
    placed.foldlM Assembly.next ⟨outer, blocks⟩ = .ok ⟨statements.reverse ++ outer, blocks⟩ := by
  match forms with
  | .nil => rfl
  | .action performed rest =>
      rw [List.foldlM_cons, List.reverse_cons, List.append_assoc]
      exact rest.foldlM_next (.action performed :: outer) blocks
  | @Forms.branch opener closer _ _ _ thenBranch _ elseBranch condition inside otherwise rest =>
      have body := inside.foldlM_next [] (⟨.branch false condition none, opener, outer⟩ :: blocks)
      have choice := otherwise.foldlM_next false condition opener closer thenBranch outer blocks
      have later := rest.foldlM_next (.branch condition thenBranch elseBranch :: outer) blocks
      rw [List.append_nil] at body
      rw [List.foldlM_cons, List.reverse_cons, List.append_assoc, List.singleton_append, ← later]
      refine (foldlM_next_append body _).trans ?_
      rw [List.append_cons]
      exact foldlM_next_append choice _
  | @Forms.each opener _ _ _ repeated _ binding iterable inside rest =>
      have body := inside.foldlM_next [] (⟨.each binding iterable, opener, outer⟩ :: blocks)
      have later := rest.foldlM_next (.each binding iterable repeated :: outer) blocks
      rw [List.reverse_cons, List.append_assoc, List.singleton_append, ← later]
      exact foldlM_next_loop (fun _ => rfl) (fun _ => rfl) rfl body _
  | @Forms.count opener _ _ _ repeated _ start condition step inside rest =>
      have body := inside.foldlM_next [] (⟨.count start condition step, opener, outer⟩ :: blocks)
      have later := rest.foldlM_next (.count start condition step repeated :: outer) blocks
      rw [List.reverse_cons, List.append_assoc, List.singleton_append, ← later]
      exact foldlM_next_loop (fun _ => rfl) (fun _ => rfl) rfl body _
  | @Forms.repeat opener _ _ _ repeated _ condition inside rest =>
      have body := inside.foldlM_next [] (⟨.repeat condition, opener, outer⟩ :: blocks)
      have later := rest.foldlM_next (.repeat condition repeated :: outer) blocks
      rw [List.reverse_cons, List.append_assoc, List.singleton_append, ← later]
      exact foldlM_next_loop (fun _ => rfl) (fun _ => rfl) rfl body _

/-- Up to its end, an `if` whose first branch is there becomes a statement with its second one. -/
theorem FormsElse.foldlM_next {placed : List PlacedClause} {elseBranch : Option (List Statement)}
    (forms : FormsElse placed elseBranch) (isElseif : Bool) (condition : Expression)
    (opener closer : Span) (thenBranch outer : List Statement) (blocks : List OpenBlock) :
    List.foldlM Assembly.next
        ⟨thenBranch.reverse, ⟨.branch isElseif condition none, opener, outer⟩ :: blocks⟩
        (placed ++ [⟨.endif, closer⟩]) =
      Assembly.left closer isElseif (.branch condition thenBranch elseBranch) outer blocks := by
  match forms with
  | .none =>
      rw [List.nil_append, List.foldlM_cons, Assembly.next_endif_then, List.reverse_reverse]
      exact bind_pure _
  | .else inside =>
      have body := inside.foldlM_next []
        (⟨.branch isElseif condition (some thenBranch), opener, outer⟩ :: blocks)
      rw [List.append_nil] at body
      rw [List.cons_append, List.foldlM_cons, Assembly.next_else, List.reverse_reverse]
      refine (foldlM_next_append body _).trans ?_
      rw [List.foldlM_cons, Assembly.next_endif_else, List.reverse_reverse]
      exact bind_pure _
  | @FormsElse.elseif turn _ _ inner _ other inside otherwise =>
      have body := inside.foldlM_next [] (⟨.branch true other none, turn, []⟩ ::
        ⟨.branch isElseif condition (some thenBranch), opener, outer⟩ :: blocks)
      have choice := otherwise.foldlM_next true other turn closer inner []
        (⟨.branch isElseif condition (some thenBranch), opener, outer⟩ :: blocks)
      rw [List.append_nil] at body
      rw [List.cons_append, List.foldlM_cons, Assembly.next_elseif, List.reverse_reverse,
        List.append_assoc]
      exact (foldlM_next_append body _).trans choice

end

/-! ## What is assembled is blocks -/

/-- The clause that begins a block. -/
def Opening.clause : Opening → Clause
  | .branch _ condition _ => .if condition
  | .each binding iterable => .foreach binding iterable
  | .count start condition step => .for start condition step
  | .repeat condition => .while condition

/-- Whether a block is as its first clause leaves it: no `elseif`, and not in a second branch. -/
def Opening.isFresh : Opening → Bool
  | .branch isElseif _ thenBranch => !isElseif && thenBranch.isNone
  | .each .. | .count .. | .repeat .. => true

/-- Clauses after which blocks are open, and what the open blocks hold. -/
inductive Opens : List PlacedClause → List OpenBlock → Prop
  | none : Opens [] []
  | opened {before front : List PlacedClause} {opener : Span} {outer : List Statement}
      {blocks : List OpenBlock} (opening : Opening) (fresh : opening.isFresh = true)
      (outside : Opens before blocks) (forms : Forms front outer.reverse) :
      Opens (before ++ (front ++ [⟨opening.clause, opener⟩])) (⟨opening, opener, outer⟩ :: blocks)
  | turned {before inner : List PlacedClause} {turn opener : Span} {isElseif : Bool}
      {condition : Expression} {thenBranch outer : List Statement} {blocks : List OpenBlock}
      (outside : Opens before (⟨.branch isElseif condition none, opener, outer⟩ :: blocks))
      (inside : Forms inner thenBranch) :
      Opens (before ++ (inner ++ [⟨.else, turn⟩]))
        (⟨.branch isElseif condition (some thenBranch), opener, outer⟩ :: blocks)
  | chained {before inner : List PlacedClause} {turn opener : Span} {isElseif : Bool}
      {condition other : Expression} {thenBranch outer : List Statement} {blocks : List OpenBlock}
      (outside : Opens before (⟨.branch isElseif condition none, opener, outer⟩ :: blocks))
      (inside : Forms inner thenBranch) :
      Opens (before ++ (inner ++ [⟨.elseif other, turn⟩]))
        (⟨.branch true other none, turn, []⟩ ::
          ⟨.branch isElseif condition (some thenBranch), opener, outer⟩ :: blocks)

/-- Clauses that lead to a state of assembly. -/
def Reaches (clauses : List PlacedClause) (assembly : Assembly) : Prop :=
  ∃ before inner, clauses = before ++ inner ∧ Opens before assembly.blocks ∧
    Forms inner assembly.statements.reverse

/-- A block that is complete joins the statements in front of it. -/
theorem reaches_block {before front block : List PlacedClause} {outer : List Statement}
    {blocks : List OpenBlock} {statement : Statement} (outside : Opens before blocks)
    (forms : Forms front outer.reverse) (whole : Forms block [statement]) :
    Reaches (before ++ (front ++ block)) ⟨statement :: outer, blocks⟩ := by
  refine ⟨before, front ++ block, rfl, outside, ?_⟩
  rw [List.reverse_cons]
  exact forms.append whole

/-- At its end, an `if` joins what stands in front of it, and with an `elseif` so does the block
whose second branch that is. -/
theorem reaches_left {before inner alternatives : List PlacedClause} {closer opener : Span}
    {isElseif : Bool} {condition : Expression} {thenBranch outer : List Statement}
    {elseBranch : Option (List Statement)} {blocks : List OpenBlock} {following : Assembly}
    (outside : Opens before (⟨.branch isElseif condition none, opener, outer⟩ :: blocks))
    (inside : Forms inner thenBranch) (otherwise : FormsElse alternatives elseBranch)
    (closes : Assembly.left closer isElseif (.branch condition thenBranch elseBranch) outer blocks =
      .ok following) :
    Reaches (before ++ (inner ++ (alternatives ++ [⟨.endif, closer⟩]))) following := by
  cases outside with
  | opened _ fresh outside forms =>
      obtain rfl : isElseif = false := by simpa [Opening.isFresh] using fresh
      cases closes
      simpa [Opening.clause] using
        reaches_block outside forms (.branch condition inside otherwise .nil)
  | @chained before front turn _ _ _ _ _ _ _ outside forms =>
      rw [Assembly.left, if_pos rfl] at closes
      simpa using reaches_left outside forms (.elseif condition inside otherwise) closes
termination_by blocks.length

theorem exists_branch_of_turned {keyword : Keyword} {turn : Span} {assembly following : Assembly}
    (turned : assembly.turned keyword turn = .ok following) :
    ∃ isElseif condition opener outer blocks,
      assembly.blocks = ⟨.branch isElseif condition none, opener, outer⟩ :: blocks ∧
        following = ⟨[], ⟨.branch isElseif condition (some assembly.statements.reverse), opener,
          outer⟩ :: blocks⟩ := by
  unfold Assembly.turned at turned
  split at turned
  next isElseif condition opener outer blocks shape =>
    cases turned
    exact ⟨isElseif, condition, opener, outer, blocks, shape, rfl⟩
  next => cases turned

theorem exists_loop_of_closedLoop {keyword : Keyword} {closer : Span}
    {loop? : List Statement → Opening → Option Statement} {assembly following : Assembly}
    (closed : assembly.closedLoop keyword closer loop? = .ok following) :
    ∃ opening opener outer blocks loop, assembly.blocks = ⟨opening, opener, outer⟩ :: blocks ∧
      loop? assembly.statements.reverse opening = some loop ∧
        following = ⟨loop :: outer, blocks⟩ := by
  unfold Assembly.closedLoop at closed
  split at closed
  next opening opener outer blocks shape =>
    split at closed
    next loop found =>
      cases closed
      exact ⟨opening, opener, outer, blocks, loop, shape, found, rfl⟩
    next => cases closed
  next => cases closed

/-- At its end, a loop joins what stands in front of it. -/
theorem reaches_loop {before body : List PlacedClause} {opener closer : Span} {opening : Opening}
    {outer : List Statement} {blocks : List OpenBlock} {ending : Clause} {loop : Statement}
    (outside : Opens before (⟨opening, opener, outer⟩ :: blocks))
    (noBranch : ∀ isElseif condition thenBranch, opening ≠ .branch isElseif condition thenBranch)
    (whole : Forms (⟨opening.clause, opener⟩ :: (body ++ [⟨ending, closer⟩])) [loop]) :
    Reaches (before ++ (body ++ [⟨ending, closer⟩])) ⟨loop :: outer, blocks⟩ := by
  cases outside with
  | opened _ _ outside forms => simpa using reaches_block outside forms whole
  | turned => exact absurd rfl (noBranch _ _ _)
  | chained => exact absurd rfl (noBranch _ _ _)

theorem reaches_next {clauses : List PlacedClause} {assembly following : Assembly}
    {placed : PlacedClause} (reached : Reaches clauses assembly)
    (step : assembly.next placed = .ok following) : Reaches (clauses ++ [placed]) following := by
  obtain ⟨before, inner, rfl, outside, inside⟩ := reached
  obtain ⟨statements, blocks⟩ := assembly
  obtain ⟨clause, span⟩ := placed
  rw [List.append_assoc]
  cases clause with
  | action performed =>
      cases step
      exact reaches_block outside inside (.action performed .nil)
  | «if» condition =>
      cases step
      exact ⟨_, [], (List.append_nil _).symm,
        .opened (.branch false condition none) rfl outside inside, .nil⟩
  | «elseif» other =>
      obtain ⟨reached, turned, opened⟩ := bind_eq_ok.1 step
      cases opened
      obtain ⟨isElseif, condition, opener, outer, others, rfl, rfl⟩ :=
        exists_branch_of_turned turned
      exact ⟨_, [], (List.append_nil _).symm, .chained outside inside, .nil⟩
  | «else» =>
      obtain ⟨isElseif, condition, opener, outer, others, rfl, rfl⟩ := exists_branch_of_turned step
      exact ⟨_, [], (List.append_nil _).symm, .turned outside inside, .nil⟩
  | endif =>
      cases blocks with
      | nil => cases step
      | cons block blocks =>
          obtain ⟨opening, opener, outer⟩ := block
          cases opening with
          | branch isElseif condition thenBranch =>
              cases thenBranch with
              | none => exact reaches_left outside inside .none step
              | some thenBranch =>
                  cases outside with
                  | opened _ fresh _ _ => simp [Opening.isFresh] at fresh
                  | turned outside front =>
                      simpa using reaches_left outside front (.else inside) step
          | _ => cases step
  | foreach binding iterable =>
      cases step
      exact ⟨_, [], (List.append_nil _).symm,
        .opened (.each binding iterable) rfl outside inside, .nil⟩
  | endforeach =>
      obtain ⟨opening, opener, outer, others, loop, rfl, found, rfl⟩ :=
        exists_loop_of_closedLoop step
      cases opening with
      | each binding iterable =>
          cases found
          exact reaches_loop outside (by simp) (.each binding iterable inside .nil)
      | _ => cases found
  | «for» start condition advance =>
      cases step
      exact ⟨_, [], (List.append_nil _).symm,
        .opened (.count start condition advance) rfl outside inside, .nil⟩
  | endfor =>
      obtain ⟨opening, opener, outer, others, loop, rfl, found, rfl⟩ :=
        exists_loop_of_closedLoop step
      cases opening with
      | count start condition advance =>
          cases found
          exact reaches_loop outside (by simp) (.count start condition advance inside .nil)
      | _ => cases found
  | «while» condition =>
      cases step
      exact ⟨_, [], (List.append_nil _).symm, .opened (.repeat condition) rfl outside inside, .nil⟩
  | endwhile =>
      obtain ⟨opening, opener, outer, others, loop, rfl, found, rfl⟩ :=
        exists_loop_of_closedLoop step
      cases opening with
      | «repeat» condition =>
          cases found
          exact reaches_loop outside (by simp) (.repeat condition inside .nil)
      | _ => cases found

theorem reaches_foldlM {clauses later : List PlacedClause} {assembly following : Assembly}
    (reached : Reaches clauses assembly)
    (steps : later.foldlM Assembly.next assembly = .ok following) :
    Reaches (clauses ++ later) following := by
  induction later generalizing clauses assembly with
  | nil =>
      cases steps
      simpa using reached
  | cons placed later inductionHypothesis =>
      rw [List.foldlM_cons] at steps
      obtain ⟨next, step, steps⟩ := bind_eq_ok.1 steps
      simpa using inductionHypothesis (reaches_next reached step) steps

/-! ## What is not assembled -/

/-- The keyword that a clause begins with, if it is no action. -/
def Clause.keyword? : Clause → Option Keyword
  | .action _ => none
  | .if _ => some .if
  | .elseif _ => some .elseif
  | .else => some .else
  | .endif => some .endif
  | .foreach .. => some .foreach
  | .endforeach => some .endforeach
  | .for .. => some .for
  | .endfor => some .endfor
  | .while _ => some .while
  | .endwhile => some .endwhile

/-- An error that blames one of the clauses: it continues or closes a block that is not open, or
nothing closes the block that it opens. -/
def BlamesClause (clauses : List PlacedClause) (error : SyntaxError) : Prop :=
  ∃ placed ∈ clauses, ∃ keyword, placed.clause.keyword? = some keyword ∧
    (error = ⟨.strayClause keyword, placed.span⟩ ∨ error = ⟨.unclosedBlock keyword, placed.span⟩)

theorem eq_stray_of_closedBranch {span : Span} {blocks : List OpenBlock} {error : SyntaxError}
    {statements : List Statement}
    (refused : Assembly.closedBranch span statements blocks = .error error) :
    error = ⟨.strayClause .endif, span⟩ := by
  induction blocks generalizing statements with
  | nil =>
      cases refused
      rfl
  | cons block blocks inductionHypothesis =>
      obtain ⟨opening, opener, outer⟩ := block
      cases opening with
      | branch isElseif condition thenBranch =>
          cases isElseif with
          | false => cases refused
          | true => exact inductionHypothesis refused
      | _ =>
          cases refused
          rfl

theorem eq_stray_of_turned {keyword : Keyword} {span : Span} {assembly : Assembly}
    {error : SyntaxError} (refused : assembly.turned keyword span = .error error) :
    error = ⟨.strayClause keyword, span⟩ := by
  unfold Assembly.turned at refused
  split at refused
  · cases refused
  · cases refused
    rfl

theorem eq_stray_of_closedLoop {keyword : Keyword} {span : Span} {assembly : Assembly}
    {loop? : List Statement → Opening → Option Statement} {error : SyntaxError}
    (refused : assembly.closedLoop keyword span loop? = .error error) :
    error = ⟨.strayClause keyword, span⟩ := by
  unfold Assembly.closedLoop at refused
  split at refused
  · split at refused
    · cases refused
    · cases refused
      rfl
  · cases refused
    rfl

theorem eq_stray_of_next {assembly : Assembly} {placed : PlacedClause} {error : SyntaxError}
    (refused : assembly.next placed = .error error) :
    ∃ keyword, placed.clause.keyword? = some keyword ∧
      error = ⟨.strayClause keyword, placed.span⟩ := by
  obtain ⟨clause, span⟩ := placed
  cases clause with
  | «elseif» condition =>
      cases turned : assembly.turned .elseif span with
      | error stray =>
          rw [Assembly.next, turned] at refused
          cases refused
          exact ⟨.elseif, rfl, eq_stray_of_turned turned⟩
      | ok reached =>
          rw [Assembly.next, turned] at refused
          cases refused
  | «else» => exact ⟨.else, rfl, eq_stray_of_turned refused⟩
  | endif => exact ⟨.endif, rfl, eq_stray_of_closedBranch refused⟩
  | endforeach => exact ⟨.endforeach, rfl, eq_stray_of_closedLoop refused⟩
  | endfor => exact ⟨.endfor, rfl, eq_stray_of_closedLoop refused⟩
  | endwhile => exact ⟨.endwhile, rfl, eq_stray_of_closedLoop refused⟩
  | _ => cases refused

theorem blamesClause_of_foldlM {clauses : List PlacedClause} {assembly : Assembly}
    {error : SyntaxError} (refused : clauses.foldlM Assembly.next assembly = .error error) :
    BlamesClause clauses error := by
  induction clauses generalizing assembly with
  | nil => cases refused
  | cons placed clauses inductionHypothesis =>
      rw [List.foldlM_cons] at refused
      cases step : assembly.next placed with
      | error stray =>
          rw [step] at refused
          cases refused
          obtain ⟨keyword, known, rfl⟩ := eq_stray_of_next step
          exact ⟨placed, List.mem_cons_self, keyword, known, .inl rfl⟩
      | ok next =>
          rw [step] at refused
          obtain ⟨blamed, member, keyword, known, shape⟩ := inductionHypothesis refused
          exact ⟨blamed, List.mem_cons_of_mem _ member, keyword, known, shape⟩

/-- A block was opened by one of the clauses, and not by an `elseif`. -/
def IsOpenedIn (clauses : List PlacedClause) (block : OpenBlock) : Prop :=
  ∃ placed ∈ clauses, placed.clause.keyword? = some block.opening.keyword ∧
    placed.span = block.span

theorem IsOpenedIn.append {clauses : List PlacedClause} {block : OpenBlock}
    (isOpened : IsOpenedIn clauses block) (later : List PlacedClause) :
    IsOpenedIn (clauses ++ later) block := by
  obtain ⟨placed, member, shape⟩ := isOpened
  exact ⟨placed, List.mem_append_left later member, shape⟩

/-- A block that turns to its other branch stays the one that was opened. -/
theorem isOpenedIn_of_turned {clauses : List PlacedClause} {opener : Span} {isElseif : Bool}
    {condition : Expression} {thenBranch outer : List Statement} {blocks : List OpenBlock}
    {block : OpenBlock}
    (isOpened : ∀ {block : OpenBlock},
      (⟨.branch isElseif condition none, opener, outer⟩ :: blocks).getLast? = some block →
        IsOpenedIn clauses block)
    (first : (⟨.branch isElseif condition (some thenBranch), opener, outer⟩ :: blocks).getLast? =
      some block) : IsOpenedIn clauses block := by
  cases blocks with
  | nil =>
      cases first
      have before : IsOpenedIn clauses ⟨.branch isElseif condition none, opener, outer⟩ :=
        isOpened rfl
      exact before
  | cons other blocks => exact isOpened first

/-- The block that was opened first was opened by one of the clauses. -/
theorem Opens.isOpenedIn {clauses : List PlacedClause} {blocks : List OpenBlock}
    {block : OpenBlock} (opens : Opens clauses blocks) (first : blocks.getLast? = some block) :
    IsOpenedIn clauses block := by
  induction opens generalizing block with
  | none => cases first
  | @opened before front opener outer blocks opening fresh outside forms inductionHypothesis =>
      cases blocks with
      | nil =>
          cases first
          refine ⟨⟨opening.clause, opener⟩, by simp, ?_, rfl⟩
          cases opening <;> rfl
      | cons other blocks =>
          rw [List.getLast?_cons_cons] at first
          exact (inductionHypothesis first).append _
  | turned outside inside inductionHypothesis =>
      exact (isOpenedIn_of_turned inductionHypothesis first).append _
  | chained outside inside inductionHypothesis =>
      rw [List.getLast?_cons_cons] at first
      exact (isOpenedIn_of_turned inductionHypothesis first).append _

/-! ## Assembly recognises the grammar -/

/-- What a parser of blocks finds in the clauses of a fragment. -/
structure RecognisesBlocks (clauses : Clauses)
    (parsed : Except SyntaxError (List Statement)) : Prop where
  accepts (statements : List Statement) : parsed = .ok statements ↔
    (∃ length, clauses.ending = .complete length) ∧ Forms clauses.clauses statements
  refuses : (∀ statements, ¬Forms clauses.clauses statements) → ∃ error, parsed = .error error
  blames (error : SyntaxError) : parsed = .error error →
    clauses.ending = .failed error ∨ BlamesClause clauses.clauses error
  /-- On two stacks it finds the same: no scope is ever missing, and one is left at the end. -/
  onStacks : assembleOnStacks clauses = parsed.mapError .malformed

theorem reaches_of_foldlM {clauses : List PlacedClause} {assembly : Assembly}
    (steps : clauses.foldlM Assembly.next ⟨[], []⟩ = .ok assembly) : Reaches clauses assembly :=
  have start : Reaches [] ⟨[], []⟩ := ⟨[], [], rfl, .none, .nil⟩
  reaches_foldlM start steps

theorem finished_of_reaches {clauses : List PlacedClause} {assembly : Assembly}
    (reached : Reaches clauses assembly) :
    (∃ statements, assembly.finished = .ok statements ∧ Forms clauses statements) ∨
      ∃ error, assembly.finished = .error error ∧ BlamesClause clauses error := by
  obtain ⟨before, inner, rfl, outside, inside⟩ := reached
  unfold Assembly.finished
  cases first : assembly.blocks.getLast? with
  | none =>
      have closed : assembly.blocks = [] := List.getLast?_eq_none_iff.1 first
      rw [closed] at outside
      cases outside
      exact .inl ⟨_, rfl, inside⟩
  | some block =>
      obtain ⟨placed, member, known, place⟩ := outside.isOpenedIn first
      exact .inr ⟨_, rfl, placed, List.mem_append_left _ member, _, known, .inr (by rw [place])⟩

theorem Forms.assemble {clauses : Clauses} {statements : List Statement} {length : Nat}
    (forms : Forms clauses.clauses statements) (whole : clauses.ending = .complete length) :
    assemble clauses = .ok statements := by
  have run := forms.foldlM_next [] []
  rw [List.append_nil] at run
  exact assemble_eq_ok_iff.2 ⟨⟨length, whole⟩, run⟩

theorem assemble_ok_or_error (clauses : Clauses) :
    (∃ statements, assemble clauses = .ok statements ∧
      (∃ length, clauses.ending = .complete length) ∧ Forms clauses.clauses statements) ∨
    ∃ error, assemble clauses = .error error ∧
      (clauses.ending = .failed error ∨ BlamesClause clauses.clauses error) := by
  unfold assemble
  cases run : clauses.clauses.foldlM Assembly.next ⟨[], []⟩ with
  | error error => exact .inr ⟨error, rfl, .inr (blamesClause_of_foldlM run)⟩
  | ok assembly =>
      cases ending : clauses.ending with
      | failed error => exact .inr ⟨error, rfl, .inl rfl⟩
      | complete length =>
          rcases finished_of_reaches (reaches_of_foldlM run) with
            ⟨statements, finished, forms⟩ | ⟨error, finished, blames⟩
          · exact .inl ⟨statements, finished, ⟨length, rfl⟩, forms⟩
          · exact .inr ⟨error, finished, .inr blames⟩

theorem recognisesBlocks_assemble (clauses : Clauses) :
    RecognisesBlocks clauses (assemble clauses) := by
  rcases assemble_ok_or_error clauses with
    ⟨found, assembled, whole, forms⟩ | ⟨error, refused, cause⟩
  · refine ⟨fun statements => ⟨?_, ?_⟩, ?_, ?_, assembleOnStacks_eq_mapError clauses⟩
    · intro accepted
      obtain rfl : found = statements := by simpa [assembled] using accepted
      exact ⟨whole, forms⟩
    · rintro ⟨⟨length, ending⟩, derived⟩
      exact derived.assemble ending
    · intro underivable
      exact absurd forms (underivable found)
    · intro error refused
      simp [assembled] at refused
  · refine ⟨fun statements => ⟨?_, ?_⟩, ?_, ?_, assembleOnStacks_eq_mapError clauses⟩
    · intro accepted
      simp [refused] at accepted
    · rintro ⟨⟨length, ending⟩, derived⟩
      exact derived.assemble ending
    · exact fun _ => ⟨error, refused⟩
    · intro other found
      obtain rfl : error = other := by simpa [refused] using found
      exact cause

/-- A fragment is accepted exactly if its statements are derived from the grammar of blocks. -/
theorem recognisesBlocks_parse (source : List Char) :
    RecognisesBlocks (clausesOf source) (parse source) :=
  recognisesBlocks_assemble (clausesOf source)

end ViewTemplate.Fragment
