import ViewTemplate.Proofs.BlockGrammar
import ViewTemplate.Proofs.Reading

/-!
The expressions of a fragment. They are those that its clauses were read with, one after the other
(`expressionsOf_of_parse`); so what holds of every expression that is read holds of all expressions
of a fragment that is accepted (`holds_of_parse`).
-/

namespace ViewTemplate.Fragment

variable {α β : Type}

/-! ## Results -/

/-- A reading fails, or something holds of its result and of the tokens that are left. -/
inductive Gives (Holds : α → List Token → Prop) {fits : List Token → Prop} :
    Except SyntaxError (α × { rest : List Token // fits rest }) → Prop where
  | error {error : SyntaxError} : Gives Holds (.error error)
  | ok {value : α} {rest : { rest : List Token // fits rest }} (holds : Holds value rest.1) :
      Gives Holds (.ok (value, rest))

/-- Something holds of what is read, whatever the tokens are. -/
def GivesReader (Holds : α → Prop) (reader : Reader α) : Prop :=
  ∀ tokens, Gives (fun value _ => Holds value) (reader tokens)

section Results

variable {Holds : α → List Token → Prop} {Holds' : β → List Token → Prop}
  {fits fits' : List Token → Prop}

theorem Gives.bind {reading : Except SyntaxError (α × { rest : List Token // fits rest })}
    {next : α × { rest : List Token // fits rest } →
      Except SyntaxError (β × { rest : List Token // fits' rest })}
    (first : Gives Holds reading)
    (second : ∀ value rest, Holds value rest.1 → Gives Holds' (next (value, rest))) :
    Gives Holds' (reading >>= next) := by
  cases first with
  | error => exact .error
  | ok holds => exact second _ _ holds

theorem Gives.mono {Holds' : α → List Token → Prop}
    {reading : Except SyntaxError (α × { rest : List Token // fits rest })}
    (gives : Gives Holds reading) (weaker : ∀ value rest, Holds value rest → Holds' value rest) :
    Gives Holds' reading := by
  cases gives with
  | error => exact .error
  | ok holds => exact .ok (weaker _ _ holds)

/-- What comes first does not matter if something holds of what is read behind it anyway. -/
theorem gives_bind {γ : Type} {result : Except SyntaxError γ}
    {next : γ → Except SyntaxError (α × { rest : List Token // fits rest })}
    (gives : ∀ value, Gives Holds (next value)) : Gives Holds (result >>= next) := by
  cases result with
  | error error => exact .error
  | ok value => exact gives value

theorem Gives.ofReading {reading : Except SyntaxError (α × { rest : List Token // fits rest })}
    (gives : Gives Holds reading) {value : α} {rest : { rest : List Token // fits rest }}
    (read : reading = .ok (value, rest)) : Holds value rest.1 := by
  rw [read] at gives
  cases gives with
  | ok holds => exact holds

end Results

/-! ## Expressions of clauses and statements -/

def Assignment.expressions (assignment : Assignment) : List Expression :=
  match assignment.action with
  | .set value | .add value | .subtract value => [value]
  | .increment | .decrement => []

def Action.expressions : Action → List Expression
  | .raw _ => []
  | .echo value | .evaluate value => [value]
  | .assign assignment => assignment.expressions

/-- The expressions in the head of a counting loop. -/
def expressionsOfHead (start : Option Assignment) (condition : Option Expression)
    (step : Option Assignment) : List Expression :=
  start.toList.flatMap Assignment.expressions ++ condition.toList ++
    step.toList.flatMap Assignment.expressions

def Clause.expressions : Clause → List Expression
  | .action performed => performed.expressions
  | .if condition | .elseif condition | .while condition => [condition]
  | .foreach _ iterable => [iterable]
  | .for start condition step => expressionsOfHead start condition step
  | .else | .endif | .endforeach | .endfor | .endwhile => []

mutual

/-- The expressions that stand in a statement, those of the statements in it included. Expressions
inside of them are not listed. -/
def Statement.expressions : Statement → List Expression
  | .action performed => performed.expressions
  | .branch condition thenBranch elseBranch =>
      condition :: (expressionsOf thenBranch ++ expressionsOfElse elseBranch)
  | .each _ iterable body => iterable :: expressionsOf body
  | .count start condition step body =>
      expressionsOfHead start condition step ++ expressionsOf body
  | .repeat condition body => condition :: expressionsOf body

def expressionsOf : List Statement → List Expression
  | [] => []
  | statement :: statements => statement.expressions ++ expressionsOf statements

def expressionsOfElse : Option (List Statement) → List Expression
  | none => []
  | some elseBranch => expressionsOf elseBranch

end

/-- The expressions that clauses were read with. -/
def expressionsOfClauses (placed : List PlacedClause) : List Expression :=
  placed.flatMap fun placed => placed.clause.expressions

theorem expressionsOfClauses_append (first second : List PlacedClause) :
    expressionsOfClauses (first ++ second) =
      expressionsOfClauses first ++ expressionsOfClauses second :=
  List.flatMap_append

theorem expressionsOfClauses_cons (clause : Clause) (span : Span) (later : List PlacedClause) :
    expressionsOfClauses (⟨clause, span⟩ :: later) =
      clause.expressions ++ expressionsOfClauses later :=
  List.flatMap_cons

mutual

/-- Assembling clauses keeps their expressions. -/
theorem Forms.expressionsOf_eq {placed : List PlacedClause} {statements : List Statement}
    (forms : Forms placed statements) :
    expressionsOf statements = expressionsOfClauses placed := by
  match forms with
  | .nil => rfl
  | .action performed rest =>
      rw [expressionsOf, rest.expressionsOf_eq, expressionsOfClauses_cons]
      rfl
  | .branch condition inside otherwise rest =>
      rw [expressionsOf, Statement.expressions, inside.expressionsOf_eq,
        otherwise.expressionsOfElse_eq, rest.expressionsOf_eq]
      simp [expressionsOfClauses_append, expressionsOfClauses_cons, Clause.expressions]
  | .each binding iterable inside rest =>
      rw [expressionsOf, Statement.expressions, inside.expressionsOf_eq, rest.expressionsOf_eq]
      simp [expressionsOfClauses_append, expressionsOfClauses_cons, Clause.expressions]
  | .count start condition step inside rest =>
      rw [expressionsOf, Statement.expressions, inside.expressionsOf_eq, rest.expressionsOf_eq]
      simp [expressionsOfClauses_append, expressionsOfClauses_cons, Clause.expressions]
  | .repeat condition inside rest =>
      rw [expressionsOf, Statement.expressions, inside.expressionsOf_eq, rest.expressionsOf_eq]
      simp [expressionsOfClauses_append, expressionsOfClauses_cons, Clause.expressions]

theorem FormsElse.expressionsOfElse_eq {placed : List PlacedClause}
    {elseBranch : Option (List Statement)} (forms : FormsElse placed elseBranch) :
    expressionsOfElse elseBranch = expressionsOfClauses placed := by
  match forms with
  | .none => rfl
  | .else inside =>
      rw [expressionsOfElse, inside.expressionsOf_eq, expressionsOfClauses_cons]
      rfl
  | .elseif condition inside otherwise =>
      rw [expressionsOfElse, expressionsOf, expressionsOf, Statement.expressions,
        inside.expressionsOf_eq, otherwise.expressionsOfElse_eq]
      simp [expressionsOfClauses_append, expressionsOfClauses_cons, Clause.expressions]

end

/-- The expressions of an accepted fragment are those of its clauses. -/
theorem expressionsOf_of_parse {source : List Char} {statements : List Statement}
    (parsed : parse source = .ok statements) :
    expressionsOf statements = expressionsOfClauses (clausesOf source).clauses := by
  rcases assemble_ok_or_error (clausesOf source) with
    ⟨found, assembled, -, forms⟩ | ⟨error, refused, -⟩
  · cases parsed.symm.trans assembled
    exact forms.expressionsOf_eq
  · cases parsed.symm.trans refused

/-! ## Reading clauses -/

theorem expressions_of_valueAssignment? {kind : TokenKind}
    {action : Expression → AssignmentAction} (found : valueAssignment? kind = some action)
    (target : Identifier) (value : Expression) (span : Span) :
    (Assignment.mk target (action value) span).expressions = [value] := by
  unfold valueAssignment? at found
  split at found <;> cases found <;> rfl

theorem expressions_of_stepAssignment? {kind : TokenKind} {action : AssignmentAction}
    (found : stepAssignment? kind = some action) (target : Identifier) (span : Span) :
    (Assignment.mk target action span).expressions = [] := by
  unfold stepAssignment? at found
  split at found <;> cases found <;> rfl

section Clauses

variable {Holds : Expression → Prop} {ending : Ending}
  (gives : GivesReader Holds (readExpression ending))

include gives

theorem gives_readCondition : GivesReader Holds (readCondition ending) := by
  intro tokens
  refine gives_bind fun opening => ?_
  refine (gives _).bind fun condition last holds => ?_
  exact gives_bind fun close => gives_bind fun colon => .ok holds

/-- What is done with the rest of an assignment is fine if it is for all assignments whose
expressions are, and for none. -/
theorem gives_readAssignmentTo? {target : Identifier} {tokens : List Token}
    {Holds' : α → List Token → Prop} {fits : List Token → Prop}
    {next : Option (Assignment × Shorter tokens) →
      Except SyntaxError (α × { rest : List Token // fits rest })}
    (absent : Gives Holds' (next none))
    (assigned : ∀ assignment rest, (∀ value ∈ assignment.expressions, Holds value) →
      Gives Holds' (next (some (assignment, rest)))) :
    Gives Holds' (readAssignmentTo? ending target tokens >>= next) := by
  unfold readAssignmentTo?
  rw [bind_assoc]
  refine gives_bind fun kind => ?_
  split
  next => exact absent
  next kind =>
    split
    next action found =>
      rw [bind_assoc]
      refine gives_bind fun symbol => ?_
      dsimp only
      rw [bind_assoc]
      refine (gives _).bind fun value rest holds => assigned _ _ ?_
      rwa [expressions_of_valueAssignment? found, List.forall_mem_singleton]
    next action _ found =>
      rw [bind_assoc]
      refine gives_bind fun symbol => assigned _ _ ?_
      rw [expressions_of_stepAssignment? found]
      exact List.forall_mem_nil _
    next => exact absent

theorem gives_readAssignment :
    GivesReader (fun assignment => ∀ value ∈ assignment.expressions, Holds value)
      (readAssignment ending) := by
  intro tokens
  refine gives_bind fun ⟨target, behind, shorter⟩ => ?_
  refine gives_readAssignmentTo? gives ?_ fun assignment rest holds => .ok holds
  cases behind <;> exact .error

omit gives in
theorem gives_readUpTo {Holds : α → Prop} {part : Reader α} (gives : GivesReader Holds part)
    (mark : Symbol) :
    GivesReader (fun value? => ∀ value ∈ value?, Holds value) (readUpTo ending mark part) := by
  intro tokens
  refine gives_bind fun kind => ?_
  split
  next => exact gives_bind fun close => .ok (by simp)
  next =>
    refine (gives _).bind fun value behind holds => ?_
    exact gives_bind fun close => .ok (by simpa using holds)

theorem gives_readForeach :
    GivesReader (fun clause => ∀ value ∈ clause.expressions, Holds value)
      (readForeach ending) := by
  intro tokens
  refine gives_bind fun opening => ?_
  refine (gives _).bind fun iterable afterIterable holds => ?_
  exact gives_bind fun word => gives_bind fun binding => gives_bind fun close =>
    gives_bind fun colon => .ok (List.forall_mem_singleton.2 holds)

theorem gives_readFor :
    GivesReader (fun clause => ∀ value ∈ clause.expressions, Holds value) (readFor ending) := by
  intro tokens
  refine gives_bind fun opening => ?_
  refine (gives_readUpTo (gives_readAssignment gives) _ _).bind fun start afterStart starts => ?_
  refine (gives_readUpTo gives _ _).bind fun condition afterCondition holds => ?_
  refine (gives_readUpTo (gives_readAssignment gives) _ _).bind fun step behind steps => ?_
  refine gives_bind fun colon => .ok ?_
  refine List.forall_mem_append.2 ⟨List.forall_mem_append.2 ⟨?_, ?_⟩, ?_⟩
  · exact List.forall_mem_flatMap.2 (by simpa using starts)
  · simpa using holds
  · exact List.forall_mem_flatMap.2 (by simpa using steps)

theorem gives_readKeywordClause (keyword : Token) (word : Keyword) (tokens : List Token) :
    Gives (fun clause _ => ∀ value ∈ clause.expressions, Holds value)
      (readKeywordClause ending keyword word tokens) := by
  cases word with
  | echo =>
      exact (gives tokens).bind fun value rest holds => .ok (List.forall_mem_singleton.2 holds)
  | «if» | «elseif» | «while» =>
      exact (gives_readCondition gives tokens).bind fun condition rest holds =>
        .ok (List.forall_mem_singleton.2 holds)
  | «else» => exact gives_bind fun colon => .ok (List.forall_mem_nil _)
  | foreach => exact (gives_readForeach gives tokens).bind fun clause rest holds => .ok holds
  | «for» => exact (gives_readFor gives tokens).bind fun clause rest holds => .ok holds
  | endif | endforeach | endfor | endwhile => exact .ok (List.forall_mem_nil _)
  | _ => exact .error

theorem gives_readPlainClause :
    GivesReader (fun clause => ∀ value ∈ clause.expressions, Holds value)
      (readPlainClause ending) := by
  intro tokens
  refine (gives tokens).bind fun value behind holds => ?_
  have evaluated : ∀ value' ∈ (Clause.action (.evaluate value)).expressions, Holds value' :=
    List.forall_mem_singleton.2 holds
  cases value with
  | «variable» target =>
      exact gives_readAssignmentTo? gives (.ok evaluated) fun assignment rest holds => .ok holds
  | _ => exact .ok evaluated

theorem gives_readClause :
    GivesReader (fun clause => ∀ value ∈ clause.expressions, Holds value)
      (readClause ending) := by
  intro tokens
  cases tokens with
  | nil => exact gives_readPlainClause gives []
  | cons token tokens =>
      rw [readClause]
      split
      next word isKeyword =>
        split
        next => exact gives_readPlainClause gives _
        next =>
          exact (gives_readKeywordClause gives token word tokens).bind fun clause rest holds =>
            .ok holds
      next => exact gives_readPlainClause gives _

/-! ## Whole fragments -/

theorem holds_of_readClauses (inTag : Bool) (tokens : List Token) :
    ∀ value ∈ expressionsOfClauses (readClauses ending inTag tokens).clauses, Holds value := by
  fun_induction readClauses ending inTag tokens with
  | case1 | case4 | case5 => exact List.forall_mem_nil _
  | case2 token rest raw inductionHypothesis => exact inductionHypothesis
  | case3 token rest tag inductionHypothesis => exact inductionHypothesis
  | case6 token rest tag inductionHypothesis => exact inductionHypothesis
  | case7 token rest comment inductionHypothesis => exact inductionHypothesis
  | case8 token rest semicolon inductionHypothesis => exact inductionHypothesis
  | case9 token rest error fails => exact List.forall_mem_nil _
  | case10 token rest clause behind read _ _ _ inductionHypothesis =>
      rw [Clauses.cons, expressionsOfClauses_cons, List.forall_mem_append]
      exact ⟨(gives_readClause gives (token :: rest)).ofReading read, inductionHypothesis⟩

end Clauses

/-- What holds of every expression that is read holds of all expressions of an accepted fragment. -/
theorem holds_of_parse {Holds : Expression → Prop}
    (gives : ∀ ending, GivesReader Holds (readExpression ending)) {source : List Char}
    {statements : List Statement} (parsed : parse source = .ok statements) :
    ∀ value ∈ expressionsOf statements, Holds value := by
  rw [expressionsOf_of_parse parsed]
  exact holds_of_readClauses (gives _) false _

end ViewTemplate.Fragment
