import Mathlib
import ViewTemplate.Proofs.Literals

/-!
What literals evaluate to. The code `x = …;` with the literal of a value behind the sign is read as
one assignment; carrying it out binds the variable to exactly that value and changes nothing else
(`run_assigned_literal`).
-/

namespace ViewTemplate

open Fragment Text

/-! ## Reading assignments -/

namespace Fragment

/-- The lexemes between the marks of a tag that assigns to a variable what the lexemes of an
expression say. -/
def lexemesOfAssignment (name : String) (written : List Lexeme) : List Lexeme :=
  [space, nameLexeme name, space, Symbol.assign.lexeme, space] ++ written ++
    [Symbol.semicolon.lexeme, space]

theorem tagOf_lexemesOfAssignment (name : String) (written : List Lexeme) :
    ("<% " ++ name ++ " = " ++ String.ofList (codeOf written) ++ "; %>").toList =
      tagOf (lexemesOfAssignment name written) := by
  simp [lexemesOfAssignment, tagOf, codeOf, space, beginTag, endTag, Symbol.lexeme, Symbol.text,
    nameLexeme]

theorem lexes_lexemesOfAssignment {name : String} (named : isName name = true)
    {written : List Lexeme} {first : Char} {more : List Char}
    (starts : codeOf written = first :: more) (visible : isSpace first = false)
    (lexes : ∀ rest, Lexes (';' :: rest) written) (rest : List Char) :
    Lexes (endTag ++ rest) (lexemesOfAssignment name written) := by
  have parts : lexemesOfAssignment name written = [space] ++ ([nameLexeme name] ++ ([space] ++
      ([Symbol.assign.lexeme] ++ ([space] ++
        (written ++ ([Symbol.semicolon.lexeme] ++ [space])))))) := by
    simp [lexemesOfAssignment]
  obtain ⟨letter, others, text, start, -, -⟩ := exists_of_isName named
  have nameVisible := isSpace_eq_false_of_isIdentifierStart start
  simp only [parts, lexes_append]
  refine ⟨?_, lexes_singleton (standsAlone_nameLexeme named) (.inl rfl) _,
    lexes_space (by decide) _, lexes_singleton (standsAlone_symbol .assign) (.inl rfl) _, ?_,
    lexes _, lexes_singleton (standsAlone_symbol .semicolon) (.inl rfl) _,
    lexes_space (by decide) _⟩
  · rw [codeOf_append]
    have code : codeOf [nameLexeme name] = letter :: others := (List.append_nil _).trans text
    rw [code]
    exact lexes_space nameVisible _
  · rw [codeOf_append, starts]
    exact lexes_space visible _

/-- The tokens of the tag are a name, a sign, those that spell the expression, and a semicolon. -/
theorem exists_significantOf_lexemesOfAssignment (name : String) (written : List Lexeme)
    (offset : Nat) :
    ∃ target sign tokens semicolon,
      significantOf (place offset (lexemesOfAssignment name written)) =
          target :: sign :: (tokens ++ [semicolon]) ∧
        target.lexeme = nameLexeme name ∧ sign.kind = .symbol .assign ∧
          tokens.map Token.lexeme = written.filter (fun lexeme => lexeme.kind ≠ .whitespace) ∧
            semicolon.kind = .symbol .semicolon := by
  rw [lexemesOfAssignment, place_append, place_append, significantOf_append, significantOf_append]
  refine ⟨_, _, significantOf (place _ written), _, rfl, rfl, rfl, ?_, rfl⟩
  rw [lexeme_significantOf_place]

theorem readClauses_assignment {ending : Ending} {target sign semicolon mark : Token}
    {tokens rest : List Token} {read : Expression} (named : target.kind = .identifier)
    (assigns : sign.kind = .symbol .assign) (reads : ReadsExpression maxDepth tokens read)
    (ends : semicolon.kind = .symbol .semicolon) (closed : mark.kind = .endTag) :
    readClauses ending true (target :: sign :: (tokens ++ semicolon :: mark :: rest)) =
      (readClauses ending false rest).cons
        ⟨.action (.assign ⟨target.identifier, .set read,
          target.identifier.span.cover read.span⟩), target.span⟩ := by
  have endsTarget : EndsExpression sign.kind := by
    rw [assigns]
    constructor <;> decide
  have variablePrimary : ReadsPrimary 127 [target] (.variable target.identifier) :=
    readsPrimary_variable named
  have variableRead : Leaves
      (readExpression ending (target :: sign :: (tokens ++ semicolon :: mark :: rest)))
      (.variable target.identifier) (sign :: (tokens ++ semicolon :: mark :: rest)) :=
    (variablePrimary.readsAtStrength 8).readsExpression (by decide) ending sign _ endsTarget
  have valueRead : Leaves (readExpression ending (tokens ++ semicolon :: mark :: rest)) read
      (semicolon :: mark :: rest) :=
    reads ending semicolon (mark :: rest) (ends ▸ endsExpression_semicolon)
  have assignmentRead : ∃ proof, readAssignmentTo? ending target.identifier
      (sign :: (tokens ++ semicolon :: mark :: rest)) =
        .ok (some (⟨target.identifier, .set read, target.identifier.span.cover read.span⟩,
          ⟨semicolon :: mark :: rest, proof⟩)) := by
    obtain ⟨proof, valueRead⟩ := valueRead
    refine ⟨Nat.lt_succ_of_lt proof, ?_⟩
    rw [readAssignmentTo?]
    simp only [peek, bind, Except.bind, assigns, valueAssignment?, readAny, Shorter.tail,
      valueRead]
    rfl
  have clauseRead : Leaves
      (readClause ending (target :: sign :: (tokens ++ semicolon :: mark :: rest)))
      (.action (.assign ⟨target.identifier, .set read,
        target.identifier.span.cover read.span⟩)) (semicolon :: mark :: rest) := by
    rw [readClause, named]
    refine variableRead.bind fun proof => ?_
    obtain ⟨proof, assignmentRead⟩ := assignmentRead
    simp only [assignmentRead, bind, Except.bind]
    exact leaves_pure _ _
  rw [readClauses_clause (by simp [named]) (by simp [named]) (by simp [named]) clauseRead,
    readClauses_semicolon ends, readClauses_endTag closed]

/-- Code that is cut into the lexemes of an expression, but for white space, is read behind a name
and a sign as the assignment of that expression. -/
theorem parse_assignment_of_lexes {name : String} (named : isName name = true)
    {expression : Expression} (printable : expression.isPrintable = true)
    (nested : expression.nesting < maxDepth) {written : List Lexeme}
    (spells : written.filter (fun lexeme => lexeme.kind ≠ .whitespace) = expression.lexemes)
    {first : Char} {more : List Char} (starts : codeOf written = first :: more)
    (visible : isSpace first = false) (lexes : ∀ rest, Lexes (';' :: rest) written) :
    ∃ (target : Identifier) (read : Expression) (span : Span),
      target.name = name ∧ read.bare = expression.bare ∧
        parse ("<% " ++ name ++ " = " ++ String.ofList (codeOf written) ++ "; %>").toList =
          .ok [.action (.assign ⟨target, .set read, span⟩)] := by
  obtain ⟨target, sign, tokens, semicolon, shape, isTarget, assigns, spelled, ends⟩ :=
    exists_significantOf_lexemesOfAssignment name written 2
  obtain ⟨read, same, reads⟩ := (isReadBack expression printable).readsExpression
    (Nat.le_of_lt_succ nested) (spelled.trans spells)
  have called : target.identifier.name = name := Token.name_identifier isTarget
  have clauses : clausesFrom 0 (tagOf (lexemesOfAssignment name written) ++ []) =
      (clausesFrom (0 + byteLength (tagOf (lexemesOfAssignment name written))) []).cons
        ⟨.action (.assign ⟨target.identifier, .set read,
          target.identifier.span.cover read.span⟩), target.span⟩ := by
    have cut := lexes_lexemesOfAssignment named starts visible lexes []
    refine clausesFrom_tagOf (Clauses.cons _) cut
      fun ending mark rest closed => ?_
    rw [shape, List.cons_append, List.cons_append, List.append_assoc, List.singleton_append]
    exact readClauses_assignment (congrArg Lexeme.kind isTarget) assigns reads ends closed
  refine ⟨target.identifier, read, target.identifier.span.cover read.span, called, same, ?_⟩
  rw [List.append_nil, clausesFrom_nil] at clauses
  rw [tagOf_lexemesOfAssignment]
  change assemble (clausesFrom 0 (tagOf (lexemesOfAssignment name written))) = _
  rw [clauses]
  rfl

end Fragment

/-! ## Evaluation -/

namespace RenderContext

variable {σ : Type} (context : RenderContext σ (Render σ)) (scope : Entries Value)

/-- An expression evaluates to a value, at whatever bytes it stands. -/
def Denotes (expression : Expression) (value : Value) : Prop :=
  ∀ read : Expression, read.bare = expression.bare →
    context.evaluate scope read = (pure value : Render σ Value)

variable {context scope}

theorem denotes_literal (literal : Literal) (span : Span) :
    context.Denotes scope (.literal literal span) literal.value := by
  intro read same
  cases read with
  | literal other bytes =>
      simp only [Expression.bare, Expression.mapSpans, Expression.literal.injEq] at same
      obtain ⟨rfl, -⟩ := same
      rw [evaluate.eq_def]
      rfl
  | _ => simp [Expression.bare, Expression.mapSpans] at same

theorem Denotes.negate {expression : Expression} {number : Int64}
    (denotes : context.Denotes scope expression (.integer (-number)))
    (writable : (Value.integer number).isWritable = true) (span : Span) :
    context.Denotes scope (.unary .negate expression span) (.integer number) := by
  intro read same
  have opposite := Value.toInt_neg_of_writable writable
  have negated : Value.applyUnary .negate (.integer (-number)) = .ok (.integer number) := by
    have exact : -(-number).toInt = number.toInt := by omega
    have fits : Value.fits number.toInt = true := by
      rw [Value.fits, Bool.and_eq_true, decide_eq_true_eq, decide_eq_true_eq]
      exact ⟨number.minValue_le_toInt, number.toInt_le⟩
    rw [Value.applyUnary, exact, Value.checked, if_pos fits, Int64.ofInt_toInt]
  cases read with
  | unary operator operand bytes =>
      simp only [Expression.bare, Expression.mapSpans, Expression.unary.injEq] at same
      obtain ⟨rfl, operands, -⟩ := same
      rw [evaluate.eq_def]
      simp only [path?, denotes operand operands, pure_bind, negated]
      rfl
  | _ => simp [Expression.bare, Expression.mapSpans] at same

theorem evaluateAll_of_denotes {expressions : List Expression} {values : List Value}
    (denotes : List.Forall₂ (context.Denotes scope) expressions values) {reads : List Expression}
    (same : mapSpansAll noSpan reads = mapSpansAll noSpan expressions) :
    context.evaluateAll scope reads = (pure values : Render σ (List Value)) := by
  induction denotes generalizing reads with
  | nil =>
      cases reads with
      | nil => rfl
      | cons read reads => cases same
  | cons first others inductionHypothesis =>
      cases reads with
      | nil => cases same
      | cons read reads =>
          obtain ⟨here, later⟩ := List.cons.inj same
          rw [evaluateAll, first read here, inductionHypothesis later]
          rfl

theorem evaluateEntries_of_denotes {entries : List (Expression × Expression)}
    {pairs : List (String × Value)}
    (denotes : List.Forall₂ (fun entry pair => context.Denotes scope entry.1 (.string pair.1) ∧
      context.Denotes scope entry.2 pair.2) entries pairs)
    {reads : List (Expression × Expression)}
    (same : mapSpansEntries noSpan reads = mapSpansEntries noSpan entries) :
    context.evaluateEntries scope reads = (pure pairs : Render σ (List (String × Value))) := by
  induction denotes generalizing reads with
  | nil =>
      cases reads with
      | nil => rfl
      | cons read reads => cases same
  | cons first others inductionHypothesis =>
      obtain ⟨key, value⟩ := first
      cases reads with
      | nil => cases same
      | cons read reads =>
          obtain ⟨here, later⟩ := List.cons.inj same
          obtain ⟨keys, values⟩ := Prod.mk.inj here
          rw [evaluateEntries, key read.1 keys, value read.2 values, inductionHypothesis later]
          rfl

theorem denotes_literalExpressions {items : List Value}
    (denotes : ∀ item ∈ items, context.Denotes scope item.literalExpression item) :
    List.Forall₂ (context.Denotes scope) (Value.literalExpressions items) items := by
  induction items with
  | nil => exact .nil
  | cons item items inductionHypothesis =>
      obtain ⟨first, others⟩ := List.forall_mem_cons.1 denotes
      exact .cons first (inductionHypothesis others)

theorem denotes_literalEntries {entries : List (String × Value)}
    (denotes : ∀ entry ∈ entries, context.Denotes scope entry.2.literalExpression entry.2) :
    List.Forall₂ (fun entry pair => context.Denotes scope entry.1 (.string pair.1) ∧
      context.Denotes scope entry.2 pair.2) (Value.literalEntries entries) entries := by
  induction entries with
  | nil => exact .nil
  | cons entry entries inductionHypothesis =>
      obtain ⟨first, others⟩ := List.forall_mem_cons.1 denotes
      exact .cons ⟨denotes_literal (.string entry.1) ⟨0, 0⟩, first⟩ (inductionHypothesis others)

/-- The expression of a literal evaluates to its value in every scope. -/
theorem denotes_literalExpression (value : Value) (writable : value.isWritable = true)
    (ordered : value.IsOrdered) : context.Denotes scope value.literalExpression value := by
  induction value using Value.inductionOn with
  | none => exact denotes_literal .null ⟨0, 0⟩
  | bool truth => exact denotes_literal (.bool truth) ⟨0, 0⟩
  | float number => cases writable
  | string text => exact denotes_literal (.string text) ⟨0, 0⟩
  | integer number =>
      rw [Value.literalExpression]
      split
      next => exact (denotes_literal (.integer (-number)) ⟨0, 0⟩).negate writable ⟨0, 0⟩
      next => exact denotes_literal (.integer number) ⟨0, 0⟩
  | list items inductionHypothesis =>
      have writable := Value.areAllWritable_iff.1 writable
      have ordered := Value.areAllOrdered_iff.1 ordered
      intro read same
      cases read with
      | list reads span =>
          obtain ⟨same, -⟩ := Expression.list.inj same
          have values : context.evaluateAll scope reads = (pure items : Render σ (List Value)) :=
            evaluateAll_of_denotes (denotes_literalExpressions fun item member =>
              inductionHypothesis item member (writable item member) (ordered item member)) same
          rw [evaluate.eq_def]
          simp only [path?, values]
          rfl
      | _ => cases same
  | map entries inductionHypothesis =>
      have writable := Value.areEntriesWritable_iff.1 (Bool.and_eq_true_iff.1 writable).2
      obtain ⟨ascending, ordered⟩ := ordered
      have ordered := Value.areEntriesOrdered_iff.1 ordered
      intro read same
      cases read with
      | map reads span =>
          obtain ⟨same, -⟩ := Expression.map.inj same
          have pairs : context.evaluateEntries scope reads =
              (pure entries : Render σ (List (String × Value))) :=
            evaluateEntries_of_denotes (denotes_literalEntries fun entry member =>
              inductionHypothesis entry member (writable entry member) (ordered entry member)) same
          have itself : Value.ofPairs entries = .map entries :=
            congrArg Value.map (Entries.ofPairs_of_ascending ascending)
          rw [evaluate.eq_def]
          simp only [path?, pairs, pure_bind, itself]
      | _ => cases same

end RenderContext

/-! ## Assignments -/

/-- A fragment that assigns the literal of a value to a variable. -/
def assigningFragment (name : String) (value : Value) : String :=
  "<% " ++ name ++ " = " ++ value.literal ++ "; %>"

section Assigning

variable {name : String} {value : Value} (named : isName name = true)
  (writable : value.isWritable = true)

include named writable

theorem parse_assigningFragment (low : value.height ≤ 100) :
    ∃ (target : Identifier) (read : Expression) (span : Span),
      target.name = name ∧ read.bare = value.literalExpression.bare ∧
        parse (assigningFragment name value).toList =
          .ok [.action (.assign ⟨target, .set read, span⟩)] := by
  have printable := isPrintable_literalExpression value writable
  have nested : value.literalExpression.nesting < maxDepth := by
    have deep := nesting_literalExpression_le value
    have levels : maxDepth = 128 := rfl
    omega
  have spells := filter_laidOut fun lexeme member =>
    (standAlone_lexemes value.literalExpression printable lexeme member).visible
  obtain ⟨first, more, starts, visible⟩ := exists_codeOf_literal writable
  have parsed := parse_assignment_of_lexes named printable nested spells starts visible
    fun rest => isCutOff value writable ';' rest (.inr (.inr rfl))
  rwa [codeOf_laidOut_literal value writable, String.ofList_toList] at parsed

/-- Literals denote their values: in every scope the fragment that assigns the literal of a value
compiles and is carried out without an error. Then the variable has exactly that value, all others
have the values that they had, and nothing was output. -/
theorem run_assigned_literal (ordered : value.IsOrdered) (low : value.height ≤ 100) :
    ∃ program, Program.compile (assigningFragment name value) = .ok program ∧
      ∀ {σ : Type} (context : RenderContext σ (Render σ)) (scope : Entries Value) (fuel : Nat),
        2 ≤ fuel → ∃ frame : RenderFrame,
          context.run program.instructions fuel (RenderFrame.initial scope) =
              (pure frame : Render σ RenderFrame) ∧
            frame.page.scope.lookup name = some value ∧
            (∀ other, other ≠ name → frame.page.scope.lookup other = scope.lookup other) ∧
            frame.page.output = "" := by
  obtain ⟨target, read, span, called, same, parsed⟩ :=
    parse_assigningFragment named writable low
  have compiled : Program.compile (assigningFragment name value) =
      .ok ⟨assigningFragment name value,
        instructionsOf ([Action.assign ⟨target, .set read, span⟩].map .action)⟩ := by
    rw [Program.compile, parsed]
    rfl
  refine ⟨_, compiled, fun context scope fuel enough => ?_⟩
  have stands := standsAt_instructionsOf ([Action.assign ⟨target, .set read, span⟩].map .action)
  rw [layoutAll_actions] at stands
  have evaluated : context.evaluate scope read = (pure value : Render _ Value) :=
    RenderContext.denotes_literalExpression value writable ordered read same
  have performed : context.perform (Page.initial scope) (.assign ⟨target, .set read, span⟩) =
      (pure ⟨Entries.put name value scope, ""⟩ : Render _ Page) := by
    rw [← called]
    change (context.evaluate scope read >>= fun value =>
      pure ((Page.initial scope).bind target.name value)) = _
    rw [evaluated, pure_bind]
    rfl
  refine ⟨⟨1, [], ⟨Entries.put name value scope, ""⟩⟩, ?_, ?_, fun other different => ?_, rfl⟩
  · rw [RenderFrame.initial, RenderContext.run_actions stands rfl enough, List.foldlM_cons,
      performed, pure_bind, List.foldlM_nil, pure_bind]
    rfl
  · rw [Entries.lookup_put, if_pos rfl]
  · rw [Entries.lookup_put, if_neg different]

end Assigning

/-- A value whose literal is
`[-9223372036854775807, ['' => null, 'it\'s' => '\\\'%>'], ['k' => ['0' => []]], false]`. -/
def nestedValue : Value :=
  .list [.integer (-9223372036854775807), .map [("", .none), ("it's", .string "\\'%>")],
    .map [("k", .map [("0", .list [])])], .bool false]

theorem run_assigned_literal_nestedValue :
    isName "x" = true ∧ nestedValue.isWritable = true ∧ nestedValue.IsOrdered ∧
      nestedValue.height ≤ 100 ∧
      ∃ program, Program.compile (assigningFragment "x" nestedValue) = .ok program ∧
        ∀ {σ : Type} (context : RenderContext σ (Render σ)) (scope : Entries Value) (fuel : Nat),
          2 ≤ fuel → ∃ frame : RenderFrame,
            context.run program.instructions fuel (RenderFrame.initial scope) =
                (pure frame : Render σ RenderFrame) ∧
              frame.page.scope.lookup "x" = some nestedValue ∧
              (∀ other, other ≠ "x" → frame.page.scope.lookup other = scope.lookup other) ∧
              frame.page.output = "" := by
  have named : isName "x" = true := by decide
  have writable : nestedValue.isWritable = true := by decide
  have ordered : nestedValue.IsOrdered := by
    have keys : Entries.Ascending [("", Value.none), ("it's", .string "\\'%>")] :=
      .cons (by decide) (.cons (by decide) .nil)
    have inner : (Value.map [("0", .list [])]).IsOrdered :=
      ⟨.cons (by decide) .nil, trivial, trivial⟩
    exact ⟨trivial, ⟨keys, trivial, trivial, trivial⟩, ⟨.cons (by decide) .nil, inner, trivial⟩,
      trivial, trivial⟩
  have low : nestedValue.height ≤ 100 := by decide
  exact ⟨named, writable, ordered, low, run_assigned_literal named writable ordered low⟩

end ViewTemplate
