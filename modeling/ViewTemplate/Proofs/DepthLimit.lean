import ViewTemplate.Proofs.DepthReading
import ViewTemplate.Proofs.FewerLevels

/-!
What the limit on nesting bounds. An expression that is read is less deep than the limit, and one
that is too deep is refused (`obeysLimit_parse`). That bounds the height of an expression but
for the length of its chains, for which there is no limit at all (`not_exists_height_bound`).
-/

namespace ViewTemplate.Fragment

open ViewTemplate.Text

/-! ## Code of expressions -/

/-- Lexemes that an expression is written as, and what their code begins with. -/
structure Spells (expression : Expression) (written : List Lexeme) : Prop where
  lexemes : written.filter (fun lexeme => lexeme.kind ≠ .whitespace) = expression.lexemes
  visible : ∃ first more, codeOf written = first :: more ∧ isSpace first = false
  cut : ∀ rest, Lexes (';' :: rest) written

theorem spells_spaced {expression : Expression} (printable : expression.isPrintable = true) :
    Spells expression (spaced expression.lexemes) := by
  have alone := standAlone_lexemes expression printable
  obtain ⟨first, others, shape⟩ := List.exists_cons_of_ne_nil (lexemes_ne_nil expression)
  refine ⟨filter_spaced alone, ?_, fun rest => lexes_spaced alone (.inr rfl) rest⟩
  rw [shape] at alone ⊢
  exact exists_codeOf_spaced (alone first List.mem_cons_self) others

/-! ## Expressions that are too deep -/

/-- Tokens that would be read as an expression that is too deep, were there levels enough, are
refused. -/
theorem ReadsExpression.exists_tooDeep {levels : Nat} {tokens : List Token} {read : Expression}
    (reads : ReadsExpression levels tokens read) (enough : maxDepth ≤ levels)
    (deep : maxDepth ≤ read.depth) {next : Token} (ends : EndsExpression next.kind)
    (ending : Ending) (rest : List Token) :
    ∃ span, readExpression ending (tokens ++ next :: rest) = .error ⟨.nestedTooDeeply, span⟩ := by
  obtain ⟨left, whole⟩ := reads ending next rest ends
  have cut : CutShort (expressionAt ending levels (tokens ++ next :: rest))
      (readExpression ending (tokens ++ next :: rest)) := cutsShort_expressionAt enough _
  have gives : Gives (fun value _ => value.depth < maxDepth)
      (readExpression ending (tokens ++ next :: rest)) := gives_expressionAt maxDepth _
  rw [whole] at cut
  generalize readExpression ending (tokens ++ next :: rest) = reading at cut gives ⊢
  cases cut with
  | tooDeep span => exact ⟨span, rfl⟩
  | same => exact absurd deep (Nat.not_le.2 (gives.ofReading rfl))

theorem readClauses_echo_of_error {ending : Ending} {echo : Token} {tokens : List Token}
    {error : SyntaxError} (keyword : echo.kind = .keyword .echo)
    (fails : readExpression ending tokens = .error error) :
    readClauses ending true (echo :: tokens) = ⟨[], .failed error⟩ := by
  have refused : readKeywordClause ending echo .echo tokens = .error error := by
    rw [readKeywordClause, fails]
    rfl
  have refused : readClause ending (echo :: tokens) = .error error := by
    rw [readClause, keyword]
    change (readKeywordClause ending echo .echo tokens >>= _) = _
    rw [refused]
    rfl
  rw [readClauses, keyword]
  simp only [refused]

/-- An expression that is printed inside an `echo` is refused if it is too deep. -/
theorem exists_nestedTooDeeply {expression : Expression} (printable : expression.isPrintable = true)
    (deep : maxDepth ≤ expression.depth) :
    ∃ span, parse ("<% echo " ++ expression.code ++ "; %>").toList =
      .error ⟨.nestedTooDeeply, span⟩ := by
  obtain ⟨lexemes, ⟨first, more, starts, visible⟩, cut⟩ := spells_spaced printable
  obtain ⟨echo, tokens, semicolon, shape, keyword, spelled, ends⟩ :=
    exists_significantOf_lexemesOfEcho (spaced expression.lexemes) 2
  obtain ⟨read, same, reads⟩ := (isReadBack expression printable).readsExpression
    (Nat.le_max_left expression.nesting maxDepth) (spelled.trans lexemes)
  have alike : read.depth = expression.depth := by
    rw [← depth_mapSpans noSpan read, ← depth_mapSpans noSpan expression]
    exact congrArg Expression.depth same
  obtain ⟨ending, mark, later, -, clauses, -⟩ := exists_clausesFrom_tagOf 0
    (lexes_lexemesOfEcho starts visible cut [])
  obtain ⟨span, fails⟩ := reads.exists_tooDeep
    (Nat.le_trans (Nat.le_max_right _ _) (Nat.le_succ _)) (alike ▸ deep)
    (ends ▸ endsExpression_semicolon) ending (mark :: later)
  refine ⟨span, ?_⟩
  rw [shape, List.cons_append, List.append_assoc, List.singleton_append,
    readClauses_echo_of_error keyword fails, List.append_nil] at clauses
  rw [Expression.code, tagOf_lexemesOfEcho]
  change assemble (clausesFrom 0 _) = _
  rw [clauses]
  rfl

/-! ## The limit -/

/-- What the limit on nesting means for the expressions of a fragment. -/
structure ObeysLimit (source : List Char) : Prop where
  /-- If the fragment is accepted, no expression in it is too deep, or higher than its depth and the
  length of its chains allow. -/
  accepted {statements : List Statement} : parse source = .ok statements →
    ∀ expression ∈ expressionsOf statements,
      expression.depth < maxDepth ∧
        expression.height ≤ 8 * maxDepth * (expression.longestChain + 1)
  /-- If an expression that is too deep is printed in it, the fragment is refused for that. -/
  refused {expression : Expression} : source = ("<% echo " ++ expression.code ++ "; %>").toList →
    expression.isPrintable = true → maxDepth ≤ expression.depth →
      ∃ span, parse source = .error ⟨.nestedTooDeeply, span⟩

/-- The limit on nesting bounds how deep expressions are, and how high they are if their chains are
not long. -/
theorem obeysLimit_parse (source : List Char) : ObeysLimit source where
  accepted parsed expression member := by
    have shallow := depth_lt_of_parse parsed expression member
    have levels : 8 * (expression.depth + 1) ≤ 8 * maxDepth := Nat.mul_le_mul_left 8 shallow
    exact ⟨shallow, Nat.le_trans (height_le expression) (Nat.mul_le_mul_right _ levels)⟩
  refused written printable deep := by
    rw [written]
    exact exists_nestedTooDeeply printable deep

/-! ## Chains -/

/-- The expression `x . a . a`, with any number of selectors. -/
def selected : (length : Nat) → Expression
  | 0 => .variable ⟨"x", ⟨0, 0⟩⟩
  | length + 1 => .member (selected length) (.field ⟨"a", ⟨0, 0⟩⟩) ⟨0, 0⟩

theorem height_selected (length : Nat) : (selected length).height = length + 1 := by
  induction length with
  | zero => rfl
  | succ length inductionHypothesis => rw [selected, Expression.height, inductionHypothesis]

theorem isPrintable_selected (length : Nat) : (selected length).isPrintable = true := by
  induction length with
  | zero => decide
  | succ length inductionHypothesis =>
      rw [selected, Expression.isPrintable, inductionHypothesis]
      decide

theorem strength_selected (length : Nat) : (selected length).strength = 8 := by
  cases length <;> rfl

theorem nesting_selected (length : Nat) : (selected length).nesting = 0 := by
  induction length with
  | zero => rfl
  | succ length inductionHypothesis =>
      rw [selected, Expression.nesting, enclosedNesting, strength_selected,
        if_neg (Nat.lt_irrefl 8), inductionHypothesis]

/-- Selectors are read in a loop that the limit does not see, so that there are expressions of any
height in fragments that are accepted. -/
theorem not_exists_height_bound :
    ¬∃ bound, ∀ source statements, parse source = .ok statements →
      ∀ expression ∈ expressionsOf statements, expression.height ≤ bound := by
  rintro ⟨bound, bounded⟩
  have printable := isPrintable_selected bound
  obtain ⟨lexemes, ⟨first, more, starts, visible⟩, cut⟩ := spells_spaced printable
  have nested : (selected bound).nesting < maxDepth := by
    rw [nesting_selected]
    decide
  obtain ⟨read, same, parsed⟩ := parse_echo_of_lexes printable nested lexemes starts visible cut
  have low := bounded _ _ parsed read List.mem_cons_self
  have high : read.height = bound + 1 := by
    rw [← height_selected, ← height_mapSpans noSpan read, ← height_mapSpans noSpan (selected bound)]
    exact congrArg Expression.height same
  exact absurd low (by omega)

end ViewTemplate.Fragment
