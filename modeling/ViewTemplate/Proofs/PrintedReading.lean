import ViewTemplate.Proofs.Spans
import ViewTemplate.Proofs.TokenReading

/-!
Reading is the inverse of printing: an expression that is printed inside an `echo` is read as the
same expression (`parse_echo_code`). By induction on the expression, the tokens that spell it are
read as it wherever the place they stand in asks for no more than its strength.
-/

namespace ViewTemplate.Fragment

open ViewTemplate.Text

/-! ## Printed expressions -/

def noSpan (_ : Span) : Span := ⟨0, 0⟩

/-- An expression without the bytes that it was written in. -/
def Expression.bare (expression : Expression) : Expression :=
  expression.mapSpans noSpan

/-- Tokens that spell the expression are read as it. -/
def IsReadBack (expression : Expression) : Prop :=
  ∀ levels tokens, expression.nesting ≤ levels → tokens.map Token.lexeme = expression.lexemes →
    ∃ read, read.bare = expression.bare ∧ ReadsAtStrength levels tokens read expression.strength

theorem Token.kind_of_lexeme {token : Token} {lexeme : Lexeme} (spelled : token.lexeme = lexeme) :
    token.kind = lexeme.kind :=
  congrArg Lexeme.kind spelled

theorem Token.name_identifier {token : Token} {name : String}
    (spelled : token.lexeme = nameLexeme name) : token.identifier.name = name := by
  rw [Token.identifier, show token.text = name.toList from congrArg Lexeme.text spelled,
    String.ofList_toList]

/-- Tokens that spell lexemes between two others. -/
theorem exists_enclosed {tokens : List Token} {first last : Lexeme} {lexemes : List Lexeme}
    (spelled : tokens.map Token.lexeme = first :: (lexemes ++ [last])) :
    ∃ opening inner close, tokens = opening :: (inner ++ [close]) ∧ opening.lexeme = first ∧
      inner.map Token.lexeme = lexemes ∧ close.lexeme = last := by
  obtain ⟨opening, behind, rfl, opens, inside⟩ := List.map_eq_cons_iff.1 spelled
  obtain ⟨inner, closing, rfl, innerSpelled, ends⟩ := List.map_eq_append_iff.1 inside
  obtain ⟨close, rfl, closes⟩ := List.map_eq_singleton_iff.1 ends
  exact ⟨opening, inner, close, rfl, opens, innerSpelled, closes⟩

theorem exists_eq_succ_of_lt {nesting levels : Nat} (nested : nesting < levels) :
    ∃ fewer, levels = fewer + 1 :=
  ⟨levels - 1, by omega⟩

theorem strength_pos (expression : Expression) : 0 < expression.strength := by
  cases expression with
  | binary operator left right span => cases operator <;> exact Nat.zero_lt_succ _
  | _ => exact Nat.zero_lt_succ _

section Printed

variable {expression : Expression} {levels : Nat} {tokens : List Token}

theorem IsReadBack.readsExpression (back : IsReadBack expression)
    (nested : expression.nesting ≤ levels)
    (spelled : tokens.map Token.lexeme = expression.lexemes) :
    ∃ read, read.bare = expression.bare ∧ ReadsExpression (levels + 1) tokens read := by
  obtain ⟨read, same, reads⟩ := back levels tokens nested spelled
  exact ⟨read, same, reads.readsExpression (strength_pos expression)⟩

/-- In parentheses where it needs them, an expression is read back as strong enough. -/
theorem IsReadBack.enclosed (back : IsReadBack expression) {least : Nat}
    (nested : enclosedNesting least expression expression.nesting ≤ levels)
    (spelled : tokens.map Token.lexeme = enclosed least expression expression.lexemes) :
    ∃ read, read.bare = expression.bare ∧ ReadsAtStrength levels tokens read least := by
  unfold Fragment.enclosed at spelled
  unfold enclosedNesting at nested
  split at spelled
  next weak =>
    rw [if_pos weak] at nested
    obtain ⟨levels, rfl⟩ : ∃ fewer, levels = fewer + 1 := ⟨levels - 1, by omega⟩
    obtain ⟨opening, inner, close, rfl, opens, innerSpelled, closes⟩ := exists_enclosed spelled
    obtain ⟨read, same, reads⟩ :=
      back.readsExpression (Nat.le_of_succ_le_succ nested) innerSpelled
    have primary := readsPrimary_parentheses (Token.kind_of_lexeme opens) reads
      (Token.kind_of_lexeme closes)
    exact ⟨read, same, primary.readsAtStrength least⟩
  next strong =>
    rw [if_neg strong] at nested
    obtain ⟨read, same, reads⟩ := back levels tokens nested spelled
    exact ⟨read, same, reads.mono (Nat.not_lt.1 strong)⟩

theorem exists_readsOthers {expressions : List Expression}
    (back : ∀ expression ∈ expressions, IsReadBack expression)
    (nested : nestingOfAll expressions ≤ levels)
    (spelled : tokens.map Token.lexeme = lexemesOfOthers expressions) :
    ∃ reads, mapSpansAll noSpan reads = mapSpansAll noSpan expressions ∧
      ReadsOthers (levels + 1) tokens reads := by
  induction expressions generalizing tokens with
  | nil =>
      obtain rfl := List.map_eq_nil_iff.1 spelled
      exact ⟨[], rfl, .nil⟩
  | cons item items inductionHypothesis =>
      obtain ⟨itemBack, back⟩ := List.forall_mem_cons.1 back
      obtain ⟨itemNested, nested⟩ := Nat.max_le.1 nested
      obtain ⟨comma, behind, rfl, separates, rest⟩ := List.map_eq_cons_iff.1 spelled
      obtain ⟨first, later, rfl, itemSpelled, othersSpelled⟩ := List.map_eq_append_iff.1 rest
      obtain ⟨read, same, reads⟩ := itemBack.readsExpression itemNested itemSpelled
      obtain ⟨others, alike, readsOthers⟩ := inductionHypothesis back nested othersSpelled
      refine ⟨read :: others, ?_, .cons (Token.kind_of_lexeme separates) reads readsOthers⟩
      rw [mapSpansAll, mapSpansAll, alike]
      exact congrArg (List.cons · _) same

theorem exists_readsAll {expressions : List Expression}
    (back : ∀ expression ∈ expressions, IsReadBack expression)
    (nested : nestingOfAll expressions ≤ levels)
    (spelled : tokens.map Token.lexeme = lexemesOfAll expressions) :
    ∃ reads, mapSpansAll noSpan reads = mapSpansAll noSpan expressions ∧
      ReadsAll (levels + 1) tokens reads := by
  cases expressions with
  | nil =>
      obtain rfl := List.map_eq_nil_iff.1 spelled
      exact ⟨[], rfl, .nil⟩
  | cons item items =>
      obtain ⟨itemBack, back⟩ := List.forall_mem_cons.1 back
      obtain ⟨itemNested, nested⟩ := Nat.max_le.1 nested
      obtain ⟨first, later, rfl, itemSpelled, othersSpelled⟩ := List.map_eq_append_iff.1 spelled
      obtain ⟨read, same, reads⟩ := itemBack.readsExpression itemNested itemSpelled
      obtain ⟨others, alike, readsOthers⟩ := exists_readsOthers back nested othersSpelled
      refine ⟨read :: others, ?_, .cons reads readsOthers⟩
      rw [mapSpansAll, mapSpansAll, alike]
      exact congrArg (List.cons · _) same

theorem exists_readsOtherEntries {entries : List (Expression × Expression)}
    (back : ∀ entry ∈ entries, IsReadBack entry.1 ∧ IsReadBack entry.2)
    (nested : nestingOfEntries entries ≤ levels)
    (spelled : tokens.map Token.lexeme = lexemesOfOtherEntries entries) :
    ∃ reads, mapSpansEntries noSpan reads = mapSpansEntries noSpan entries ∧
      ReadsOtherEntries (levels + 1) tokens reads := by
  induction entries generalizing tokens with
  | nil =>
      obtain rfl := List.map_eq_nil_iff.1 spelled
      exact ⟨[], rfl, .nil⟩
  | cons entry entries inductionHypothesis =>
      obtain ⟨key, value⟩ := entry
      obtain ⟨⟨keyBack, valueBack⟩, back⟩ := List.forall_mem_cons.1 back
      obtain ⟨both, nested⟩ := Nat.max_le.1 nested
      obtain ⟨keyNested, valueNested⟩ := Nat.max_le.1 both
      obtain ⟨comma, behind, rfl, separates, rest⟩ := List.map_eq_cons_iff.1 spelled
      obtain ⟨left, joined, rfl, keySpelled, rest⟩ := List.map_eq_append_iff.1 rest
      obtain ⟨arrow, behind, rfl, joins, rest⟩ := List.map_eq_cons_iff.1 rest
      obtain ⟨right, later, rfl, valueSpelled, othersSpelled⟩ := List.map_eq_append_iff.1 rest
      obtain ⟨readKey, sameKey, readsKey⟩ := keyBack.readsExpression keyNested keySpelled
      obtain ⟨readValue, sameValue, readsValue⟩ :=
        valueBack.readsExpression valueNested valueSpelled
      obtain ⟨others, alike, readsOthers⟩ := inductionHypothesis back nested othersSpelled
      refine ⟨(readKey, readValue) :: others, ?_, .cons (Token.kind_of_lexeme separates) readsKey
        (Token.kind_of_lexeme joins) readsValue readsOthers⟩
      rw [mapSpansEntries, mapSpansEntries, alike]
      have both : (readKey.bare, readValue.bare) = (key.bare, value.bare) := by
        rw [sameKey, sameValue]
      exact congrArg (List.cons · _) both

end Printed

theorem Identifier.mapSpan_of_lexeme {token : Token} {name : String}
    (spelled : token.lexeme = nameLexeme name) (span : Span) :
    token.identifier.mapSpan noSpan = (Identifier.mk name span).mapSpan noSpan := by
  have text : token.text = name.toList := congrArg Lexeme.text spelled
  rw [Identifier.mapSpan, Identifier.mapSpan, Token.identifier, text, String.ofList_toList]
  rfl

theorem isReadBack_literal {literal : Literal} (printable : literal.isPrintable = true)
    (span : Span) : IsReadBack (.literal literal span) := by
  intro levels tokens nested spelled
  obtain ⟨token, rfl, alone⟩ := List.map_eq_singleton_iff.1 spelled
  refine ⟨.literal literal token.span, rfl, ?_⟩
  exact (readsPrimary_literal printable alone).readsAtStrength 8

theorem isReadBack_variable (identifier : Identifier) : IsReadBack (.variable identifier) := by
  intro levels tokens nested spelled
  obtain ⟨token, rfl, alone⟩ := List.map_eq_singleton_iff.1 spelled
  refine ⟨.variable token.identifier, ?_, ?_⟩
  · exact congrArg Expression.variable (Identifier.mapSpan_of_lexeme alone identifier.span)
  · exact (readsPrimary_variable (Token.kind_of_lexeme alone)).readsAtStrength 8

section Lists

variable {items : List Expression} (back : ∀ item ∈ items, IsReadBack item) (span : Span)
include back

theorem isReadBack_list : IsReadBack (.list items span) := by
  intro levels tokens nested spelled
  obtain ⟨levels, rfl⟩ := exists_eq_succ_of_lt nested
  obtain ⟨opening, inner, close, rfl, opens, innerSpelled, closes⟩ := exists_enclosed spelled
  obtain ⟨reads, same, readsAll⟩ :=
    exists_readsAll back (Nat.le_of_succ_le_succ nested) innerSpelled
  refine ⟨.list reads (opening.span.cover close.span), ?_, ?_⟩
  · simp only [Expression.bare, Expression.mapSpans, same]
    rfl
  · exact (readsPrimary_list (Token.kind_of_lexeme opens) readsAll
      (Token.kind_of_lexeme closes)).readsAtStrength 8

theorem isReadBack_call (function : Identifier) : IsReadBack (.call function items span) := by
  intro levels tokens nested spelled
  obtain ⟨levels, rfl⟩ := exists_eq_succ_of_lt nested
  obtain ⟨name, behind, rfl, named, rest⟩ := List.map_eq_cons_iff.1 spelled
  obtain ⟨opening, inner, close, rfl, opens, innerSpelled, closes⟩ := exists_enclosed rest
  obtain ⟨reads, same, readsAll⟩ :=
    exists_readsAll back (Nat.le_of_succ_le_succ nested) innerSpelled
  refine ⟨.call name.identifier reads (name.span.cover close.span), ?_, ?_⟩
  · have alike := Identifier.mapSpan_of_lexeme named function.span
    simp only [Expression.bare, Expression.mapSpans, same, alike]
    rfl
  · exact (readsPrimary_call (Token.kind_of_lexeme named) (Token.kind_of_lexeme opens) readsAll
      (Token.kind_of_lexeme closes)).readsAtStrength 8

theorem isReadBack_method (method : Identifier) : IsReadBack (.method method items span) := by
  intro levels tokens nested spelled
  obtain ⟨levels, rfl⟩ := exists_eq_succ_of_lt nested
  obtain ⟨environment, behind, rfl, target, rest⟩ := List.map_eq_cons_iff.1 spelled
  obtain ⟨dot, behind, rfl, selects, rest⟩ := List.map_eq_cons_iff.1 rest
  obtain ⟨name, behind, rfl, named, rest⟩ := List.map_eq_cons_iff.1 rest
  obtain ⟨opening, inner, close, rfl, opens, innerSpelled, closes⟩ := exists_enclosed rest
  obtain ⟨reads, same, readsAll⟩ :=
    exists_readsAll back (Nat.le_of_succ_le_succ nested) innerSpelled
  refine ⟨.method name.identifier reads (environment.span.cover close.span), ?_, ?_⟩
  · have alike := Identifier.mapSpan_of_lexeme named method.span
    simp only [Expression.bare, Expression.mapSpans, same, alike]
    rfl
  · have environmentText : String.ofList environment.text = environmentName := by
      have text : environment.text = environmentName.toList := congrArg Lexeme.text target
      rw [text, String.ofList_toList]
    exact (readsPrimary_method (Token.kind_of_lexeme target) environmentText
      (Token.kind_of_lexeme selects) (Token.kind_of_lexeme named) (Token.kind_of_lexeme opens)
      readsAll (Token.kind_of_lexeme closes)).readsAtStrength 8

end Lists

theorem isReadBack_map {key value : Expression} {entries : List (Expression × Expression)}
    (keyBack : IsReadBack key) (valueBack : IsReadBack value)
    (back : ∀ entry ∈ entries, IsReadBack entry.1 ∧ IsReadBack entry.2) (span : Span) :
    IsReadBack (.map ((key, value) :: entries) span) := by
  intro levels tokens nested spelled
  obtain ⟨levels, rfl⟩ := exists_eq_succ_of_lt nested
  obtain ⟨both, nested⟩ := Nat.max_le.1 (Nat.le_of_succ_le_succ nested)
  obtain ⟨keyNested, valueNested⟩ := Nat.max_le.1 both
  obtain ⟨opening, inner, close, rfl, opens, innerSpelled, closes⟩ := exists_enclosed spelled
  obtain ⟨left, joined, rfl, keySpelled, rest⟩ := List.map_eq_append_iff.1 innerSpelled
  obtain ⟨arrow, behind, rfl, joins, rest⟩ := List.map_eq_cons_iff.1 rest
  obtain ⟨right, later, rfl, valueSpelled, othersSpelled⟩ := List.map_eq_append_iff.1 rest
  obtain ⟨readKey, sameKey, readsKey⟩ := keyBack.readsExpression keyNested keySpelled
  obtain ⟨readValue, sameValue, readsValue⟩ := valueBack.readsExpression valueNested valueSpelled
  obtain ⟨others, alike, readsOthers⟩ := exists_readsOtherEntries back nested othersSpelled
  refine ⟨.map ((readKey, readValue) :: others) (opening.span.cover close.span), ?_, ?_⟩
  · rw [Expression.bare] at sameKey sameValue
    simp only [Expression.bare, Expression.mapSpans, mapSpansEntries, sameKey, sameValue, alike]
    rfl
  · exact (readsPrimary_map (Token.kind_of_lexeme opens) readsKey (Token.kind_of_lexeme joins)
      readsValue readsOthers (Token.kind_of_lexeme closes)).readsAtStrength 8

theorem isReadBack_member {target : Expression} {key : MemberKey} (back : IsReadBack target)
    (printable : key.isPrintable = true) (span : Span) : IsReadBack (.member target key span) := by
  intro levels tokens nested spelled
  obtain ⟨inside, selecting, rfl, targetSpelled, rest⟩ := List.map_eq_append_iff.1 spelled
  obtain ⟨dot, behind, rfl, selects, rest⟩ := List.map_eq_cons_iff.1 rest
  obtain ⟨token, rfl, keySpelled⟩ := List.map_eq_singleton_iff.1 rest
  obtain ⟨read, same, reads⟩ := back.enclosed nested targetSpelled
  have primary := reads.primary (Nat.le_refl 8)
  rw [Expression.bare] at same
  cases key with
  | field identifier =>
      refine ⟨.member read (.field token.identifier) (read.span.cover token.span), ?_, ?_⟩
      · have alike := Identifier.mapSpan_of_lexeme keySpelled identifier.span
        simp only [Expression.bare, Expression.mapSpans, MemberKey.mapSpan, same, alike]
        rfl
      · exact (readsPrimary_field primary (Token.kind_of_lexeme selects)
          (Token.kind_of_lexeme keySpelled)).readsAtStrength 8
  | position index place =>
      refine ⟨.member read (.position index token.span) (read.span.cover token.span), ?_, ?_⟩
      · simp only [Expression.bare, Expression.mapSpans, MemberKey.mapSpan, same]
        rfl
      · have text : token.text = Nat.toDigits 10 index := congrArg Lexeme.text keySpelled
        have denotes := readIndex_of_spelled text (of_decide_eq_true printable)
        exact (readsPrimary_position primary (Token.kind_of_lexeme selects)
          (Token.kind_of_lexeme keySpelled) denotes).readsAtStrength 8

theorem isReadBack_index {target selector : Expression} (back : IsReadBack target)
    (selectorBack : IsReadBack selector) (span : Span) :
    IsReadBack (.index target selector span) := by
  intro levels tokens nested spelled
  obtain ⟨targetNested, selectorNested⟩ := Nat.max_le.1 nested
  obtain ⟨levels, rfl⟩ := exists_eq_succ_of_lt selectorNested
  obtain ⟨outside, selecting, rfl, targetSpelled, rest⟩ := List.map_eq_append_iff.1 spelled
  obtain ⟨opening, inside, close, rfl, opens, selectorSpelled, closes⟩ := exists_enclosed rest
  obtain ⟨read, same, reads⟩ := back.enclosed targetNested targetSpelled
  obtain ⟨chosen, alike, selects⟩ :=
    selectorBack.readsExpression (Nat.le_of_succ_le_succ selectorNested) selectorSpelled
  refine ⟨.index read chosen (read.span.cover close.span), ?_, ?_⟩
  · rw [Expression.bare] at same alike
    simp only [Expression.bare, Expression.mapSpans, same, alike]
    rfl
  · exact (readsPrimary_index (reads.primary (Nat.le_refl 8)) (Token.kind_of_lexeme opens) selects
      (Token.kind_of_lexeme closes)).readsAtStrength 8

theorem isReadBack_unary {operand : Expression} (back : IsReadBack operand)
    (operator : UnaryOperator) (span : Span) : IsReadBack (.unary operator operand span) := by
  intro levels tokens nested spelled
  obtain ⟨levels, rfl⟩ := exists_eq_succ_of_lt nested
  obtain ⟨mark, behind, rfl, operates, rest⟩ := List.map_eq_cons_iff.1 spelled
  obtain ⟨read, same, reads⟩ := back.enclosed (Nat.le_of_succ_le_succ nested) rest
  refine ⟨.unary operator read (mark.span.cover read.span), ?_, ?_⟩
  · rw [Expression.bare] at same
    simp only [Expression.bare, Expression.mapSpans, same]
    rfl
  · have known : unaryOperator? mark.kind = some operator := by
      rw [Token.kind_of_lexeme operates]
      cases operator <;> rfl
    exact (readsOperand_unary known (reads.operand (Nat.le_refl 7))).readsAtStrength

theorem isReadBack_binary {left right : Expression} (leftBack : IsReadBack left)
    (rightBack : IsReadBack right) (operator : BinaryOperator) (span : Span) :
    IsReadBack (.binary operator left right span) := by
  intro levels tokens nested spelled
  obtain ⟨leftNested, rightNested⟩ := Nat.max_le.1 nested
  obtain ⟨before, behind, rfl, leftSpelled, rest⟩ := List.map_eq_append_iff.1 spelled
  obtain ⟨mark, behind, rfl, operates, rightSpelled⟩ := List.map_eq_cons_iff.1 rest
  obtain ⟨readLeft, sameLeft, readsLeft⟩ := leftBack.enclosed leftNested leftSpelled
  obtain ⟨readRight, sameRight, readsRight⟩ := rightBack.enclosed rightNested rightSpelled
  have known : binaryOperator? mark.kind = some operator := by
    rw [Token.kind_of_lexeme operates]
    cases operator <;> rfl
  refine ⟨.binary operator readLeft readRight (readLeft.span.cover readRight.span), ?_, ?_⟩
  · rw [Expression.bare] at sameLeft sameRight
    simp only [Expression.bare, Expression.mapSpans, sameLeft, sameRight]
    rfl
  · exact (readsAbove_binary known readsLeft.above readsRight.above).readsAtStrength

mutual

theorem isReadBack : ∀ expression : Expression, expression.isPrintable = true →
    IsReadBack expression
  | .literal _ span, printable => isReadBack_literal printable span
  | .variable identifier, _ => isReadBack_variable identifier
  | .list items span, printable => isReadBack_list (areAllReadBack items printable) span
  | .map [] _, printable => nomatch printable
  | .map ((key, value) :: entries) span, printable => by
      obtain ⟨-, printable⟩ := Bool.and_eq_true_iff.1 printable
      obtain ⟨⟨keyBack, valueBack⟩, back⟩ :=
        List.forall_mem_cons.1 (areEntriesReadBack ((key, value) :: entries) printable)
      exact isReadBack_map keyBack valueBack back span
  | .member target _ span, printable => by
      obtain ⟨printable, keyPrintable⟩ := Bool.and_eq_true_iff.1 printable
      exact isReadBack_member (isReadBack target printable) keyPrintable span
  | .index target selector span, printable => by
      obtain ⟨printable, selectorPrintable⟩ := Bool.and_eq_true_iff.1 printable
      exact isReadBack_index (isReadBack target printable)
        (isReadBack selector selectorPrintable) span
  | .call function arguments span, printable => by
      obtain ⟨-, printable⟩ := Bool.and_eq_true_iff.1 printable
      exact isReadBack_call (areAllReadBack arguments printable) span function
  | .method name arguments span, printable => by
      obtain ⟨-, printable⟩ := Bool.and_eq_true_iff.1 printable
      exact isReadBack_method (areAllReadBack arguments printable) span name
  | .unary operator operand span, printable =>
      isReadBack_unary (isReadBack operand printable) operator span
  | .binary operator left right span, printable => by
      obtain ⟨leftPrintable, rightPrintable⟩ := Bool.and_eq_true_iff.1 printable
      exact isReadBack_binary (isReadBack left leftPrintable) (isReadBack right rightPrintable)
        operator span

theorem areAllReadBack : ∀ expressions : List Expression, areAllPrintable expressions = true →
    ∀ expression ∈ expressions, IsReadBack expression
  | [], _ => by simp
  | first :: others, printable => by
      obtain ⟨firstPrintable, printable⟩ := Bool.and_eq_true_iff.1 printable
      rw [List.forall_mem_cons]
      exact ⟨isReadBack first firstPrintable, areAllReadBack others printable⟩

theorem areEntriesReadBack : ∀ entries : List (Expression × Expression),
    areEntriesPrintable entries = true →
      ∀ entry ∈ entries, IsReadBack entry.1 ∧ IsReadBack entry.2
  | [], _ => by simp
  | (key, value) :: entries, printable => by
      obtain ⟨both, printable⟩ := Bool.and_eq_true_iff.1 printable
      obtain ⟨keyPrintable, valuePrintable⟩ := Bool.and_eq_true_iff.1 both
      rw [List.forall_mem_cons]
      exact ⟨⟨isReadBack key keyPrintable, isReadBack value valuePrintable⟩,
        areEntriesReadBack entries printable⟩

end

/-! ## Printed fragments -/

theorem lexemes_ne_nil (expression : Expression) : expression.lexemes ≠ [] := by
  cases expression <;> simp [Expression.lexemes]

/-- The lexemes between the marks of a tag that echoes what the lexemes of an expression say. -/
def lexemesOfEcho (written : List Lexeme) : List Lexeme :=
  echoLexemes ++ written ++ [Symbol.semicolon.lexeme, space]

theorem tagOf_lexemesOfEcho (written : List Lexeme) :
    ("<% echo " ++ String.ofList (codeOf written) ++ "; %>").toList =
      tagOf (lexemesOfEcho written) := by
  simp [lexemesOfEcho, echoLexemes, tagOf, codeOf, space, beginTag, endTag, Symbol.lexeme,
    Symbol.text, Keyword.word]

theorem lexes_lexemesOfEcho {written : List Lexeme} {first : Char} {more : List Char}
    (starts : codeOf written = first :: more) (visible : isSpace first = false)
    (lexes : ∀ rest, Lexes (';' :: rest) written) (rest : List Char) :
    Lexes (endTag ++ rest) (lexemesOfEcho written) := by
  have parts : lexemesOfEcho written = [space] ++ ([Keyword.echo.lexeme] ++
      ([space] ++ (written ++ ([Symbol.semicolon.lexeme] ++ [space])))) := by
    simp [lexemesOfEcho, echoLexemes, Keyword.lexeme]
  rw [parts, lexes_append, lexes_append, lexes_append, lexes_append, lexes_append]
  refine ⟨lexes_space (by decide) _, lexes_singleton (standsAlone_keyword .echo) (.inl rfl) _, ?_,
    lexes _, lexes_singleton (standsAlone_symbol .semicolon) (.inl rfl) _,
    lexes_space (by decide) _⟩
  rw [codeOf, List.flatMap_append, ← codeOf, starts]
  exact lexes_space visible _

/-- The tokens of the tag are its keyword, those that spell the expression, and a semicolon. -/
theorem exists_significantOf_lexemesOfEcho (written : List Lexeme) (offset : Nat) :
    ∃ echo tokens semicolon,
      significantOf (place offset (lexemesOfEcho written)) = echo :: (tokens ++ [semicolon]) ∧
        echo.kind = .keyword .echo ∧
          tokens.map Token.lexeme = written.filter (fun lexeme => lexeme.kind ≠ .whitespace) ∧
            semicolon.kind = .symbol .semicolon := by
  rw [lexemesOfEcho, place_append, place_append, significantOf_append, significantOf_append]
  refine ⟨_, significantOf (place _ written), _, rfl, rfl, ?_, rfl⟩
  rw [lexeme_significantOf_place]

theorem leaves_readClause_echo {ending : Ending} {echo next : Token} {tokens rest : List Token}
    {read : Expression} (keyword : echo.kind = .keyword .echo)
    (reads : ReadsExpression maxDepth tokens read) (stop : EndsExpression next.kind) :
    Leaves (readClause ending (echo :: (tokens ++ next :: rest))) (.action (.echo read))
      (next :: rest) := by
  have expression : Leaves (readExpression ending (tokens ++ next :: rest)) read (next :: rest) :=
    reads ending next rest stop
  have echoed : Leaves (readKeywordClause ending echo .echo (tokens ++ next :: rest))
      (.action (.echo read)) (next :: rest) :=
    expression.bind fun proof => leaves_pure _ _
  rw [readClause, keyword]
  exact echoed.bind fun proof => leaves_pure _ _

theorem readClauses_echo {ending : Ending} {echo semicolon mark : Token}
    {tokens rest : List Token} {read : Expression} (keyword : echo.kind = .keyword .echo)
    (reads : ReadsExpression maxDepth tokens read) (ends : semicolon.kind = .symbol .semicolon)
    (closed : mark.kind = .endTag) :
    readClauses ending true (echo :: (tokens ++ semicolon :: mark :: rest)) =
      (readClauses ending false rest).cons ⟨.action (.echo read), echo.span⟩ := by
  have clause : Leaves (readClause ending (echo :: (tokens ++ semicolon :: mark :: rest)))
      (.action (.echo read)) (semicolon :: mark :: rest) :=
    leaves_readClause_echo keyword reads (ends ▸ endsExpression_semicolon)
  rw [readClauses_clause (by simp [keyword]) (by simp [keyword]) (by simp [keyword]) clause,
    readClauses_semicolon ends, readClauses_endTag closed]

/-- Code that is cut into the lexemes of an expression, but for white space, is read in an `echo`
as that expression. -/
theorem parse_echo_of_lexes {expression : Expression} (printable : expression.isPrintable = true)
    (nested : expression.nesting < maxDepth) {written : List Lexeme}
    (spells : written.filter (fun lexeme => lexeme.kind ≠ .whitespace) = expression.lexemes)
    {first : Char} {more : List Char} (starts : codeOf written = first :: more)
    (visible : isSpace first = false) (lexes : ∀ rest, Lexes (';' :: rest) written) :
    ∃ read : Expression, read.bare = expression.bare ∧
      parse ("<% echo " ++ String.ofList (codeOf written) ++ "; %>").toList =
        .ok [.action (.echo read)] := by
  obtain ⟨echo, tokens, semicolon, shape, keyword, spelled, ends⟩ :=
    exists_significantOf_lexemesOfEcho written 2
  obtain ⟨read, same, reads⟩ := (isReadBack expression printable).readsExpression
    (Nat.le_of_lt_succ nested) (spelled.trans spells)
  have clauses : clausesFrom 0 (tagOf (lexemesOfEcho written) ++ []) =
      (clausesFrom (0 + byteLength (tagOf (lexemesOfEcho written))) []).cons
        ⟨.action (.echo read), echo.span⟩ := by
    refine clausesFrom_tagOf (Clauses.cons _) (lexes_lexemesOfEcho starts visible lexes [])
      fun ending mark rest closed => ?_
    rw [shape, List.cons_append, List.append_assoc, List.singleton_append]
    exact readClauses_echo keyword reads ends closed
  refine ⟨read, same, ?_⟩
  rw [List.append_nil, clausesFrom_nil] at clauses
  rw [tagOf_lexemesOfEcho]
  change assemble (clausesFrom 0 (tagOf (lexemesOfEcho written))) = _
  rw [clauses]
  rfl

/-- An expression that is printed inside an `echo` is read as that expression: its parentheses are
enough, and none of its tokens runs into the next. -/
theorem parse_echo_code {expression : Expression} (printable : expression.isPrintable = true)
    (nested : expression.nesting < maxDepth) :
    ∃ read : Expression, read.bare = expression.bare ∧
      parse ("<% echo " ++ expression.code ++ "; %>").toList = .ok [.action (.echo read)] := by
  have alone := standAlone_lexemes expression printable
  obtain ⟨first, others, shape⟩ := List.exists_cons_of_ne_nil (lexemes_ne_nil expression)
  obtain ⟨next, more, starts, visible⟩ :=
    exists_codeOf_spaced (alone first (shape ▸ List.mem_cons_self)) others
  rw [← shape] at starts
  exact parse_echo_of_lexes printable nested (filter_spaced alone) starts visible
    fun rest => lexes_spaced alone (.inr rfl) rest

/-- The expression `! ( a - ( 2 - b ) == - ( - c ) . d ) || [ 'it\'s' => [ null , true ] ] [ 0 ] &&
__env . make ( f ( ) , x . 1 )`. -/
def mixedExpression : Expression :=
  let name (text : String) : Identifier := ⟨text, ⟨0, 0⟩⟩
  let var (text : String) : Expression := .variable (name text)
  let integer (number : Int64) : Expression := .literal (.integer number) ⟨0, 0⟩
  .binary .or
    (.unary .not
      (.binary .equal
        (.binary .subtract (var "a") (.binary .subtract (integer 2) (var "b") ⟨0, 0⟩) ⟨0, 0⟩)
        (.unary .negate (.member (.unary .negate (var "c") ⟨0, 0⟩) (.field (name "d")) ⟨0, 0⟩)
          ⟨0, 0⟩)
        ⟨0, 0⟩)
      ⟨0, 0⟩)
    (.binary .and
      (.index
        (.map [(.literal (.string "it's") ⟨0, 0⟩,
          .list [.literal .null ⟨0, 0⟩, .literal (.bool true) ⟨0, 0⟩] ⟨0, 0⟩)] ⟨0, 0⟩)
        (integer 0) ⟨0, 0⟩)
      (.method (name "make")
        [.call (name "f") [] ⟨0, 0⟩, .member (var "x") (.position 1 ⟨0, 0⟩) ⟨0, 0⟩] ⟨0, 0⟩)
      ⟨0, 0⟩)
    ⟨0, 0⟩

theorem parse_echo_code_mixedExpression :
    mixedExpression.isPrintable = true ∧ mixedExpression.nesting < maxDepth ∧
      ∃ read : Expression, read.bare = mixedExpression.bare ∧
        parse ("<% echo " ++ mixedExpression.code ++ "; %>").toList =
          .ok [.action (.echo read)] :=
  ⟨by decide, by decide, parse_echo_code (by decide) (by decide)⟩

end ViewTemplate.Fragment
