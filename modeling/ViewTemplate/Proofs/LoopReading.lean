import ViewTemplate.Proofs.Literals

/-!
Reading loops. The code `foreach (… as k => v): echo …; endforeach;` is read as one loop with one
statement inside, whatever expressions stand in its two places
(`IsWritten.parse_elementLoop`).
-/

namespace ViewTemplate.Fragment

open Text

/-! ## Heads of loops -/

section Heads

variable {ending : Ending} {rest : List Token}

theorem leaves_readKeyword {word : Keyword} {token : Token} (same : token.kind = .keyword word) :
    Leaves (readKeyword ending word (token :: rest)) token rest :=
  ⟨Nat.lt_succ_self _, by simp only [readKeyword, same, if_true]; rfl⟩

theorem leaves_readIdentifier {token : Token} (named : token.kind = .identifier) :
    Leaves (readIdentifier ending (token :: rest)) token.identifier rest :=
  (leaves_readKind named).bind fun _ => leaves_pure _ _

theorem endsExpression_as : EndsExpression (.keyword .as) := by
  constructor <;> decide

variable {keyed arrow valued : Token} (isKey : keyed.kind = .identifier)
  (joins : arrow.kind = .symbol .arrow) (isValue : valued.kind = .identifier)

include isKey joins isValue

theorem leaves_readLoopVariables_entry :
    Leaves (readLoopVariables ending (keyed :: arrow :: valued :: rest))
      (.entry keyed.identifier valued.identifier) rest := by
  refine (leaves_readIdentifier isKey).bind fun proof => ?_
  simp only [peek, joins, bind, Except.bind]
  refine (leaves_readKind joins).bind fun _ => ?_
  exact (leaves_readIdentifier isValue).bind fun _ => leaves_pure _ _

variable {keyword opening separator close colon : Token} {tokens : List Token} {read : Expression}
  (opens : opening.kind = .symbol .leftParenthesis) (reads : ReadsExpression maxDepth tokens read)
  (separates : separator.kind = .keyword .as) (closes : close.kind = .symbol .rightParenthesis)
  (begins : colon.kind = .symbol .colon)

include opens reads separates closes begins

theorem leaves_readForeach :
    Leaves (readForeach ending (opening :: (tokens ++
        separator :: keyed :: arrow :: valued :: close :: colon :: rest)))
      (.foreach (.entry keyed.identifier valued.identifier) read) rest := by
  have iterable : Leaves (readExpression ending (tokens ++
      separator :: keyed :: arrow :: valued :: close :: colon :: rest)) read
        (separator :: keyed :: arrow :: valued :: close :: colon :: rest) :=
    reads ending separator _ (separates ▸ endsExpression_as)
  refine (leaves_readKind opens).bind fun _ => iterable.bind fun _ => ?_
  refine (leaves_readKeyword separates).bind fun _ => ?_
  refine (leaves_readLoopVariables_entry isKey joins isValue).bind fun _ => ?_
  refine (leaves_readKind closes).bind fun _ => ?_
  exact (leaves_readKind begins).bind fun _ => leaves_pure _ _

theorem readClauses_foreach (loops : keyword.kind = .keyword .foreach) :
    readClauses ending true (keyword :: opening :: (tokens ++
        separator :: keyed :: arrow :: valued :: close :: colon :: rest)) =
      (readClauses ending true rest).cons
        ⟨.foreach (.entry keyed.identifier valued.identifier) read, keyword.span⟩ := by
  have clause : Leaves (readClause ending (keyword :: opening :: (tokens ++
      separator :: keyed :: arrow :: valued :: close :: colon :: rest)))
      (.foreach (.entry keyed.identifier valued.identifier) read) rest := by
    rw [readClause, loops]
    have introduced : Leaves (readKeywordClause ending keyword .foreach (opening :: (tokens ++
        separator :: keyed :: arrow :: valued :: close :: colon :: rest)))
        (.foreach (.entry keyed.identifier valued.identifier) read) rest :=
      (leaves_readForeach isKey joins isValue opens reads separates closes begins).bind
        fun _ => leaves_pure _ _
    exact introduced.bind fun _ => leaves_pure _ _
  exact readClauses_clause (by simp [loops]) (by simp [loops]) (by simp [loops]) clause

end Heads

theorem readClauses_endforeach {ending : Ending} {keyword semicolon : Token} {rest : List Token}
    (ends : keyword.kind = .keyword .endforeach) (stops : semicolon.kind = .symbol .semicolon) :
    readClauses ending true (keyword :: semicolon :: rest) =
      (readClauses ending true rest).cons ⟨.endforeach, keyword.span⟩ := by
  have clause : Leaves (readClause ending (keyword :: semicolon :: rest)) .endforeach
      (semicolon :: rest) := by
    rw [readClause, ends]
    exact ⟨Nat.lt_succ_self _, rfl⟩
  rw [readClauses_clause (by simp [ends]) (by simp [ends]) (by simp [ends]) clause,
    readClauses_semicolon stops]

/-! ## Code -/

/-- Lexemes that are the code of an expression in front of a character, with any spaces. -/
structure IsWritten (expression : Expression) (stop : Char) (written : List Lexeme) : Prop where
  printable : expression.isPrintable = true
  nested : expression.nesting < maxDepth
  spells : written.filter (fun lexeme => lexeme.kind ≠ .whitespace) = expression.lexemes
  visible : ∃ first more, codeOf written = first :: more ∧ isSpace first = false
  lexes (rest : List Char) : Lexes (stop :: rest) written

theorem isWritten_variable {name : String} (named : isName name = true) :
    IsWritten (.variable ⟨name, ⟨0, 0⟩⟩) ' ' [nameLexeme name] where
  printable := named
  nested := Nat.succ_pos _
  spells := rfl
  visible := by
    obtain ⟨first, others, text, start, -, -⟩ := exists_of_isName named
    exact ⟨first, others, (List.append_nil _).trans text,
      isSpace_eq_false_of_isIdentifierStart start⟩
  lexes rest := ⟨isCutFrom_name named (by decide) rest, trivial⟩

/-- The lexemes of an expression are its code if they are cut off one by one. -/
theorem isWritten_laidOut {expression : Expression} {stop first : Char} {more : List Char}
    (printable : expression.isPrintable = true) (nested : expression.nesting < maxDepth)
    (starts : codeOf (laidOut expression.lexemes) = first :: more)
    (visible : isSpace first = false)
    (lexes : ∀ rest, Lexes (stop :: rest) (laidOut expression.lexemes)) :
    IsWritten expression stop (laidOut expression.lexemes) where
  printable := printable
  nested := nested
  spells := filter_laidOut fun lexeme member =>
    (standAlone_lexemes expression printable lexeme member).visible
  visible := ⟨first, more, starts, visible⟩
  lexes := lexes

theorem isCutFrom_leftParenthesis (following : List Char) :
    Symbol.leftParenthesis.lexeme.IsCutFrom following :=
  ⟨'(', [], rfl, stripInitial?_endTag_of_ne (by decide), rfl⟩

theorem isCutFrom_rightParenthesis (following : List Char) :
    Symbol.rightParenthesis.lexeme.IsCutFrom following :=
  ⟨')', [], rfl, stripInitial?_endTag_of_ne (by decide), rfl⟩

theorem isCutFrom_colon (following : List Char) : Symbol.colon.lexeme.IsCutFrom following :=
  ⟨':', [], rfl, stripInitial?_endTag_of_ne (by decide), rfl⟩

theorem isCutFrom_keyword_of_isBreak (word : Keyword) {stop : Char} (breaks : IsBreak stop)
    (rest : List Char) : word.lexeme.IsCutFrom (stop :: rest) :=
  (lexes_singleton (standsAlone_keyword word) breaks rest).1

theorem isCutFrom_space {next : Char} (visible : isSpace next = false) (rest : List Char) :
    space.IsCutFrom (next :: rest) :=
  (lexes_space visible rest).1

theorem isCutFrom_space_name {name : String} (named : isName name = true) (others : List Lexeme)
    (rest : List Char) : space.IsCutFrom (codeOf (nameLexeme name :: others) ++ rest) := by
  obtain ⟨first, behind, text, start, -, -⟩ := exists_of_isName named
  have code : codeOf (nameLexeme name :: others) = first :: (behind ++ codeOf others) :=
    congrArg (· ++ codeOf others) text
  rw [code]
  exact isCutFrom_space (isSpace_eq_false_of_isIdentifierStart start) _

/-! ### Parts of a loop -/

/-- The lexemes in front of what a loop runs over. -/
def loopOpening : List Lexeme :=
  [space, Keyword.foreach.lexeme, space, Symbol.leftParenthesis.lexeme]

/-- The lexemes with the variables of a loop, up to the `echo` inside. -/
def loopVariables (keyed valued : String) : List Lexeme :=
  [space, Keyword.as.lexeme, space, nameLexeme keyed, space, Symbol.arrow.lexeme, space,
    nameLexeme valued, Symbol.rightParenthesis.lexeme, Symbol.colon.lexeme, space,
    Keyword.echo.lexeme, space]

/-- The lexemes behind the `echo` inside a loop. -/
def loopClosing : List Lexeme :=
  [Symbol.semicolon.lexeme, space, Keyword.endforeach.lexeme, Symbol.semicolon.lexeme, space]

theorem lexes_loopOpening (rest : List Char) : Lexes rest loopOpening :=
  ⟨isCutFrom_space (by decide) _, isCutFrom_keyword_of_isBreak .foreach (.inl rfl) _,
    isCutFrom_space (by decide) _, isCutFrom_leftParenthesis _, trivial⟩

theorem lexes_loopVariables {keyed valued : String} (keyNamed : isName keyed = true)
    (valueNamed : isName valued = true) {first : Char} (visible : isSpace first = false)
    (rest : List Char) : Lexes (first :: rest) (loopVariables keyed valued) :=
  ⟨isCutFrom_space (by decide) _, isCutFrom_keyword_of_isBreak .as (.inl rfl) _,
    isCutFrom_space_name keyNamed _ _, isCutFrom_name keyNamed (by decide) _,
    isCutFrom_space (by decide) _, isCutFrom_arrow _, isCutFrom_space_name valueNamed _ _,
    isCutFrom_name valueNamed (by decide) _, isCutFrom_rightParenthesis _, isCutFrom_colon _,
    isCutFrom_space (by decide) _, isCutFrom_keyword_of_isBreak .echo (.inl rfl) _,
    isCutFrom_space visible _, trivial⟩

theorem lexes_loopClosing (rest : List Char) : Lexes (endTag ++ rest) loopClosing :=
  ⟨isCutFrom_semicolon _, isCutFrom_space (by decide) _,
    isCutFrom_keyword_of_isBreak .endforeach (.inr rfl) _, isCutFrom_semicolon _,
    isCutFrom_space (by decide) _, trivial⟩

/-! ### Loops -/

/-- The lexemes between the marks of a tag with a loop over keys and values and one `echo` in it. -/
def lexemesOfElementLoop (iterable : List Lexeme) (keyed valued : String) (echoed : List Lexeme) :
    List Lexeme :=
  loopOpening ++ (iterable ++ (loopVariables keyed valued ++ (echoed ++ loopClosing)))

theorem tagOf_lexemesOfElementLoop (iterable : List Lexeme) (keyed valued : String)
    (echoed : List Lexeme) :
    ("<% foreach (" ++ String.ofList (codeOf iterable) ++ " as " ++ keyed ++ " => " ++ valued ++
        "): echo " ++ String.ofList (codeOf echoed) ++ "; endforeach; %>").toList =
      tagOf (lexemesOfElementLoop iterable keyed valued echoed) := by
  have opening : "<% foreach (".toList = beginTag ++ codeOf loopOpening := by decide
  have binding : codeOf (loopVariables keyed valued) =
      " as ".toList ++ (keyed.toList ++ (" => ".toList ++ (valued.toList ++ "): echo ".toList))) :=
    rfl
  have closing : "; endforeach; %>".toList = codeOf loopClosing ++ endTag := by decide
  simp only [String.toList_append, String.toList_ofList, opening, closing, tagOf,
    lexemesOfElementLoop, codeOf_append, binding, List.append_assoc]

theorem lexes_lexemesOfElementLoop {iterable echoed : Expression}
    {iterableCode echoedCode : List Lexeme} (iterableWritten : IsWritten iterable ' ' iterableCode)
    (echoedWritten : IsWritten echoed ';' echoedCode) {keyed valued : String}
    (keyNamed : isName keyed = true) (valueNamed : isName valued = true) (rest : List Char) :
    Lexes (endTag ++ rest) (lexemesOfElementLoop iterableCode keyed valued echoedCode) := by
  obtain ⟨first, more, starts, visible⟩ := echoedWritten.visible
  simp only [lexemesOfElementLoop, lexes_append]
  refine ⟨lexes_loopOpening _, iterableWritten.lexes _, ?_, echoedWritten.lexes _,
    lexes_loopClosing _⟩
  rw [codeOf_append, starts]
  exact lexes_loopVariables keyNamed valueNamed visible _

/-! ### Tokens of loops -/

/-- The tokens of a loop over keys and values with one `echo` in it, but for its expressions. -/
structure LoopTokens where
  keyword : Token
  opening : Token
  separator : Token
  key : Token
  arrow : Token
  value : Token
  close : Token
  colon : Token
  echo : Token
  semicolon : Token
  ending : Token
  last : Token

namespace LoopTokens

structure Spell (marks : LoopTokens) (keyed valued : String) : Prop where
  keyword : marks.keyword.kind = .keyword .foreach
  opening : marks.opening.kind = .symbol .leftParenthesis
  separator : marks.separator.kind = .keyword .as
  key : marks.key.lexeme = nameLexeme keyed
  arrow : marks.arrow.kind = .symbol .arrow
  value : marks.value.lexeme = nameLexeme valued
  close : marks.close.kind = .symbol .rightParenthesis
  colon : marks.colon.kind = .symbol .colon
  echo : marks.echo.kind = .keyword .echo
  semicolon : marks.semicolon.kind = .symbol .semicolon
  ending : marks.ending.kind = .keyword .endforeach
  last : marks.last.kind = .symbol .semicolon

/-- The tokens of the whole loop, with those of its expressions and those behind it. -/
def around (marks : LoopTokens) (iterable echoed rest : List Token) : List Token :=
  marks.keyword :: marks.opening :: (iterable ++
    marks.separator :: marks.key :: marks.arrow :: marks.value :: marks.close :: marks.colon ::
      marks.echo :: (echoed ++ marks.semicolon :: marks.ending :: marks.last :: rest))

/-- The clauses of the loop with those behind it. -/
def clauses (marks : LoopTokens) (iterable echoed : Expression) (behind : Clauses) : Clauses :=
  ((behind.cons ⟨.endforeach, marks.ending.span⟩).cons
    ⟨.action (.echo echoed), marks.echo.span⟩).cons
      ⟨.foreach (.entry marks.key.identifier marks.value.identifier) iterable, marks.keyword.span⟩

theorem readClauses_around {marks : LoopTokens} {keyed valued : String}
    (spell : marks.Spell keyed valued) {ending : Ending} {tokens echoTokens rest : List Token}
    {read echoRead : Expression} {mark : Token} (reads : ReadsExpression maxDepth tokens read)
    (echoReads : ReadsExpression maxDepth echoTokens echoRead) (closed : mark.kind = .endTag) :
    readClauses ending true (marks.around tokens echoTokens (mark :: rest)) =
      marks.clauses read echoRead (readClauses ending false rest) := by
  have echoClause : Leaves (readClause ending (marks.echo :: (echoTokens ++
      marks.semicolon :: marks.ending :: marks.last :: mark :: rest))) (.action (.echo echoRead))
      (marks.semicolon :: marks.ending :: marks.last :: mark :: rest) :=
    leaves_readClause_echo spell.echo echoReads (spell.semicolon ▸ endsExpression_semicolon)
  rw [around, readClauses_foreach (Token.kind_of_lexeme spell.key) spell.arrow
    (Token.kind_of_lexeme spell.value) spell.opening reads spell.separator spell.close spell.colon
    spell.keyword, readClauses_clause (by simp [spell.echo]) (by simp [spell.echo])
    (by simp [spell.echo]) echoClause, readClauses_semicolon spell.semicolon,
    readClauses_endforeach spell.ending spell.last, readClauses_endTag closed]
  rfl

end LoopTokens

/-- The tokens of the tag are those of a loop and those that spell its expressions. -/
theorem exists_significantOf_lexemesOfElementLoop (iterable : List Lexeme) (keyed valued : String)
    (echoed : List Lexeme) (offset : Nat) :
    ∃ (marks : LoopTokens) (tokens echoTokens : List Token),
      (∀ rest, significantOf (place offset (lexemesOfElementLoop iterable keyed valued echoed)) ++
          rest = marks.around tokens echoTokens rest) ∧
        marks.Spell keyed valued ∧
          tokens.map Token.lexeme = iterable.filter (fun lexeme => lexeme.kind ≠ .whitespace) ∧
            echoTokens.map Token.lexeme =
              echoed.filter (fun lexeme => lexeme.kind ≠ .whitespace) := by
  simp only [lexemesOfElementLoop, place_append, significantOf_append, List.append_assoc]
  exact ⟨⟨_, _, _, _, _, _, _, _, _, _, _, _⟩, significantOf (place _ iterable),
    significantOf (place _ echoed), fun rest => rfl,
    ⟨rfl, rfl, rfl, rfl, rfl, rfl, rfl, rfl, rfl, rfl, rfl, rfl⟩,
    lexeme_significantOf_place .., lexeme_significantOf_place ..⟩

/-- Code that is cut into the lexemes of a loop over keys and values with one `echo` in it, but for
white space, is read as that loop. -/
theorem IsWritten.parse_elementLoop {iterable echoed : Expression}
    {iterableCode echoedCode : List Lexeme} (iterableWritten : IsWritten iterable ' ' iterableCode)
    (echoedWritten : IsWritten echoed ';' echoedCode) {keyed valued : String}
    (keyNamed : isName keyed = true) (valueNamed : isName valued = true) :
    ∃ (keyName valueName : Identifier) (iterableRead echoedRead : Expression),
      keyName.name = keyed ∧ valueName.name = valued ∧ iterableRead.bare = iterable.bare ∧
        echoedRead.bare = echoed.bare ∧
          parse ("<% foreach (" ++ String.ofList (codeOf iterableCode) ++ " as " ++ keyed ++
              " => " ++ valued ++ "): echo " ++ String.ofList (codeOf echoedCode) ++
                "; endforeach; %>").toList =
            .ok [.each (.entry keyName valueName) iterableRead [.action (.echo echoedRead)]] := by
  obtain ⟨marks, tokens, echoTokens, shape, spell, spelled, echoSpelled⟩ :=
    exists_significantOf_lexemesOfElementLoop iterableCode keyed valued echoedCode 2
  obtain ⟨iterableRead, sameIterable, iterableReads⟩ :=
    (isReadBack iterable iterableWritten.printable).readsExpression
      (Nat.le_of_lt_succ iterableWritten.nested) (spelled.trans iterableWritten.spells)
  obtain ⟨echoedRead, sameEchoed, echoedReads⟩ :=
    (isReadBack echoed echoedWritten.printable).readsExpression
      (Nat.le_of_lt_succ echoedWritten.nested) (echoSpelled.trans echoedWritten.spells)
  have clauses : clausesFrom 0
        (tagOf (lexemesOfElementLoop iterableCode keyed valued echoedCode) ++ []) =
      marks.clauses iterableRead echoedRead (clausesFrom (0 + byteLength
        (tagOf (lexemesOfElementLoop iterableCode keyed valued echoedCode))) []) := by
    refine clausesFrom_tagOf (marks.clauses iterableRead echoedRead)
      (lexes_lexemesOfElementLoop iterableWritten echoedWritten keyNamed valueNamed [])
      fun ending mark rest closed => ?_
    rw [Nat.zero_add, shape]
    exact LoopTokens.readClauses_around spell iterableReads echoedReads closed
  refine ⟨marks.key.identifier, marks.value.identifier, iterableRead, echoedRead,
    Token.name_identifier spell.key, Token.name_identifier spell.value, sameIterable, sameEchoed,
    ?_⟩
  rw [List.append_nil, clausesFrom_nil] at clauses
  rw [tagOf_lexemesOfElementLoop]
  change assemble (clausesFrom 0
    (tagOf (lexemesOfElementLoop iterableCode keyed valued echoedCode))) = _
  rw [clauses]
  rfl

/-- Code of an expression is read in an `echo` as that expression. -/
theorem IsWritten.parse_echo {expression : Expression} {written : List Lexeme}
    (isWritten : IsWritten expression ';' written) :
    ∃ read : Expression, read.bare = expression.bare ∧
      parse ("<% echo " ++ String.ofList (codeOf written) ++ "; %>").toList =
        .ok [.action (.echo read)] := by
  obtain ⟨first, more, starts, visible⟩ := isWritten.visible
  exact parse_echo_of_lexes isWritten.printable isWritten.nested isWritten.spells starts visible
    isWritten.lexes

end ViewTemplate.Fragment
