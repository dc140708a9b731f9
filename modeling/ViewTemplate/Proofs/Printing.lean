import ViewTemplate.Proofs.Tags

/-!
Expressions written as code: one lexeme behind the other, with a space between and parentheses only
where the reader would otherwise find another expression. The scan cuts such code into the lexemes
again (`lexes_spaced`).
-/

namespace ViewTemplate.Fragment

open ViewTemplate.Text

/-! ## Lexemes -/

def Symbol.text : Symbol → List Char
  | .leftParenthesis => ['(']
  | .rightParenthesis => [')']
  | .leftBracket => ['[']
  | .rightBracket => [']']
  | .comma => [',']
  | .colon => [':']
  | .semicolon => [';']
  | .dot => ['.']
  | .arrow => ['=', '>']
  | .assign => ['=']
  | .plusAssign => ['+', '=']
  | .minusAssign => ['-', '=']
  | .increment => ['+', '+']
  | .decrement => ['-', '-']
  | .plus => ['+']
  | .minus => ['-']
  | .star => ['*']
  | .slash => ['/']
  | .percent => ['%']
  | .bang => ['!']
  | .equal => ['=', '=']
  | .notEqual => ['!', '=']
  | .less => ['<']
  | .lessEqual => ['<', '=']
  | .greater => ['>']
  | .greaterEqual => ['>', '=']
  | .and => ['&', '&']
  | .or => ['|', '|']

def Symbol.lexeme (mark : Symbol) : Lexeme := ⟨.symbol mark, mark.text⟩

def Keyword.lexeme (word : Keyword) : Lexeme := ⟨.keyword word, word.word.toList⟩

def numberLexeme (number : Nat) : Lexeme := ⟨.number, Nat.toDigits 10 number⟩

def stringLexeme (content : String) : Lexeme := ⟨.string, literalText content.toList⟩

def spaced (lexemes : List Lexeme) : List Lexeme :=
  lexemes.intersperse space

def Literal.lexeme : Literal → Lexeme
  | .null => Keyword.null.lexeme
  | .bool true => Keyword.true.lexeme
  | .bool false => Keyword.false.lexeme
  | .integer number => numberLexeme number.toInt.toNat
  | .float number => ⟨.number, (Decimal.write .diagnostic number).toList⟩
  | .string content => stringLexeme content

def MemberKey.lexeme : MemberKey → Lexeme
  | .field identifier => nameLexeme identifier.name
  | .position index _ => numberLexeme index

def unaryMark : UnaryOperator → Symbol
  | .not => .bang
  | .negate => .minus

def binaryMark : BinaryOperator → Symbol
  | .or => .or
  | .and => .and
  | .equal => .equal
  | .notEqual => .notEqual
  | .less => .less
  | .lessEqual => .lessEqual
  | .greater => .greater
  | .greaterEqual => .greaterEqual
  | .add => .plus
  | .subtract => .minus
  | .multiply => .star
  | .divide => .slash
  | .remainder => .percent

/-! ## Printing -/

/-- How tightly an expression holds together without parentheses. -/
def Expression.strength : Expression → Nat
  | .binary operator .. => precedence operator
  | .unary .. => 7
  | _ => 8

/-- The lexemes of an expression in a place where it must hold together with a certain strength. -/
def enclosed (least : Nat) (expression : Expression) (lexemes : List Lexeme) : List Lexeme :=
  if expression.strength < least then
    Symbol.leftParenthesis.lexeme :: (lexemes ++ [Symbol.rightParenthesis.lexeme])
  else lexemes

mutual

def Expression.lexemes : Expression → List Lexeme
  | .literal literal _ => [literal.lexeme]
  | .variable identifier => [nameLexeme identifier.name]
  | .list items _ =>
      Symbol.leftBracket.lexeme :: (lexemesOfAll items ++ [Symbol.rightBracket.lexeme])
  | .map entries _ =>
      Symbol.leftBracket.lexeme :: (lexemesOfEntries entries ++ [Symbol.rightBracket.lexeme])
  | .member target key _ =>
      enclosed 8 target target.lexemes ++ [Symbol.dot.lexeme, key.lexeme]
  | .index target selector _ =>
      enclosed 8 target target.lexemes ++
        Symbol.leftBracket.lexeme :: (selector.lexemes ++ [Symbol.rightBracket.lexeme])
  | .call function arguments _ =>
      nameLexeme function.name :: Symbol.leftParenthesis.lexeme ::
        (lexemesOfAll arguments ++ [Symbol.rightParenthesis.lexeme])
  | .method name arguments _ =>
      nameLexeme environmentName :: Symbol.dot.lexeme :: nameLexeme name.name ::
        Symbol.leftParenthesis.lexeme ::
          (lexemesOfAll arguments ++ [Symbol.rightParenthesis.lexeme])
  | .unary operator operand _ =>
      (unaryMark operator).lexeme :: enclosed 7 operand operand.lexemes
  | .binary operator left right _ =>
      enclosed (precedence operator) left left.lexemes ++
        (binaryMark operator).lexeme :: enclosed (precedence operator + 1) right right.lexemes

/-- The lexemes of expressions with commas between them. -/
def lexemesOfAll : List Expression → List Lexeme
  | [] => []
  | first :: others => first.lexemes ++ lexemesOfOthers others

/-- The lexemes of expressions, each behind a comma. -/
def lexemesOfOthers : List Expression → List Lexeme
  | [] => []
  | item :: items => Symbol.comma.lexeme :: (item.lexemes ++ lexemesOfOthers items)

def lexemesOfEntries : List (Expression × Expression) → List Lexeme
  | [] => []
  | (key, value) :: others =>
      key.lexemes ++
        Symbol.arrow.lexeme :: (value.lexemes ++ lexemesOfOtherEntries others)

def lexemesOfOtherEntries : List (Expression × Expression) → List Lexeme
  | [] => []
  | (key, value) :: entries =>
      Symbol.comma.lexeme :: (key.lexemes ++
        Symbol.arrow.lexeme :: (value.lexemes ++ lexemesOfOtherEntries entries))

end

/-- An expression as code. -/
def Expression.code (expression : Expression) : String :=
  String.ofList (codeOf (spaced expression.lexemes))

example :
    (Expression.binary .subtract (.variable ⟨"a", ⟨0, 0⟩⟩)
      (.binary .subtract (.unary .negate (.variable ⟨"b", ⟨0, 0⟩⟩) ⟨0, 0⟩)
        (.variable ⟨"c", ⟨0, 0⟩⟩) ⟨0, 0⟩) ⟨0, 0⟩).code = "a - ( - b - c )" := by
  decide

/-! ## Nesting -/

/-- The levels of an expression in a place where it must hold together with a certain strength. -/
def enclosedNesting (least : Nat) (expression : Expression) (nesting : Nat) : Nat :=
  if expression.strength < least then nesting + 1 else nesting

mutual

/-- How many levels of brackets, parentheses, call arguments and operators in front of operands
stand inside each other where the expression is written as code. -/
def Expression.nesting : Expression → Nat
  | .literal .. | .variable .. => 0
  | .list items _ => nestingOfAll items + 1
  | .map entries _ => nestingOfEntries entries + 1
  | .member target _ _ => enclosedNesting 8 target target.nesting
  | .index target selector _ =>
      max (enclosedNesting 8 target target.nesting) (selector.nesting + 1)
  | .call _ arguments _ | .method _ arguments _ => nestingOfAll arguments + 1
  | .unary _ operand _ => enclosedNesting 7 operand operand.nesting + 1
  | .binary operator left right _ =>
      max (enclosedNesting (precedence operator) left left.nesting)
        (enclosedNesting (precedence operator + 1) right right.nesting)

def nestingOfAll : List Expression → Nat
  | [] => 0
  | expression :: expressions => max expression.nesting (nestingOfAll expressions)

def nestingOfEntries : List (Expression × Expression) → Nat
  | [] => 0
  | (key, value) :: entries => max (max key.nesting value.nesting) (nestingOfEntries entries)

end

/-! ## What can be written -/

/-- Whether a text is a name in code. -/
def isName (name : String) : Bool :=
  match name.toList with
  | [] => false
  | first :: others =>
      isIdentifierStart first && others.all isIdentifierContinue &&
        (Keyword.ofWord? (first :: others)).isNone

/-- Whether a literal is written as one token. Floats are left out. -/
def Literal.isPrintable : Literal → Bool
  | .integer number => 0 ≤ number
  | .float _ => false
  | .null | .bool _ | .string _ => true

def MemberKey.isPrintable : MemberKey → Bool
  | .field identifier => isName identifier.name
  | .position index _ => index < UInt64.size

mutual

/-- Whether the names in an expression are names, its literals are written as one token, and its
maps are not empty. -/
def Expression.isPrintable : Expression → Bool
  | .literal literal _ => literal.isPrintable
  | .variable identifier => isName identifier.name
  | .list items _ => areAllPrintable items
  | .map entries _ => !entries.isEmpty && areEntriesPrintable entries
  | .member target key _ => target.isPrintable && key.isPrintable
  | .index target selector _ => target.isPrintable && selector.isPrintable
  | .call function arguments _ => isName function.name && areAllPrintable arguments
  | .method name arguments _ => isName name.name && areAllPrintable arguments
  | .unary _ operand _ => operand.isPrintable
  | .binary _ left right _ => left.isPrintable && right.isPrintable

def areAllPrintable : List Expression → Bool
  | [] => true
  | expression :: expressions => expression.isPrintable && areAllPrintable expressions

def areEntriesPrintable : List (Expression × Expression) → Bool
  | [] => true
  | (key, value) :: entries =>
      key.isPrintable && value.isPrintable && areEntriesPrintable entries

end

/-! ## Lexemes are cut off -/

/-- A character that stands behind lexemes written as code. -/
def IsBreak (character : Char) : Prop :=
  character = ' ' ∨ character = ';'

/-- A lexeme that is no white space and is cut off where a space or a semicolon follows. -/
structure StandsAlone (lexeme : Lexeme) : Prop where
  visible : lexeme.kind ≠ .whitespace
  cut : ∃ character behind, lexeme.text = character :: behind ∧ isSpace character = false ∧
    ∀ stop rest, IsBreak stop →
      stripInitial? endTag (character :: (behind ++ stop :: rest)) = none ∧
        codeToken character (behind ++ stop :: rest) = .ok (lexeme.kind, behind.length)

theorem stripInitial?_endTag_of_ne {character : Char} {text : List Char}
    (other : character ≠ '%') : stripInitial? endTag (character :: text) = none := by
  rw [endTag, stripInitial?, if_neg other.symm]

theorem standsAlone_symbol (mark : Symbol) : StandsAlone mark.lexeme := by
  refine ⟨by simp [Symbol.lexeme], ?_⟩
  cases mark
  all_goals
    refine ⟨_, _, rfl, by decide, ?_⟩
    rintro stop rest (rfl | rfl)
    all_goals exact ⟨rfl, rfl⟩

/-- The characters that symbols begin with. -/
def symbolCharacters : List Char :=
  ['(', ')', '[', ']', ',', ':', ';', '.', '=', '+', '-', '*', '/', '%', '!', '<', '>', '&', '|']

theorem symbolOf?_eq_none {character : Char} (other : character ∉ symbolCharacters)
    (next : Option Char) : symbolOf? character next = none := by
  unfold symbolOf?
  split
  all_goals first | rfl | exact absurd (by decide) other

/-- What begins neither a symbol nor a string is a number, white space or a word. -/
theorem codeToken_of_plain {character : Char} (noSymbol : character ∉ symbolCharacters)
    (noQuote : character ≠ '"' ∧ character ≠ '\'') (behind : List Char) :
    codeToken character behind =
      if character.isDigit then .ok (.number, numberLength behind)
      else if isSpace character then .ok (.whitespace, (behind.takeWhile isSpace).length)
      else if isIdentifierStart character then
        .ok (wordKind (character :: behind.takeWhile isIdentifierContinue),
          (behind.takeWhile isIdentifierContinue).length)
      else .error .unexpectedCharacter := by
  have noSlash : character ≠ '/' := by
    rintro rfl
    exact noSymbol (by decide)
  unfold codeToken
  split
  · exact absurd rfl noSlash
  · exact absurd rfl noSlash
  · rw [symbolOf?_eq_none noSymbol]
    simp [noQuote]

theorem ne_of_property {property : Char → Bool} {character other : Char}
    (holds : property character = true) (fails : property other = false) : character ≠ other := by
  rintro rfl
  exact absurd holds (by simp [fails])

def digitCharacters : List Char := ['0', '1', '2', '3', '4', '5', '6', '7', '8', '9']

theorem mem_digitCharacters {character : Char} (digit : character.isDigit = true) :
    character ∈ digitCharacters := by
  have bounds := Char.isDigit_iff_toNat.1 digit
  rw [← Char.ofNat_toNat character]
  generalize character.toNat = code at bounds
  have cases : code = 48 ∨ code = 49 ∨ code = 50 ∨ code = 51 ∨ code = 52 ∨ code = 53 ∨
      code = 54 ∨ code = 55 ∨ code = 56 ∨ code = 57 := by
    have least : '0'.toNat = 48 := rfl
    have greatest : '9'.toNat = 57 := rfl
    omega
  rcases cases with rfl | rfl | rfl | rfl | rfl | rfl | rfl | rfl | rfl | rfl
  all_goals decide

theorem not_mem_of_property {property : Char → Bool} {character : Char} {characters : List Char}
    (holds : property character = true)
    (fails : (characters.all fun other => !property other) = true) : character ∉ characters := by
  intro member
  have failed := List.all_eq_true.1 fails character member
  simp [holds] at failed

theorem isDigit_eq_false_of_property {property : Char → Bool} {character : Char}
    (holds : property character = true)
    (fails : (digitCharacters.all fun other => !property other) = true) :
    character.isDigit = false := by
  rw [Bool.eq_false_iff]
  intro digit
  exact not_mem_of_property holds fails (mem_digitCharacters digit)

theorem isSpace_eq_false_of_isIdentifierStart {character : Char}
    (start : isIdentifierStart character = true) : isSpace character = false := by
  simp only [isSpace, Bool.or_eq_false_iff, beq_eq_false_iff_ne]
  exact ⟨⟨⟨ne_of_property start (by decide), ne_of_property start (by decide)⟩,
    ne_of_property start (by decide)⟩, ne_of_property start (by decide)⟩

theorem codeToken_word {first stop : Char} {others : List Char}
    (start : isIdentifierStart first = true) (further : others.all isIdentifierContinue = true)
    (stops : isIdentifierContinue stop = false) (rest : List Char) :
    codeToken first (others ++ stop :: rest) = .ok (wordKind (first :: others), others.length) := by
  have noSymbol : first ∉ symbolCharacters := not_mem_of_property start (by decide)
  have noDigit := isDigit_eq_false_of_property start (by decide)
  have noSpace := isSpace_eq_false_of_isIdentifierStart start
  have noQuote : first ≠ '"' ∧ first ≠ '\'' :=
    ⟨ne_of_property start (by decide), ne_of_property start (by decide)⟩
  have word : (others ++ stop :: rest).takeWhile isIdentifierContinue = others := by
    rw [List.takeWhile_append_of_pos (List.all_eq_true.1 further),
      List.takeWhile_cons_of_neg (by simp [stops]), List.append_nil]
  rw [codeToken_of_plain noSymbol noQuote, noDigit, noSpace, start, word]
  rfl

theorem standsAlone_word {kind : TokenKind} {first : Char} {others : List Char}
    (start : isIdentifierStart first = true) (further : others.all isIdentifierContinue = true)
    (word : wordKind (first :: others) = kind) (visible : kind ≠ .whitespace) :
    StandsAlone ⟨kind, first :: others⟩ := by
  have noSpace := isSpace_eq_false_of_isIdentifierStart start
  refine ⟨visible, first, others, rfl, noSpace, fun stop rest breaks => ?_⟩
  have noPercent : first ≠ '%' := ne_of_property start (by decide)
  have stops : isIdentifierContinue stop = false := by
    rcases breaks with rfl | rfl <;> decide
  exact ⟨stripInitial?_endTag_of_ne noPercent, word ▸ codeToken_word start further stops rest⟩

theorem standsAlone_keyword (word : Keyword) : StandsAlone word.lexeme := by
  cases word
  all_goals exact standsAlone_word (by decide) (by decide) (by decide) (by simp)

theorem exists_of_isName {name : String} (named : isName name = true) :
    ∃ first others, name.toList = first :: others ∧ isIdentifierStart first = true ∧
      others.all isIdentifierContinue = true ∧ wordKind (first :: others) = .identifier := by
  unfold isName at named
  cases text : name.toList with
  | nil => simp [text] at named
  | cons first others =>
      simp only [text, Bool.and_eq_true] at named
      obtain ⟨⟨start, further⟩, noKeyword⟩ := named
      refine ⟨first, others, rfl, start, further, ?_⟩
      rw [wordKind, Option.isNone_iff_eq_none.1 noKeyword]

theorem standsAlone_nameLexeme {name : String} (named : isName name = true) :
    StandsAlone (nameLexeme name) := by
  obtain ⟨first, others, text, start, further, word⟩ := exists_of_isName named
  rw [nameLexeme, text]
  exact standsAlone_word start further word (by simp)

/-- Digits go on up to a character that cannot stand in a number and is no point in front of a
digit. -/
theorem numberLength_digits {others : List Char} {stop : Char} {rest : List Char}
    (digits : ∀ character ∈ others, character.isDigit = true)
    (stops : isNumberCharacter stop = false)
    (noFraction : stop = '.' → ∀ next ∈ rest.head?, next.isDigit = false) :
    numberLength (others ++ stop :: rest) = others.length := by
  have further : ∀ character ∈ others, isNumberCharacter character = true := by
    intro character member
    rw [isNumberCharacter, digits character member]
    rfl
  unfold numberLength
  rw [List.takeWhile_append_of_pos further, List.dropWhile_append_of_pos further,
    List.takeWhile_cons_of_neg (by simp [stops]), List.dropWhile_cons_of_neg (by simp [stops]),
    List.append_nil]
  split
  next digit rest' equal =>
    obtain ⟨point, behind⟩ := List.cons.inj equal
    have noDigit : digit.isDigit = false := noFraction point digit (by rw [behind]; rfl)
    rw [noDigit]
    rfl
  next => rfl

theorem exists_codeToken_toDigits (number : Nat) :
    ∃ first others, Nat.toDigits 10 number = first :: others ∧ isSpace first = false ∧
      first ≠ '%' ∧ ∀ stop rest, isNumberCharacter stop = false →
        (stop = '.' → ∀ next ∈ rest.head?, next.isDigit = false) →
          codeToken first (others ++ stop :: rest) = .ok (.number, others.length) := by
  have isDigit : ∀ character ∈ Nat.toDigits 10 number, character.isDigit = true :=
    fun _ member => Nat.isDigit_of_mem_toDigits (by decide) (by decide) member
  cases text : Nat.toDigits 10 number with
  | nil => exact absurd text Nat.toDigits_ne_nil
  | cons first others =>
      rw [text] at isDigit
      have digit := isDigit first List.mem_cons_self
      have further : ∀ character ∈ others, character.isDigit = true :=
        fun character member => isDigit character (List.mem_cons_of_mem _ member)
      have plain : digitCharacters.all (fun other => decide (other ∉ symbolCharacters ∧
        (other ≠ '"' ∧ other ≠ '\'') ∧ isSpace other = false)) = true := by decide
      obtain ⟨noSymbol, noQuote, noSpace⟩ :=
        of_decide_eq_true (List.all_eq_true.1 plain first (mem_digitCharacters digit))
      refine ⟨first, others, rfl, noSpace, ne_of_property digit (by decide), ?_⟩
      intro stop rest stops noFraction
      rw [codeToken_of_plain noSymbol noQuote, if_pos digit,
        numberLength_digits further stops noFraction]

theorem standsAlone_numberLexeme (number : Nat) : StandsAlone (numberLexeme number) := by
  obtain ⟨first, others, text, noSpace, noPercent, token⟩ := exists_codeToken_toDigits number
  refine ⟨by simp [numberLexeme], first, others, text, noSpace, fun stop rest breaks => ?_⟩
  have stops : isNumberCharacter stop = false ∧ stop ≠ '.' := by
    rcases breaks with rfl | rfl <;> decide
  exact ⟨stripInitial?_endTag_of_ne noPercent,
    token stop rest stops.1 fun point => absurd point stops.2⟩

theorem standsAlone_stringLexeme (content : String) : StandsAlone (stringLexeme content) := by
  refine ⟨by simp [stringLexeme], '\'', _, rfl, by decide, fun stop rest _ => ?_⟩
  exact ⟨stripInitial?_endTag_of_ne (by decide),
    codeToken_literalText content.toList (stop :: rest)⟩

theorem standsAlone_literal {literal : Literal} (printable : literal.isPrintable = true) :
    StandsAlone literal.lexeme := by
  cases literal with
  | null => exact standsAlone_keyword .null
  | bool truth =>
      cases truth with
      | false => exact standsAlone_keyword .false
      | true => exact standsAlone_keyword .true
  | integer number => exact standsAlone_numberLexeme number.toInt.toNat
  | float number => cases printable
  | string content => exact standsAlone_stringLexeme content

theorem standsAlone_memberKey {key : MemberKey} (printable : key.isPrintable = true) :
    StandsAlone key.lexeme := by
  cases key with
  | field identifier => exact standsAlone_nameLexeme printable
  | position index span => exact standsAlone_numberLexeme index

/-! ## Printed code is cut into its lexemes -/

theorem standAlone_enclosed (least : Nat) (expression : Expression) {lexemes : List Lexeme}
    (alone : ∀ lexeme ∈ lexemes, StandsAlone lexeme) :
    ∀ lexeme ∈ enclosed least expression lexemes, StandsAlone lexeme := by
  unfold enclosed
  split
  · rw [List.forall_mem_cons, List.forall_mem_append, List.forall_mem_singleton]
    exact ⟨standsAlone_symbol _, alone, standsAlone_symbol _⟩
  · exact alone

mutual

theorem standAlone_lexemes : ∀ expression : Expression, expression.isPrintable = true →
    ∀ lexeme ∈ expression.lexemes, StandsAlone lexeme
  | .literal literal _, printable => by
      rw [Expression.lexemes, List.forall_mem_singleton]
      exact standsAlone_literal printable
  | .variable identifier, printable => by
      rw [Expression.lexemes, List.forall_mem_singleton]
      exact standsAlone_nameLexeme printable
  | .list items _, printable => by
      rw [Expression.lexemes, List.forall_mem_cons, List.forall_mem_append,
        List.forall_mem_singleton]
      exact ⟨standsAlone_symbol _, standAlone_lexemesOfAll items printable, standsAlone_symbol _⟩
  | .map entries _, printable => by
      obtain ⟨-, printable⟩ := Bool.and_eq_true_iff.1 printable
      rw [Expression.lexemes, List.forall_mem_cons, List.forall_mem_append,
        List.forall_mem_singleton]
      exact ⟨standsAlone_symbol _, standAlone_lexemesOfEntries entries printable,
        standsAlone_symbol _⟩
  | .member target key _, printable => by
      obtain ⟨printable, keyPrintable⟩ := Bool.and_eq_true_iff.1 printable
      rw [Expression.lexemes, List.forall_mem_append, List.forall_mem_cons,
        List.forall_mem_singleton]
      exact ⟨standAlone_enclosed _ _ (standAlone_lexemes target printable), standsAlone_symbol _,
        standsAlone_memberKey keyPrintable⟩
  | .index target selector _, printable => by
      obtain ⟨printable, selectorPrintable⟩ := Bool.and_eq_true_iff.1 printable
      rw [Expression.lexemes, List.forall_mem_append, List.forall_mem_cons,
        List.forall_mem_append, List.forall_mem_singleton]
      exact ⟨standAlone_enclosed _ _ (standAlone_lexemes target printable), standsAlone_symbol _,
        standAlone_lexemes selector selectorPrintable, standsAlone_symbol _⟩
  | .call function arguments _, printable => by
      obtain ⟨named, printable⟩ := Bool.and_eq_true_iff.1 printable
      simp only [Expression.lexemes, List.forall_mem_cons, List.forall_mem_append]
      exact ⟨standsAlone_nameLexeme named, standsAlone_symbol _,
        standAlone_lexemesOfAll arguments printable, standsAlone_symbol _, by simp⟩
  | .method name arguments _, printable => by
      obtain ⟨named, printable⟩ := Bool.and_eq_true_iff.1 printable
      have environment : isName environmentName = true := by decide
      simp only [Expression.lexemes, List.forall_mem_cons, List.forall_mem_append]
      exact ⟨standsAlone_nameLexeme environment, standsAlone_symbol _,
        standsAlone_nameLexeme named, standsAlone_symbol _,
        standAlone_lexemesOfAll arguments printable, standsAlone_symbol _, by simp⟩
  | .unary operator operand _, printable => by
      rw [Expression.lexemes, List.forall_mem_cons]
      exact ⟨standsAlone_symbol _, standAlone_enclosed _ _ (standAlone_lexemes operand printable)⟩
  | .binary operator left right _, printable => by
      obtain ⟨leftPrintable, rightPrintable⟩ := Bool.and_eq_true_iff.1 printable
      rw [Expression.lexemes, List.forall_mem_append, List.forall_mem_cons]
      exact ⟨standAlone_enclosed _ _ (standAlone_lexemes left leftPrintable), standsAlone_symbol _,
        standAlone_enclosed _ _ (standAlone_lexemes right rightPrintable)⟩

theorem standAlone_lexemesOfAll : ∀ expressions : List Expression,
    areAllPrintable expressions = true → ∀ lexeme ∈ lexemesOfAll expressions, StandsAlone lexeme
  | [], _ => by simp [lexemesOfAll]
  | first :: others, printable => by
      obtain ⟨firstPrintable, printable⟩ := Bool.and_eq_true_iff.1 printable
      rw [lexemesOfAll, List.forall_mem_append]
      exact ⟨standAlone_lexemes first firstPrintable, standAlone_lexemesOfOthers others printable⟩

theorem standAlone_lexemesOfOthers : ∀ expressions : List Expression,
    areAllPrintable expressions = true → ∀ lexeme ∈ lexemesOfOthers expressions, StandsAlone lexeme
  | [], _ => by simp [lexemesOfOthers]
  | item :: items, printable => by
      obtain ⟨itemPrintable, printable⟩ := Bool.and_eq_true_iff.1 printable
      rw [lexemesOfOthers, List.forall_mem_cons, List.forall_mem_append]
      exact ⟨standsAlone_symbol _, standAlone_lexemes item itemPrintable,
        standAlone_lexemesOfOthers items printable⟩

theorem standAlone_lexemesOfEntries : ∀ entries : List (Expression × Expression),
    areEntriesPrintable entries = true → ∀ lexeme ∈ lexemesOfEntries entries, StandsAlone lexeme
  | [], _ => by simp [lexemesOfEntries]
  | (key, value) :: others, printable => by
      obtain ⟨both, printable⟩ := Bool.and_eq_true_iff.1 printable
      obtain ⟨keyPrintable, valuePrintable⟩ := Bool.and_eq_true_iff.1 both
      rw [lexemesOfEntries, List.forall_mem_append, List.forall_mem_cons, List.forall_mem_append]
      exact ⟨standAlone_lexemes key keyPrintable, standsAlone_symbol _,
        standAlone_lexemes value valuePrintable, standAlone_lexemesOfOtherEntries others printable⟩

theorem standAlone_lexemesOfOtherEntries : ∀ entries : List (Expression × Expression),
    areEntriesPrintable entries = true →
      ∀ lexeme ∈ lexemesOfOtherEntries entries, StandsAlone lexeme
  | [], _ => by simp [lexemesOfOtherEntries]
  | (key, value) :: entries, printable => by
      obtain ⟨both, printable⟩ := Bool.and_eq_true_iff.1 printable
      obtain ⟨keyPrintable, valuePrintable⟩ := Bool.and_eq_true_iff.1 both
      simp only [lexemesOfOtherEntries, List.forall_mem_append, List.forall_mem_cons]
      exact ⟨standsAlone_symbol _, standAlone_lexemes key keyPrintable, standsAlone_symbol _,
        standAlone_lexemes value valuePrintable,
        standAlone_lexemesOfOtherEntries entries printable⟩

end

theorem lexes_append {rest : List Char} {first second : List Lexeme} :
    Lexes rest (first ++ second) ↔ Lexes (codeOf second ++ rest) first ∧ Lexes rest second := by
  induction first with
  | nil => simp [Lexes]
  | cons lexeme first inductionHypothesis =>
      have code : codeOf (first ++ second) ++ rest = codeOf first ++ (codeOf second ++ rest) := by
        simp [codeOf]
      simp only [List.cons_append, Lexes, inductionHypothesis, code, and_assoc]

theorem lexes_singleton {lexeme : Lexeme} (alone : StandsAlone lexeme) {stop : Char}
    (breaks : IsBreak stop) (rest : List Char) : Lexes (stop :: rest) [lexeme] := by
  obtain ⟨character, behind, text, -, cut⟩ := alone.cut
  exact ⟨⟨character, behind, text, cut stop rest breaks⟩, trivial⟩

theorem lexes_space {next : Char} (visible : isSpace next = false) (rest : List Char) :
    Lexes (next :: rest) [space] := by
  refine ⟨⟨' ', [], rfl, stripInitial?_endTag_of_ne (by decide), ?_⟩, trivial⟩
  have plain : ' ' ∉ symbolCharacters := by decide
  change codeToken ' ' (next :: rest) = _
  rw [codeToken_of_plain plain (by decide), if_neg (by decide), if_pos (by decide),
    List.takeWhile_cons_of_neg (by simp [visible])]

/-- Lexemes with a space between them begin with what the first one begins with. -/
theorem exists_codeOf_spaced {first : Lexeme} (alone : StandsAlone first) (others : List Lexeme) :
    ∃ next more, codeOf (spaced (first :: others)) = next :: more ∧ isSpace next = false := by
  obtain ⟨next, behind, text, visible, -⟩ := alone.cut
  have starts : ∃ later, spaced (first :: others) = first :: later := by
    cases others with
    | nil => exact ⟨[], rfl⟩
    | cons second others => exact ⟨space :: spaced (second :: others), rfl⟩
  obtain ⟨later, starts⟩ := starts
  refine ⟨next, behind ++ codeOf later, ?_, visible⟩
  rw [starts, codeOf, List.flatMap_cons, text]
  rfl

/-- Lexemes with a space between them are cut off one by one in front of a space or a semicolon. -/
theorem lexes_spaced {lexemes : List Lexeme} (alone : ∀ lexeme ∈ lexemes, StandsAlone lexeme)
    {stop : Char} (breaks : IsBreak stop) (rest : List Char) :
    Lexes (stop :: rest) (spaced lexemes) := by
  induction lexemes with
  | nil => trivial
  | cons first others inductionHypothesis =>
      obtain ⟨firstAlone, alone⟩ := List.forall_mem_cons.1 alone
      cases others with
      | nil => exact lexes_singleton firstAlone breaks rest
      | cons second others =>
          have later := inductionHypothesis alone
          have parts : spaced (first :: second :: others) =
              [first] ++ ([space] ++ spaced (second :: others)) := rfl
          obtain ⟨next, more, code, visible⟩ :=
            exists_codeOf_spaced (alone second List.mem_cons_self) others
          rw [parts, lexes_append, lexes_append]
          refine ⟨lexes_singleton firstAlone (.inl rfl) _, ?_, later⟩
          rw [code]
          exact lexes_space visible _

/-! ## Tokens that spell lexemes -/

def Token.lexeme (token : Token) : Lexeme := ⟨token.kind, token.text⟩

theorem lexeme_significantOf_place (offset : Nat) (lexemes : List Lexeme) :
    (significantOf (place offset lexemes)).map Token.lexeme =
      lexemes.filter fun lexeme => lexeme.kind ≠ .whitespace := by
  induction lexemes generalizing offset with
  | nil => rfl
  | cons lexeme lexemes inductionHypothesis =>
      obtain ⟨kind, text⟩ := lexeme
      have later := inductionHypothesis (offset + byteLength text)
      by_cases white : kind = .whitespace
      · simpa [place, significantOf, white] using later
      · simpa [place, significantOf, white, Token.lexeme] using later

theorem filter_spaced {lexemes : List Lexeme} (alone : ∀ lexeme ∈ lexemes, StandsAlone lexeme) :
    ((spaced lexemes).filter fun lexeme => lexeme.kind ≠ .whitespace) = lexemes := by
  induction lexemes with
  | nil => rfl
  | cons first others inductionHypothesis =>
      obtain ⟨firstAlone, alone⟩ := List.forall_mem_cons.1 alone
      have later := inductionHypothesis alone
      cases others with
      | nil => simp [spaced, firstAlone.visible]
      | cons second others =>
          have parts : spaced (first :: second :: others) =
              first :: space :: spaced (second :: others) := rfl
          rw [parts]
          simpa [firstAlone.visible, space] using later

end ViewTemplate.Fragment
