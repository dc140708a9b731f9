import ViewTemplate.Decimal.Notation
import ViewTemplate.Fragment.Expression
import ViewTemplate.Fragment.Reader

/-!
Reading expressions. Binary operators are read by climbing their precedences, operators of equal
precedence from left to right. Expressions may stand at most `maxDepth` deep inside each other;
`operand` and `expression` recurse on the levels that are left.
-/

namespace ViewTemplate.Fragment

open ViewTemplate.Text

/-- How deep expressions may stand inside each other. -/
def maxDepth : Nat := 128

def environmentName : String := "__env"

/-! ## Literals -/

/-- The number of a literal, without its underscores: a float if it has a point. -/
def readNumber (token : Token) : Except SyntaxError Literal :=
  let digits := token.text.filter (· ≠ '_')
  match breakOn? ['.'] digits with
  | some (whole, fraction) => .ok (.float (Decimal.ofParts whole fraction))
  | none =>
      let number := Decimal.digitsValue digits
      if Value.fits number then .ok (.integer (Int64.ofNat number))
      else .error ⟨.integerRange, token.span⟩

def readIndex (token : Token) : Except SyntaxError Nat :=
  let digits := token.text.filter (· ≠ '_')
  let index := Decimal.digitsValue digits
  if '.' ∉ digits ∧ index < UInt64.size then .ok index
  else .error ⟨.indexRange, token.span⟩

/-- The character that an escape stands for, by the character behind the backslash. -/
def escaped? : Char → Option Char
  | 'n' => some '\n'
  | 'r' => some '\r'
  | 't' => some '\t'
  | '0' => some (Char.ofNat 0)
  | '\\' => some '\\'
  | '\'' => some '\''
  | '"' => some '"'
  | _ => none

/-- The text of a string between its quotes, whose first character stands at `offset`. -/
def unescape (offset : Nat) : List Char → Except SyntaxError (List Char)
  | [] => .ok []
  | character :: text =>
      if character = '\\' then
        match text with
        | [] => .ok []
        | letter :: text =>
            let stop := offset + 1 + letter.utf8Size
            match escaped? letter with
            | some meant => (unescape stop text).map (meant :: ·)
            | none => .error ⟨.unknownEscape, ⟨offset, stop⟩⟩
      else (unescape (offset + character.utf8Size) text).map (character :: ·)

def readString (token : Token) : Except SyntaxError Literal := do
  let content ← unescape (token.start + 1) (token.text.drop 1).dropLast
  .ok (.string (String.ofList content))

/-- The literal that a keyword stands for. -/
def keywordLiteral? : Keyword → Option Literal
  | .true => some (.bool true)
  | .false => some (.bool false)
  | .null => some .null
  | .none => some .null
  | _ => none

def Token.identifier (token : Token) : Identifier :=
  ⟨String.ofList token.text, token.span⟩

/-! ## Operators -/

/-- The operator that a kind of token stands for in front of an operand. -/
def unaryOperator? : TokenKind → Option UnaryOperator
  | .symbol .bang => some .not
  | .symbol .minus => some .negate
  | _ => none

/-- The operator that a kind of token stands for between operands. -/
def binaryOperator? : TokenKind → Option BinaryOperator
  | .symbol .or => some .or
  | .symbol .and => some .and
  | .symbol .equal => some .equal
  | .symbol .notEqual => some .notEqual
  | .symbol .less => some .less
  | .symbol .lessEqual => some .lessEqual
  | .symbol .greater => some .greater
  | .symbol .greaterEqual => some .greaterEqual
  | .symbol .plus => some .add
  | .symbol .minus => some .subtract
  | .symbol .star => some .multiply
  | .symbol .slash => some .divide
  | .symbol .percent => some .remainder
  | _ => none

variable (ending : Ending)

/-! ## Lists of expressions -/

/-- Reads call arguments behind their opening parenthesis, and the closing one. A comma may stand
behind the last argument. -/
def readArguments (expression : Reader Expression) (tokens : List Token) :
    Except SyntaxError ((List Expression × Token) × Shorter tokens) := do
  match ← peek ending tokens with
  | some (.symbol .rightParenthesis) =>
      let (close, rest) ← readKind ending (.symbol .rightParenthesis) tokens
      return (([], close), rest)
  | _ => pure ()
  let (first, behind) ← expression tokens
  match ← peek ending behind.1 with
  | some (.symbol .comma) =>
      let (_, next) ← readKind ending (.symbol .comma) behind.1
      let ((others, close), rest) ← readArguments expression next.1
      return ((first :: others, close), behind.andThen (next.andThen rest))
  | _ =>
      let (close, rest) ← readKind ending (.symbol .rightParenthesis) behind.1
      return (([first], close), behind.andThen rest)
termination_by tokens.length
decreasing_by exact (behind.andThen next).2

/-- Reads the further items of a list, each behind a comma. A comma may stand behind the last. -/
def readItems (expression : Reader Expression) (tokens : List Token) :
    Except SyntaxError (List Expression × NotLonger tokens) := do
  match ← peek ending tokens with
  | some (.symbol .comma) =>
      let (_, behind) ← readKind ending (.symbol .comma) tokens
      match ← peek ending behind.1 with
      | some (.symbol .rightBracket) => return ([], behind.weaken)
      | _ =>
          let (item, next) ← expression behind.1
          let (items, rest) ← readItems expression next.1
          return (item :: items, (behind.andThen (next.upTo rest)).weaken)
  | _ => return ([], .untouched tokens)
termination_by tokens.length
decreasing_by exact (behind.andThen next).2

/-- Reads the further entries of a map, each behind a comma. A comma may stand behind the last. -/
def readEntries (expression : Reader Expression) (tokens : List Token) :
    Except SyntaxError (List (Expression × Expression) × NotLonger tokens) := do
  match ← peek ending tokens with
  | some (.symbol .comma) =>
      let (_, behind) ← readKind ending (.symbol .comma) tokens
      match ← peek ending behind.1 with
      | some (.symbol .rightBracket) => return ([], behind.weaken)
      | _ =>
          let (key, afterKey) ← expression behind.1
          let (_, afterArrow) ← readKind ending (.symbol .arrow) afterKey.1
          let (value, next) ← expression afterArrow.1
          let (entries, rest) ← readEntries expression next.1
          return ((key, value) :: entries,
            (behind.andThen (afterKey.andThen (afterArrow.andThen (next.upTo rest)))).weaken)
  | _ => return ([], .untouched tokens)
termination_by tokens.length
decreasing_by exact (behind.andThen (afterKey.andThen (afterArrow.andThen next))).2

/-- Reads a list or a map behind its opening bracket. An arrow behind the first expression makes it
a map. -/
def readBracketed (expression : Reader Expression) (opening : Token) : Reader Expression :=
  fun tokens => do
    match ← peek ending tokens with
    | some (.symbol .rightBracket) =>
        let (close, rest) ← readKind ending (.symbol .rightBracket) tokens
        return (.list [] (opening.span.cover close.span), rest)
    | _ => pure ()
    let (first, behind) ← expression tokens
    match ← peek ending behind.1 with
    | some (.symbol .arrow) =>
        let (_, afterArrow) ← readKind ending (.symbol .arrow) behind.1
        let (value, next) ← expression afterArrow.1
        let (entries, last) ← readEntries ending expression next.1
        let (close, rest) ← readKind ending (.symbol .rightBracket) last.1
        return (.map ((first, value) :: entries) (opening.span.cover close.span),
          behind.andThen (afterArrow.andThen (next.andThen (last.andThen rest))))
    | _ =>
        let (items, last) ← readItems ending expression behind.1
        let (close, rest) ← readKind ending (.symbol .rightBracket) last.1
        return (.list (first :: items) (opening.span.cover close.span),
          behind.andThen (last.andThen rest))

/-! ## Operands -/

/-- Reads a variable, a literal, a function call, or an expression in parentheses. -/
def readPrimary (expression : Reader Expression) : Reader Expression
  | [] => .error (ending.missing .anyToken)
  | token :: tokens => do
      let behind := Shorter.tail token tokens
      match token.kind with
      | .keyword keyword =>
          match keywordLiteral? keyword with
          | some literal => return (.literal literal token.span, behind)
          | none => .error ⟨.unexpectedKeyword keyword, token.span⟩
      | .number =>
          let literal ← readNumber token
          return (.literal literal token.span, behind)
      | .string =>
          let literal ← readString token
          return (.literal literal token.span, behind)
      | .identifier =>
          match ← peek ending behind.1 with
          | some (.symbol .leftParenthesis) =>
              let (_, inner) ← readKind ending (.symbol .leftParenthesis) behind.1
              let ((arguments, close), rest) ← readArguments ending expression inner.1
              return (.call token.identifier arguments (token.span.cover close.span),
                behind.andThen (inner.andThen rest))
          | _ => return (.variable token.identifier, behind)
      | .symbol .leftParenthesis =>
          let (inner, last) ← expression behind.1
          let (_, rest) ← readKind ending (.symbol .rightParenthesis) last.1
          return (inner, behind.andThen (last.andThen rest))
      | .symbol .leftBracket =>
          let (bracketed, rest) ← readBracketed ending expression token behind.1
          return (bracketed, behind.andThen rest)
      | other => .error ⟨.expected .expression (some other), token.span⟩

/-- Whether an expression is the name of the environment. -/
def isEnvironment : Expression → Bool
  | .variable identifier => identifier.name == environmentName
  | _ => false

/-- Reads the key of a member access, or the name and arguments of a call on the environment,
behind the point. -/
def readMember (expression : Reader Expression) (target : Expression) : Reader Expression
  | [] => .error (ending.missing .anyToken)
  | token :: tokens => do
      let behind := Shorter.tail token tokens
      match token.kind with
      | .identifier =>
          match ← peek ending behind.1 with
          | some (.symbol .leftParenthesis) =>
              if isEnvironment target then
                let (_, inner) ← readKind ending (.symbol .leftParenthesis) behind.1
                let ((arguments, close), rest) ← readArguments ending expression inner.1
                return (.method token.identifier arguments (target.span.cover close.span),
                  behind.andThen (inner.andThen rest))
              else .error ⟨.methodReceiver, target.span.cover token.span⟩
          | _ =>
              return (.member target (.field token.identifier) (target.span.cover token.span),
                behind)
      | .number =>
          let index ← readIndex token
          return (.member target (.position index token.span) (target.span.cover token.span),
            behind)
      | other => .error ⟨.expected .identifierOrIndex (some other), token.span⟩

/-- Reads any number of member accesses, calls and indexes behind their target. -/
def readSelectors (expression : Reader Expression) (target : Expression) (tokens : List Token) :
    Except SyntaxError (Expression × NotLonger tokens) := do
  match ← peek ending tokens with
  | some (.symbol .dot) =>
      let (_, behind) ← readKind ending (.symbol .dot) tokens
      let (selected, next) ← readMember ending expression target behind.1
      let (whole, rest) ← readSelectors expression selected next.1
      return (whole, (behind.andThen (next.upTo rest)).weaken)
  | some (.symbol .leftBracket) =>
      let (_, behind) ← readKind ending (.symbol .leftBracket) tokens
      let (selector, last) ← expression behind.1
      let (close, next) ← readKind ending (.symbol .rightBracket) last.1
      let selected := .index target selector (target.span.cover close.span)
      let (whole, rest) ← readSelectors expression selected next.1
      return (whole, (behind.andThen (last.andThen (next.upTo rest))).weaken)
  | _ => return (target, .untouched tokens)
termination_by tokens.length
decreasing_by
  · exact (behind.andThen next).2
  · exact (behind.andThen (last.andThen next)).2

/-- Reads an operand: operators in front of a primary expression with its selectors. `operand` and
`expression` read what stands one level deeper. -/
def readOperand (operand expression : Reader Expression) : Reader Expression
  | [] => .error (ending.missing .anyToken)
  | token :: tokens => do
      match unaryOperator? token.kind with
      | some operator =>
          let behind := Shorter.tail token tokens
          let (inner, rest) ← operand behind.1
          return (.unary operator inner (token.span.cover inner.span), behind.andThen rest)
      | none =>
          let (primary, next) ← readPrimary ending expression (token :: tokens)
          let (whole, rest) ← readSelectors ending expression primary next.1
          return (whole, next.upTo rest)

/-! ## Binary operators -/

/-- Reads operators that bind tighter than `least`, with their right operands, behind the left
operand. -/
def climb (operand : Reader Expression) (least : Nat) (left : Expression)
    (tokens : List Token) : Except SyntaxError (Expression × NotLonger tokens) := do
  match (← peek ending tokens).bind binaryOperator? with
  | some operator =>
      if precedence operator ≤ least then return (left, .untouched tokens)
      else
        let (_, behind) ← readAny ending tokens
        let (first, next) ← operand behind.1
        let (right, last) ← climb operand (precedence operator) first next.1
        let joined := .binary operator left right (left.span.cover right.span)
        let (whole, rest) ← climb operand least joined last.1
        return (whole, (behind.andThen (next.upTo (last.upTo rest))).weaken)
  | none => return (left, .untouched tokens)
termination_by tokens.length
decreasing_by
  · exact (behind.andThen next).2
  · exact (behind.andThen (next.upTo last)).2

/-- Reads operands joined by binary operators. -/
def readBinary (operand : Reader Expression) : Reader Expression := fun tokens => do
  let (first, behind) ← operand tokens
  let (whole, rest) ← climb ending operand 0 first behind.1
  return (whole, behind.upTo rest)

/-! ## Levels -/

/-- Reads an operand inside which expressions may stand `levels` deep. -/
def operandAt : (levels : Nat) → Reader Expression
  | 0 => readOperand ending (readTooDeep ending) (readTooDeep ending)
  | levels + 1 =>
      readOperand ending (operandAt levels) (readBinary ending (operandAt levels))

/-- Reads an expression that may be `levels` deep. -/
def expressionAt : (levels : Nat) → Reader Expression
  | 0 => readTooDeep ending
  | levels + 1 => readBinary ending (operandAt ending levels)

def readExpression : Reader Expression :=
  expressionAt ending maxDepth

end ViewTemplate.Fragment
