import ViewTemplate.Fragment.Clause

/-!
What readers leave behind. A reading that takes tokens off the front gives the same result whatever
follows the token at which it stops.
-/

namespace ViewTemplate.Fragment

/-- A reading gives a value and leaves tokens behind. -/
def Leaves {α : Type} {fits : List Token → Prop}
    (reading : Except SyntaxError (α × { rest : List Token // fits rest })) (value : α)
    (rest : List Token) : Prop :=
  ∃ proof, reading = .ok (value, ⟨rest, proof⟩)

section Leaves

variable {α β : Type} {fits later : List Token → Prop}

theorem Leaves.bind {reading : Except SyntaxError (α × { rest : List Token // fits rest })}
    {value : α} {rest : List Token} {result : β} {last : List Token}
    {next : α × { rest : List Token // fits rest } →
      Except SyntaxError (β × { rest : List Token // later rest })}
    (first : Leaves reading value rest)
    (second : ∀ proof, Leaves (next (value, ⟨rest, proof⟩)) result last) :
    Leaves (reading >>= next) result last := by
  obtain ⟨proof, rfl⟩ := first
  exact second proof

theorem leaves_pure (value : α) (rest : { rest : List Token // fits rest }) :
    Leaves (pure (value, rest)) value rest.1 :=
  ⟨rest.2, rfl⟩

end Leaves

variable {ending : Ending} {rest : List Token}

theorem leaves_readKind {kind : TokenKind} {token : Token} (same : token.kind = kind) :
    Leaves (readKind ending kind (token :: rest)) token rest :=
  ⟨_, by rw [readKind, if_pos same]; rfl⟩

/-! ## Where expressions end -/

/-- No operand goes on with a token of this kind. -/
structure EndsOperand (kind : TokenKind) : Prop where
  notDot : kind ≠ .symbol .dot
  notBracket : kind ≠ .symbol .leftBracket
  notCall : kind ≠ .symbol .leftParenthesis

/-- No expression goes on with a token of this kind. -/
structure EndsExpression (kind : TokenKind) : Prop where
  notDot : kind ≠ .symbol .dot
  notBracket : kind ≠ .symbol .leftBracket
  notCall : kind ≠ .symbol .leftParenthesis
  notOperator : binaryOperator? kind = none

theorem EndsExpression.endsOperand {kind : TokenKind} (stop : EndsExpression kind) :
    EndsOperand kind :=
  ⟨stop.notDot, stop.notBracket, stop.notCall⟩

theorem endsExpression_semicolon : EndsExpression (.symbol .semicolon) := by
  constructor <;> decide

theorem endsExpression_comma : EndsExpression (.symbol .comma) := by
  constructor <;> decide

theorem endsExpression_arrow : EndsExpression (.symbol .arrow) := by
  constructor <;> decide

theorem endsExpression_rightBracket : EndsExpression (.symbol .rightBracket) := by
  constructor <;> decide

theorem endsExpression_rightParenthesis : EndsExpression (.symbol .rightParenthesis) := by
  constructor <;> decide

variable {expression operand : Reader Expression} {token : Token}

theorem leaves_readSelectors (target : Expression) (stop : EndsOperand token.kind) :
    Leaves (readSelectors ending expression target (token :: rest)) target (token :: rest) := by
  rw [readSelectors]
  simp only [peek, bind, Except.bind]
  split
  next dot => exact absurd (Option.some.inj dot) stop.notDot
  next bracket => exact absurd (Option.some.inj bracket) stop.notBracket
  next => exact leaves_pure target (NotLonger.untouched (token :: rest))

theorem leaves_climb_of_le {least : Nat} (left : Expression)
    (looser : ∀ operator, binaryOperator? token.kind = some operator →
      precedence operator ≤ least) :
    Leaves (climb ending operand least left (token :: rest)) left (token :: rest) := by
  rw [climb]
  simp only [peek, bind, Except.bind, Option.bind]
  split
  next operator found =>
    rw [if_pos (looser operator found)]
    exact leaves_pure left (NotLonger.untouched (token :: rest))
  next => exact leaves_pure left (NotLonger.untouched (token :: rest))

theorem leaves_climb {least : Nat} (left : Expression) (stop : EndsExpression token.kind) :
    Leaves (climb ending operand least left (token :: rest)) left (token :: rest) :=
  leaves_climb_of_le left (by simp [stop.notOperator])

/-- A primary expression in front of a token that ends it is an operand. -/
theorem leaves_readOperand {first : Token} {tokens : List Token} {value : Expression}
    (noOperator : unaryOperator? first.kind = none)
    (primary : Leaves (readPrimary ending expression (first :: tokens)) value (token :: rest))
    (stop : EndsExpression token.kind) :
    Leaves (readOperand ending operand expression (first :: tokens)) value (token :: rest) := by
  rw [readOperand, noOperator]
  refine primary.bind fun proof => ?_
  refine (leaves_readSelectors value stop.endsOperand).bind fun proof => ?_
  exact leaves_pure value _

theorem leaves_readBinary {tokens : List Token} {value : Expression}
    (first : Leaves (operand tokens) value (token :: rest)) (stop : EndsExpression token.kind) :
    Leaves (readBinary ending operand tokens) value (token :: rest) := by
  refine first.bind fun proof => ?_
  refine (leaves_climb value stop).bind fun proof => ?_
  exact leaves_pure value _

/-! ## Arguments -/

variable {first close : Token} {tokens : List Token}

theorem leaves_readArguments_nil (closes : close.kind = .symbol .rightParenthesis) :
    Leaves (readArguments ending expression (close :: rest)) ([], close) rest := by
  rw [readArguments]
  simp only [peek, bind, Except.bind, closes]
  exact (leaves_readKind closes).bind fun proof => leaves_pure ([], close) _

theorem leaves_readArguments_last {value : Expression}
    (opens : first.kind ≠ .symbol .rightParenthesis)
    (argument : Leaves (expression (first :: tokens)) value (close :: rest))
    (closes : close.kind = .symbol .rightParenthesis) :
    Leaves (readArguments ending expression (first :: tokens)) ([value], close) rest := by
  obtain ⟨shorter, read⟩ := argument
  rw [readArguments]
  simp only [peek, bind, Except.bind]
  split
  next closing => exact absurd (Option.some.inj closing) opens
  next =>
    rw [read]
    simp only [closes]
    exact (leaves_readKind closes).bind fun proof => leaves_pure ([value], close) _

theorem leaves_readArguments_cons {value : Expression} {values : List Expression} {comma : Token}
    {inner : List Token} (opens : first.kind ≠ .symbol .rightParenthesis)
    (argument : Leaves (expression (first :: tokens)) value (comma :: inner))
    (separates : comma.kind = .symbol .comma)
    (others : Leaves (readArguments ending expression inner) (values, close) rest) :
    Leaves (readArguments ending expression (first :: tokens)) (value :: values, close) rest := by
  obtain ⟨shorter, read⟩ := argument
  rw [readArguments]
  simp only [peek, bind, Except.bind]
  split
  next closing => exact absurd (Option.some.inj closing) opens
  next =>
    rw [read]
    simp only [separates]
    refine (leaves_readKind separates).bind fun proof => ?_
    exact others.bind fun proof => leaves_pure (value :: values, close) _

/-! ## Operands -/

theorem leaves_readPrimary_string {literal : Literal} (string : first.kind = .string)
    (denotes : readString first = .ok literal) :
    Leaves (readPrimary ending expression (first :: rest)) (.literal literal first.span) rest := by
  rw [readPrimary, string, denotes]
  exact leaves_pure _ (Shorter.tail first rest)

/-- A name in front of anything but a call is a variable. -/
theorem leaves_readPrimary_variable {next : Token} (named : first.kind = .identifier)
    (notCall : next.kind ≠ .symbol .leftParenthesis) :
    Leaves (readPrimary ending expression (first :: next :: rest)) (.variable first.identifier)
      (next :: rest) := by
  rw [readPrimary, named]
  simp only [peek, bind, Except.bind, Shorter.tail]
  split
  next call => exact absurd (Option.some.inj call) notCall
  next => exact leaves_pure _ _

variable {opening : Token} {arguments : List Expression}

theorem leaves_readPrimary_call {inner : List Token} (name : first.kind = .identifier)
    (opens : opening.kind = .symbol .leftParenthesis)
    (called : Leaves (readArguments ending expression inner) (arguments, close) rest) :
    Leaves (readPrimary ending expression (first :: opening :: inner))
      (.call first.identifier arguments (first.span.cover close.span)) rest := by
  rw [readPrimary, name]
  simp only [peek, bind, Except.bind, Shorter.tail, opens]
  refine (leaves_readKind opens).bind fun proof => ?_
  exact called.bind fun proof => leaves_pure _ _

/-- A call on the environment is read as one, up to a token that ends it. -/
theorem leaves_readOperand_method {dot name token : Token} {inner : List Token}
    (target : first.kind = .identifier) (environment : String.ofList first.text = environmentName)
    (selects : dot.kind = .symbol .dot) (method : name.kind = .identifier)
    (opens : opening.kind = .symbol .leftParenthesis)
    (called : Leaves (readArguments ending expression inner) (arguments, close) (token :: rest))
    (stop : EndsExpression token.kind) :
    Leaves (readOperand ending operand expression (first :: dot :: name :: opening :: inner))
      (.method name.identifier arguments (first.span.cover close.span)) (token :: rest) := by
  have noOperator : unaryOperator? first.kind = none := by rw [target]; rfl
  have notCall : dot.kind ≠ .symbol .leftParenthesis := by simp [selects]
  have member : Leaves (readMember ending expression (.variable first.identifier)
      (name :: opening :: inner))
      (.method name.identifier arguments (first.span.cover close.span)) (token :: rest) := by
    rw [readMember, method]
    simp only [peek, bind, Except.bind, Shorter.tail, opens]
    rw [if_pos (by rw [isEnvironment]; exact beq_iff_eq.2 environment)]
    refine (leaves_readKind opens).bind fun proof => ?_
    exact called.bind fun proof => leaves_pure _ _
  rw [readOperand, noOperator]
  refine (leaves_readPrimary_variable target notCall).bind fun proof => ?_
  have selected : Leaves (readSelectors ending expression (.variable first.identifier)
      (dot :: name :: opening :: inner))
      (.method name.identifier arguments (first.span.cover close.span)) (token :: rest) := by
    rw [readSelectors]
    simp only [peek, bind, Except.bind, selects]
    refine (leaves_readKind selects).bind fun proof => ?_
    refine member.bind fun proof => ?_
    exact (leaves_readSelectors _ stop.endsOperand).bind fun proof => leaves_pure _ _
  exact selected.bind fun proof => leaves_pure _ _

/-! ## Levels -/

/-- On every level an operand is read alike, up to what stands deeper. -/
theorem exists_operandAt (levels : Nat) :
    ∃ operand expression, operandAt ending levels = readOperand ending operand expression := by
  cases levels with
  | zero => exact ⟨_, _, rfl⟩
  | succ levels => exact ⟨_, _, rfl⟩

variable {token : Token}

theorem leaves_argument_string (levels : Nat) {literal : Literal} (string : first.kind = .string)
    (denotes : readString first = .ok literal) (stop : EndsExpression token.kind) :
    Leaves (readBinary ending (operandAt ending levels) (first :: token :: rest))
      (.literal literal first.span) (token :: rest) := by
  obtain ⟨operand, expression, same⟩ := exists_operandAt levels
  rw [same]
  have noOperator : unaryOperator? first.kind = none := by rw [string]; rfl
  exact leaves_readBinary
    (leaves_readOperand noOperator (leaves_readPrimary_string string denotes) stop) stop

theorem leaves_argument_call (levels : Nat) (name : first.kind = .identifier)
    (opens : opening.kind = .symbol .leftParenthesis)
    (closes : close.kind = .symbol .rightParenthesis) (stop : EndsExpression token.kind) :
    Leaves
      (readBinary ending (operandAt ending levels) (first :: opening :: close :: token :: rest))
      (.call first.identifier [] (first.span.cover close.span)) (token :: rest) := by
  obtain ⟨operand, expression, same⟩ := exists_operandAt levels
  rw [same]
  have noOperator : unaryOperator? first.kind = none := by rw [name]; rfl
  exact leaves_readBinary
    (leaves_readOperand noOperator
      (leaves_readPrimary_call name opens (leaves_readArguments_nil closes)) stop) stop

/-! ## Clauses -/

theorem readClauses_raw {raw : Token} (kind : raw.kind = .raw) :
    readClauses ending false (raw :: rest) =
      (readClauses ending false rest).cons ⟨.action (.raw (String.ofList raw.text)), raw.span⟩ := by
  rw [readClauses, kind]

theorem readClauses_beginTag {mark : Token} (kind : mark.kind = .beginTag) :
    readClauses ending false (mark :: rest) = readClauses ending true rest := by
  rw [readClauses, kind]

theorem readClauses_endTag {mark : Token} (kind : mark.kind = .endTag) :
    readClauses ending true (mark :: rest) = readClauses ending false rest := by
  rw [readClauses, kind]

theorem readClauses_comment {comment : Token} (kind : comment.kind = .comment) :
    readClauses ending true (comment :: rest) = readClauses ending true rest := by
  rw [readClauses, kind]

theorem readClauses_semicolon {semicolon : Token} (kind : semicolon.kind = .symbol .semicolon) :
    readClauses ending true (semicolon :: rest) = readClauses ending true rest := by
  rw [readClauses, kind]

theorem readClauses_clause {first : Token} {tokens : List Token} {clause : Clause}
    (notEnd : first.kind ≠ .endTag) (notComment : first.kind ≠ .comment)
    (notSemicolon : first.kind ≠ .symbol .semicolon)
    (read : Leaves (readClause ending (first :: tokens)) clause rest) :
    readClauses ending true (first :: tokens) =
      (readClauses ending true rest).cons ⟨clause, first.span⟩ := by
  obtain ⟨proof, read⟩ := read
  rw [readClauses]
  split
  next isEnd => exact absurd isEnd notEnd
  next isComment => exact absurd isComment notComment
  next isSemicolon => exact absurd isSemicolon notSemicolon
  next => simp only [read]

/-- Only fragments whose scan comes to the end are read to the end. -/
theorem ending_of_readClauses {inTag : Bool} {tokens : List Token} {length : Nat}
    (complete : (readClauses ending inTag tokens).ending = .complete length) :
    ending = .complete length := by
  fun_induction readClauses ending inTag tokens with
  | case1 => exact complete
  | case2 token rest raw inductionHypothesis => exact inductionHypothesis complete
  | case3 token rest tag inductionHypothesis => exact inductionHypothesis complete
  | case4 => cases complete
  | case5 => cases complete
  | case6 token rest tag inductionHypothesis => exact inductionHypothesis complete
  | case7 token rest comment inductionHypothesis => exact inductionHypothesis complete
  | case8 token rest semicolon inductionHypothesis => exact inductionHypothesis complete
  | case9 => cases complete
  | case10 token rest _ _ _ clause behind _ inductionHypothesis =>
      exact inductionHypothesis complete

/-! ## Calls on the environment -/

section EnvironmentCall

variable {dot name : Token} {inner : List Token} (target : first.kind = .identifier)
  (environment : String.ofList first.text = environmentName) (selects : dot.kind = .symbol .dot)
  (method : name.kind = .identifier) (opens : opening.kind = .symbol .leftParenthesis)
  (called : Leaves
    (readArguments ending (readBinary ending (operandAt ending (maxDepth - 2))) inner)
    (arguments, close) (token :: rest))
  (stop : EndsExpression token.kind)

include target environment selects method opens called stop

theorem leaves_readExpression_method :
    Leaves (readExpression ending (first :: dot :: name :: opening :: inner))
      (.method name.identifier arguments (first.span.cover close.span)) (token :: rest) := by
  refine leaves_readBinary ?_ stop
  exact leaves_readOperand_method target environment selects method opens called stop

theorem readClauses_method :
    readClauses ending true (first :: dot :: name :: opening :: inner) =
      (readClauses ending true (token :: rest)).cons
        ⟨.action (.evaluate (.method name.identifier arguments (first.span.cover close.span))),
          first.span⟩ := by
  refine readClauses_clause (by simp [target]) (by simp [target]) (by simp [target]) ?_
  rw [readClause, target]
  refine (leaves_readExpression_method target environment selects method opens called stop).bind
    fun proof => ?_
  exact leaves_pure _ _

theorem readClauses_echo_method {echo : Token} (keyword : echo.kind = .keyword .echo) :
    readClauses ending true (echo :: first :: dot :: name :: opening :: inner) =
      (readClauses ending true (token :: rest)).cons
        ⟨.action (.echo (.method name.identifier arguments (first.span.cover close.span))),
          echo.span⟩ := by
  refine readClauses_clause (by simp [keyword]) (by simp [keyword]) (by simp [keyword]) ?_
  rw [readClause, keyword]
  have clause : Leaves
      (readKeywordClause ending echo .echo (first :: dot :: name :: opening :: inner))
      (.action (.echo (.method name.identifier arguments (first.span.cover close.span))))
      (token :: rest) :=
    (leaves_readExpression_method target environment selects method opens called stop).bind
      fun proof => leaves_pure _ _
  exact clause.bind fun proof => leaves_pure _ _

end EnvironmentCall

end ViewTemplate.Fragment
