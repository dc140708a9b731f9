import ViewTemplate.Proofs.Printing

/-!
What tokens are read as. Tokens are read as a primary expression, as an operand, or as operands with
operators of some strength between them, whatever follows that cannot belong to them; each form of
expression puts such tokens together.
-/

namespace ViewTemplate.Fragment

open ViewTemplate.Text

/-! ## Literals -/

theorem digitsValue_toDigits (number : Nat) :
    Decimal.digitsValue (Nat.toDigits 10 number) = number :=
  Nat.ofDigitChars_ten_toDigits

section Digits

variable {token : Token} {number : Nat} (spelled : token.text = Nat.toDigits 10 number)
include spelled

theorem isDigit_of_spelled {character : Char} (member : character ∈ token.text) :
    character.isDigit = true :=
  Nat.isDigit_of_mem_toDigits (by decide) (by decide) (spelled ▸ member)

theorem filter_underscore : token.text.filter (· ≠ '_') = Nat.toDigits 10 number := by
  rw [← spelled, List.filter_eq_self]
  intro character member
  have digit := isDigit_of_spelled spelled member
  simpa using ne_of_property digit (by decide)

theorem point_not_mem : '.' ∉ Nat.toDigits 10 number := by
  intro member
  have digit := isDigit_of_spelled spelled (spelled ▸ member)
  simp at digit

theorem readIndex_of_spelled (small : number < UInt64.size) : readIndex token = .ok number := by
  have noPoint := point_not_mem spelled
  simp only [readIndex, filter_underscore spelled, digitsValue_toDigits]
  rw [if_pos ⟨noPoint, small⟩]

theorem readNumber_of_spelled (small : Value.fits number = true) :
    readNumber token = .ok (.integer (Int64.ofNat number)) := by
  have whole : breakOn? ['.'] (Nat.toDigits 10 number) = none := by
    cases found : breakOn? ['.'] (Nat.toDigits 10 number) with
    | none => rfl
    | some parts =>
        have text := breakOn?_append found
        exact absurd (by rw [text]; simp) (point_not_mem spelled)
  simp only [readNumber, filter_underscore spelled, whole, digitsValue_toDigits, small, if_true]

end Digits

theorem readNumber_integer {token : Token} {number : Int64} (positive : 0 ≤ number)
    (spelled : token.text = Nat.toDigits 10 number.toInt.toNat) :
    readNumber token = .ok (.integer number) := by
  have integer : (number.toInt.toNat : Int) = number.toInt :=
    Int.toNat_of_nonneg (by simpa [Int64.le_iff_toInt_le] using positive)
  have fits : Value.fits (number.toInt.toNat : Int) = true := by
    rw [integer, Value.fits, Bool.and_eq_true, decide_eq_true_eq, decide_eq_true_eq]
    exact ⟨number.minValue_le_toInt, number.toInt_le⟩
  have back : Int64.ofNat number.toInt.toNat = number := by
    rw [← Int64.ofInt_eq_ofNat, integer, Int64.ofInt_toInt]
  rw [readNumber_of_spelled spelled fits, back]

/-- The token of a literal is read as that literal. -/
theorem leaves_readPrimary_literal {literal : Literal} {token : Token}
    (printable : literal.isPrintable = true) (spelled : token.lexeme = literal.lexeme)
    (ending : Ending) (expression : Reader Expression) (rest : List Token) :
    unaryOperator? token.kind = none ∧
      Leaves (readPrimary ending expression (token :: rest)) (.literal literal token.span)
        rest := by
  have keyword (word : Keyword) (spelled : token.lexeme = word.lexeme)
      (denotes : keywordLiteral? word = some literal) : unaryOperator? token.kind = none ∧
      Leaves (readPrimary ending expression (token :: rest))
        (.literal literal token.span) rest := by
    have kind : token.kind = .keyword word := congrArg Lexeme.kind spelled
    refine ⟨by rw [kind]; rfl, ?_⟩
    rw [readPrimary, kind]
    simp only [denotes]
    exact leaves_pure _ (Shorter.tail token rest)
  cases literal with
  | null => exact keyword .null spelled rfl
  | bool truth =>
      cases truth with
      | false => exact keyword .false spelled rfl
      | true => exact keyword .true spelled rfl
  | integer number =>
      have kind : token.kind = .number := congrArg Lexeme.kind spelled
      have text : token.text = Nat.toDigits 10 number.toInt.toNat :=
        congrArg Lexeme.text spelled
      refine ⟨by rw [kind]; rfl, ?_⟩
      rw [readPrimary, kind, readNumber_integer (of_decide_eq_true printable) text]
      exact leaves_pure _ (Shorter.tail token rest)
  | float number => cases printable
  | string content =>
      have kind : token.kind = .string := congrArg Lexeme.kind spelled
      have text : token.text = literalText content.toList := congrArg Lexeme.text spelled
      refine ⟨by rw [kind]; rfl, leaves_readPrimary_string kind ?_⟩
      rw [readString_literalText text, String.ofList_toList]

/-! ## What tokens are read as -/

/-- Reads an operand one level deeper. -/
def operandBelow (ending : Ending) : Nat → Reader Expression
  | 0 => readTooDeep ending
  | levels + 1 => operandAt ending levels

theorem operandAt_eq (ending : Ending) (levels : Nat) :
    operandAt ending levels =
      readOperand ending (operandBelow ending levels) (expressionAt ending levels) := by
  cases levels <;> rfl

section Reads

variable (levels : Nat) (tokens : List Token) (read : Expression)

/-- The tokens are read as something that selectors may stand behind. -/
def ReadsPrimary : Prop :=
  ∀ ending next rest whole last, next.kind ≠ .symbol .leftParenthesis →
    Leaves (readSelectors ending (expressionAt ending levels) read (next :: rest)) whole last →
      Leaves (operandAt ending levels (tokens ++ next :: rest)) whole last

/-- The tokens are read as an operand. -/
def ReadsOperand : Prop :=
  ∀ ending next rest, EndsOperand next.kind →
    Leaves (operandAt ending levels (tokens ++ next :: rest)) read (next :: rest)

/-- The tokens are read as operands and the operators between them, none of which binds as loosely
as an operator that stands in front. An operator that follows does not bind tighter than those. -/
def ReadsAbove (strength : Nat) : Prop :=
  ∀ ending next rest least whole last, least < strength → EndsOperand next.kind →
    (∀ operator, binaryOperator? next.kind = some operator → precedence operator ≤ strength) →
      Leaves (climb ending (operandAt ending levels) least read (next :: rest)) whole last →
        ∃ first behind, Leaves (operandAt ending levels (tokens ++ next :: rest)) first behind ∧
          Leaves (climb ending (operandAt ending levels) least first behind) whole last

/-- The tokens are read as an expression. -/
def ReadsExpression : Prop :=
  ∀ ending next rest, EndsExpression next.kind →
    Leaves (expressionAt ending levels (tokens ++ next :: rest)) read (next :: rest)

/-- The tokens are read alike wherever a certain strength suffices. -/
structure ReadsAtStrength (strength : Nat) : Prop where
  above : ReadsAbove levels tokens read strength
  operand : 7 ≤ strength → ReadsOperand levels tokens read
  primary : 8 ≤ strength → ReadsPrimary levels tokens read

end Reads

section Strength

variable {levels strength : Nat} {tokens : List Token} {read : Expression}

theorem ReadsPrimary.readsOperand (reads : ReadsPrimary levels tokens read) :
    ReadsOperand levels tokens read := by
  intro ending next rest ends
  exact reads ending next rest read (next :: rest) ends.notCall (leaves_readSelectors read ends)

theorem ReadsOperand.readsAbove (reads : ReadsOperand levels tokens read) (strength : Nat) :
    ReadsAbove levels tokens read strength := by
  intro ending next rest least whole last _ ends _ climbs
  exact ⟨read, next :: rest, reads ending next rest ends, climbs⟩

theorem ReadsAbove.mono {least : Nat} (reads : ReadsAbove levels tokens read strength)
    (le : least ≤ strength) : ReadsAbove levels tokens read least := by
  intro ending next rest floor whole last tighter ends looser climbs
  refine reads ending next rest floor whole last (by omega) ends ?_ climbs
  intro operator found
  exact Nat.le_trans (looser operator found) le

theorem ReadsPrimary.readsAtStrength (reads : ReadsPrimary levels tokens read) (strength : Nat) :
    ReadsAtStrength levels tokens read strength :=
  ⟨reads.readsOperand.readsAbove strength, fun _ => reads.readsOperand, fun _ => reads⟩

theorem ReadsOperand.readsAtStrength (reads : ReadsOperand levels tokens read) :
    ReadsAtStrength levels tokens read 7 :=
  ⟨reads.readsAbove 7, fun _ => reads, fun tighter => absurd tighter (by decide)⟩

theorem ReadsAbove.readsAtStrength {operator : BinaryOperator}
    (reads : ReadsAbove levels tokens read (precedence operator)) :
    ReadsAtStrength levels tokens read (precedence operator) := by
  have loose : precedence operator < 7 := by cases operator <;> decide
  exact ⟨reads, fun tight => absurd tight (by omega), fun tight => absurd tight (by omega)⟩

theorem ReadsAtStrength.mono {least : Nat} (reads : ReadsAtStrength levels tokens read strength)
    (le : least ≤ strength) : ReadsAtStrength levels tokens read least :=
  ⟨reads.above.mono le, fun tighter => reads.operand (by omega),
    fun tighter => reads.primary (by omega)⟩

theorem ReadsAtStrength.readsExpression (reads : ReadsAtStrength levels tokens read strength)
    (positive : 0 < strength) : ReadsExpression (levels + 1) tokens read := by
  intro ending next rest ends
  have looser : ∀ operator, binaryOperator? next.kind = some operator →
      precedence operator ≤ strength := by simp [ends.notOperator]
  obtain ⟨first, behind, operand, climbs⟩ :=
    reads.above ending next rest 0 read (next :: rest) positive ends.endsOperand looser
      (leaves_climb read ends)
  refine operand.bind fun proof => ?_
  exact climbs.bind fun proof => leaves_pure read _

end Strength

/-! ## Primary expressions -/

section Primary

variable {levels : Nat} {ending : Ending} {first : Token} {tokens rest last : List Token}
  {value whole : Expression}

theorem leaves_operandAt (noOperator : unaryOperator? first.kind = none)
    (primary : Leaves (readPrimary ending (expressionAt ending levels) (first :: tokens)) value
      rest)
    (selectors : Leaves (readSelectors ending (expressionAt ending levels) value rest) whole last) :
    Leaves (operandAt ending levels (first :: tokens)) whole last := by
  rw [operandAt_eq, readOperand, noOperator]
  refine primary.bind fun proof => ?_
  exact selectors.bind fun proof => leaves_pure whole _

theorem readsPrimary_literal {literal : Literal} {token : Token}
    (printable : literal.isPrintable = true) (spelled : token.lexeme = literal.lexeme) :
    ReadsPrimary levels [token] (.literal literal token.span) := by
  intro ending next rest whole last _ selectors
  obtain ⟨noOperator, primary⟩ := leaves_readPrimary_literal printable spelled ending
    (expressionAt ending levels) (next :: rest)
  exact leaves_operandAt noOperator primary selectors

theorem readsPrimary_variable {token : Token} (named : token.kind = .identifier) :
    ReadsPrimary levels [token] (.variable token.identifier) := by
  intro ending next rest whole last notCall selectors
  have noOperator : unaryOperator? token.kind = none := by rw [named]; rfl
  exact leaves_operandAt noOperator (leaves_readPrimary_variable named notCall) selectors

variable {opening close : Token} {read : Expression}

theorem readsPrimary_parentheses (opens : opening.kind = .symbol .leftParenthesis)
    (reads : ReadsExpression levels tokens read)
    (closes : close.kind = .symbol .rightParenthesis) :
    ReadsPrimary levels (opening :: (tokens ++ [close])) read := by
  intro ending next rest whole last _ selectors
  have parts : opening :: (tokens ++ [close]) ++ next :: rest =
      opening :: (tokens ++ close :: next :: rest) := by simp
  have ends : EndsExpression close.kind := closes ▸ endsExpression_rightParenthesis
  have noOperator : unaryOperator? opening.kind = none := by rw [opens]; rfl
  have primary : Leaves (readPrimary ending (expressionAt ending levels)
      (opening :: (tokens ++ close :: next :: rest))) read (next :: rest) := by
    rw [readPrimary, opens]
    refine (reads ending close (next :: rest) ends).bind fun proof => ?_
    exact (leaves_readKind closes).bind fun proof => leaves_pure read _
  rw [parts]
  exact leaves_operandAt noOperator primary selectors

/-! ### Selectors -/

theorem leaves_readSelectors_dot {expression : Reader Expression} {target selected : Expression}
    {dot : Token} (selects : dot.kind = .symbol .dot)
    (member : Leaves (readMember ending expression target tokens) selected rest)
    (later : Leaves (readSelectors ending expression selected rest) whole last) :
    Leaves (readSelectors ending expression target (dot :: tokens)) whole last := by
  rw [readSelectors]
  simp only [peek, bind, Except.bind, selects]
  refine (leaves_readKind selects).bind fun proof => ?_
  refine member.bind fun proof => ?_
  exact later.bind fun proof => leaves_pure whole _

theorem readsPrimary_field {target : Expression} {dot name : Token}
    (reads : ReadsPrimary levels tokens target) (selects : dot.kind = .symbol .dot)
    (named : name.kind = .identifier) :
    ReadsPrimary levels (tokens ++ [dot, name])
      (.member target (.field name.identifier) (target.span.cover name.span)) := by
  intro ending next rest whole last notCall selectors
  have parts : tokens ++ [dot, name] ++ next :: rest = tokens ++ dot :: name :: next :: rest := by
    simp
  have member : Leaves (readMember ending (expressionAt ending levels) target
      (name :: next :: rest))
      (.member target (.field name.identifier) (target.span.cover name.span)) (next :: rest) := by
    rw [readMember, named]
    simp only [peek, bind, Except.bind, Shorter.tail]
    split
    next call => exact absurd (Option.some.inj call) notCall
    next => exact leaves_pure _ _
  rw [parts]
  exact reads ending dot _ whole last (by simp [selects])
    (leaves_readSelectors_dot selects member selectors)

theorem readsPrimary_position {target : Expression} {dot digits : Token} {index : Nat}
    (reads : ReadsPrimary levels tokens target) (selects : dot.kind = .symbol .dot)
    (number : digits.kind = .number) (denotes : readIndex digits = .ok index) :
    ReadsPrimary levels (tokens ++ [dot, digits])
      (.member target (.position index digits.span) (target.span.cover digits.span)) := by
  intro ending next rest whole last _ selectors
  have parts : tokens ++ [dot, digits] ++ next :: rest =
      tokens ++ dot :: digits :: next :: rest := by simp
  have member : Leaves (readMember ending (expressionAt ending levels) target
      (digits :: next :: rest))
      (.member target (.position index digits.span) (target.span.cover digits.span))
      (next :: rest) := by
    rw [readMember, number, denotes]
    exact leaves_pure _ _
  rw [parts]
  exact reads ending dot _ whole last (by simp [selects])
    (leaves_readSelectors_dot selects member selectors)

theorem readsPrimary_index {target selector : Expression} {inside : List Token}
    (reads : ReadsPrimary levels tokens target) (opens : opening.kind = .symbol .leftBracket)
    (selects : ReadsExpression levels inside selector)
    (closes : close.kind = .symbol .rightBracket) :
    ReadsPrimary levels (tokens ++ opening :: (inside ++ [close]))
      (.index target selector (target.span.cover close.span)) := by
  intro ending next rest whole last _ selectors
  have parts : tokens ++ opening :: (inside ++ [close]) ++ next :: rest =
      tokens ++ opening :: (inside ++ close :: next :: rest) := by simp
  have ends : EndsExpression close.kind := closes ▸ endsExpression_rightBracket
  rw [parts]
  refine reads ending opening _ whole last (by simp [opens]) ?_
  rw [readSelectors]
  simp only [peek, bind, Except.bind, opens]
  refine (leaves_readKind opens).bind fun proof => ?_
  refine (selects ending close (next :: rest) ends).bind fun proof => ?_
  refine (leaves_readKind closes).bind fun proof => ?_
  exact selectors.bind fun proof => leaves_pure whole _

end Primary

/-! ## Expressions behind each other -/

/-- No expression begins with a closing mark. -/
theorem not_leaves_expressionAt {ending : Ending} {levels : Nat} {first : Token}
    {tokens rest : List Token} {value : Expression}
    (closes : first.kind = .symbol .rightBracket ∨ first.kind = .symbol .rightParenthesis) :
    ¬Leaves (expressionAt ending levels (first :: tokens)) value rest := by
  rintro ⟨proof, read⟩
  cases levels with
  | zero => cases read
  | succ levels =>
      rcases closes with closes | closes
      all_goals
        have noOperator : unaryOperator? first.kind = none := by rw [closes]; rfl
        rw [expressionAt, readBinary, operandAt_eq, readOperand, noOperator, readPrimary,
          closes] at read
        cases read

theorem ReadsExpression.exists_first {levels : Nat} {tokens : List Token} {read : Expression}
    (reads : ReadsExpression levels tokens read) :
    ∃ first more, tokens = first :: more ∧ first.kind ≠ .symbol .rightBracket ∧
      first.kind ≠ .symbol .rightParenthesis := by
  have whole := reads (.complete 0) ⟨.symbol .semicolon, [], 0⟩ [] endsExpression_semicolon
  cases tokens with
  | nil =>
      obtain ⟨shorter, -⟩ := whole
      exact absurd shorter (Nat.lt_irrefl _)
  | cons first more =>
      exact ⟨first, more, rfl, fun closes => not_leaves_expressionAt (.inl closes) whole,
        fun closes => not_leaves_expressionAt (.inr closes) whole⟩

/-- The tokens are read as expressions, each behind a comma. -/
inductive ReadsOthers (levels : Nat) : List Token → List Expression → Prop
  | nil : ReadsOthers levels [] []
  | cons {comma : Token} {tokens later : List Token} {read : Expression} {reads : List Expression}
      (separates : comma.kind = .symbol .comma) (item : ReadsExpression levels tokens read)
      (items : ReadsOthers levels later reads) :
      ReadsOthers levels (comma :: (tokens ++ later)) (read :: reads)

section Others

variable {levels : Nat} {ending : Ending} {close : Token} {tokens : List Token}
  {reads : List Expression}

theorem ReadsOthers.exists_next (others : ReadsOthers levels tokens reads)
    (closes : close.kind = .symbol .rightBracket) (rest : List Token) :
    ∃ next more, tokens ++ close :: rest = next :: more ∧ EndsExpression next.kind ∧
      next.kind ≠ .symbol .arrow := by
  cases others with
  | nil => exact ⟨close, rest, rfl, closes ▸ endsExpression_rightBracket, by simp [closes]⟩
  | cons separates =>
      exact ⟨_, _, rfl, separates ▸ endsExpression_comma, by simp [separates]⟩

theorem ReadsOthers.leaves_readItems (others : ReadsOthers levels tokens reads)
    (closes : close.kind = .symbol .rightBracket) (rest : List Token) :
    Leaves (readItems ending (expressionAt ending levels) (tokens ++ close :: rest)) reads
      (close :: rest) := by
  induction others with
  | nil =>
      rw [List.nil_append, readItems]
      simp only [peek, bind, Except.bind, closes]
      exact leaves_pure _ (NotLonger.untouched (close :: rest))
  | @cons comma tokens later read reads separates item items inductionHypothesis =>
      obtain ⟨first, more, rfl, opens, -⟩ := item.exists_first
      obtain ⟨next, behind, parts, ends, -⟩ := items.exists_next closes rest
      have reading := item ending next behind ends
      rw [parts] at inductionHypothesis
      rw [List.cons_append, List.append_assoc, parts, readItems]
      simp only [peek, bind, Except.bind, separates]
      refine (leaves_readKind separates).bind fun proof => ?_
      simp only [List.cons_append] at reading ⊢
      split
      next closing => exact absurd (Option.some.inj closing) opens
      next =>
        refine reading.bind fun proof => ?_
        exact inductionHypothesis.bind fun proof => leaves_pure _ _

theorem ReadsOthers.leaves_readArguments (others : ReadsOthers levels tokens reads)
    {argument : List Token} {read : Expression} (reading : ReadsExpression levels argument read)
    (closes : close.kind = .symbol .rightParenthesis) (rest : List Token) :
    Leaves (readArguments ending (expressionAt ending levels)
      (argument ++ (tokens ++ close :: rest))) (read :: reads, close) rest := by
  induction others generalizing argument read with
  | nil =>
      obtain ⟨first, more, rfl, -, opens⟩ := reading.exists_first
      have ends : EndsExpression close.kind := closes ▸ endsExpression_rightParenthesis
      exact leaves_readArguments_last opens (reading ending close rest ends) closes
  | @cons comma tokens later next reads separates item items inductionHypothesis =>
      obtain ⟨first, more, rfl, -, opens⟩ := reading.exists_first
      have ends : EndsExpression comma.kind := separates ▸ endsExpression_comma
      have parts : comma :: (tokens ++ later) ++ close :: rest =
          comma :: (tokens ++ (later ++ close :: rest)) := by simp
      rw [parts]
      exact leaves_readArguments_cons opens (reading ending comma _ ends) separates
        (inductionHypothesis item)

end Others

/-- The tokens are read as expressions with commas between them. -/
inductive ReadsAll (levels : Nat) : List Token → List Expression → Prop
  | nil : ReadsAll levels [] []
  | cons {tokens later : List Token} {read : Expression} {reads : List Expression}
      (first : ReadsExpression levels tokens read) (others : ReadsOthers levels later reads) :
      ReadsAll levels (tokens ++ later) (read :: reads)

/-- The tokens are read as the entries of a map, each behind a comma. -/
inductive ReadsOtherEntries (levels : Nat) : List Token → List (Expression × Expression) → Prop
  | nil : ReadsOtherEntries levels [] []
  | cons {comma arrow : Token} {left right later : List Token} {key value : Expression}
      {entries : List (Expression × Expression)} (separates : comma.kind = .symbol .comma)
      (readsKey : ReadsExpression levels left key) (joins : arrow.kind = .symbol .arrow)
      (readsValue : ReadsExpression levels right value)
      (others : ReadsOtherEntries levels later entries) :
      ReadsOtherEntries levels (comma :: (left ++ arrow :: (right ++ later)))
        ((key, value) :: entries)

section Bracketed

variable {levels : Nat} {ending : Ending} {opening close : Token} {tokens : List Token}
  {reads : List Expression} {entries : List (Expression × Expression)}

theorem ReadsAll.leaves_readArguments (arguments : ReadsAll levels tokens reads)
    (closes : close.kind = .symbol .rightParenthesis) (rest : List Token) :
    Leaves (readArguments ending (expressionAt ending levels) (tokens ++ close :: rest))
      (reads, close) rest := by
  cases arguments with
  | nil => exact leaves_readArguments_nil closes
  | cons first others =>
      rw [List.append_assoc]
      exact others.leaves_readArguments first closes rest

theorem ReadsOtherEntries.exists_next (others : ReadsOtherEntries levels tokens entries)
    (closes : close.kind = .symbol .rightBracket) (rest : List Token) :
    ∃ next more, tokens ++ close :: rest = next :: more ∧ EndsExpression next.kind := by
  cases others with
  | nil => exact ⟨close, rest, rfl, closes ▸ endsExpression_rightBracket⟩
  | cons separates => exact ⟨_, _, rfl, separates ▸ endsExpression_comma⟩

theorem ReadsOtherEntries.leaves_readEntries (others : ReadsOtherEntries levels tokens entries)
    (closes : close.kind = .symbol .rightBracket) (rest : List Token) :
    Leaves (readEntries ending (expressionAt ending levels) (tokens ++ close :: rest)) entries
      (close :: rest) := by
  induction others with
  | nil =>
      rw [List.nil_append, readEntries]
      simp only [peek, bind, Except.bind, closes]
      exact leaves_pure _ (NotLonger.untouched (close :: rest))
  | @cons comma arrow left right later key value entries separates readsKey joins readsValue others
      inductionHypothesis =>
      obtain ⟨first, more, rfl, opens, -⟩ := readsKey.exists_first
      obtain ⟨next, behind, parts, ends⟩ := others.exists_next closes rest
      have whole : comma :: (first :: more ++ arrow :: (right ++ later)) ++ close :: rest =
          comma :: first :: (more ++ arrow :: (right ++ (later ++ close :: rest))) := by simp
      have keyReading := readsKey ending arrow (right ++ (later ++ close :: rest))
        (joins ▸ endsExpression_arrow)
      rw [parts] at inductionHypothesis whole keyReading
      rw [whole, readEntries]
      simp only [peek, bind, Except.bind, separates]
      refine (leaves_readKind separates).bind fun proof => ?_
      dsimp only
      split
      next closing => exact absurd (Option.some.inj closing) opens
      next =>
        refine keyReading.bind fun proof => ?_
        refine (leaves_readKind joins).bind fun proof => ?_
        refine (readsValue ending next behind ends).bind fun proof => ?_
        exact inductionHypothesis.bind fun proof => leaves_pure _ _

theorem readsPrimary_bracketed {read : Expression} (opens : opening.kind = .symbol .leftBracket)
    (reads : ∀ ending rest, Leaves (readBracketed ending (expressionAt ending levels) opening
      (tokens ++ rest)) read rest) :
    ReadsPrimary levels (opening :: tokens) read := by
  intro ending next rest whole last _ selectors
  have noOperator : unaryOperator? opening.kind = none := by rw [opens]; rfl
  have primary : Leaves (readPrimary ending (expressionAt ending levels)
      (opening :: (tokens ++ next :: rest))) read (next :: rest) := by
    rw [readPrimary, opens]
    exact (reads ending (next :: rest)).bind fun proof => leaves_pure read _
  exact leaves_operandAt noOperator primary selectors

theorem readsPrimary_list (opens : opening.kind = .symbol .leftBracket)
    (items : ReadsAll levels tokens reads) (closes : close.kind = .symbol .rightBracket) :
    ReadsPrimary levels (opening :: (tokens ++ [close]))
      (.list reads (opening.span.cover close.span)) := by
  refine readsPrimary_bracketed opens fun ending rest => ?_
  rw [List.append_assoc, List.singleton_append]
  cases items with
  | nil =>
      rw [List.nil_append, readBracketed]
      simp only [peek, bind, Except.bind, closes]
      exact (leaves_readKind closes).bind fun proof => leaves_pure _ _
  | @cons tokens later read reads item others =>
      obtain ⟨first, more, rfl, opens, -⟩ := item.exists_first
      obtain ⟨next, behind, parts, ends, noArrow⟩ := others.exists_next closes rest
      have itemReading := item ending next behind ends
      have othersReading : Leaves (readItems ending (expressionAt ending levels)
          (later ++ close :: rest)) reads (close :: rest) := others.leaves_readItems closes rest
      rw [parts] at othersReading
      rw [List.append_assoc, parts, List.cons_append, readBracketed]
      rw [List.cons_append] at itemReading
      simp only [peek, bind, Except.bind]
      split
      next closing => exact absurd (Option.some.inj closing) opens
      next =>
        refine itemReading.bind fun proof => ?_
        dsimp only
        split
        next arrow => exact absurd (Option.some.inj arrow) noArrow
        next =>
          refine othersReading.bind fun proof => ?_
          exact (leaves_readKind closes).bind fun proof => leaves_pure _ _

theorem readsPrimary_map {arrow : Token} {left right : List Token} {key value : Expression}
    (opens : opening.kind = .symbol .leftBracket) (readsKey : ReadsExpression levels left key)
    (joins : arrow.kind = .symbol .arrow) (readsValue : ReadsExpression levels right value)
    (others : ReadsOtherEntries levels tokens entries)
    (closes : close.kind = .symbol .rightBracket) :
    ReadsPrimary levels (opening :: (left ++ arrow :: (right ++ tokens) ++ [close]))
      (.map ((key, value) :: entries) (opening.span.cover close.span)) := by
  refine readsPrimary_bracketed opens fun ending rest => ?_
  obtain ⟨first, more, rfl, notEmpty, -⟩ := readsKey.exists_first
  obtain ⟨next, behind, parts, ends⟩ := others.exists_next closes rest
  have whole : first :: more ++ arrow :: (right ++ tokens) ++ [close] ++ rest =
      first :: (more ++ arrow :: (right ++ (tokens ++ close :: rest))) := by simp
  have keyReading := readsKey ending arrow (right ++ (tokens ++ close :: rest))
    (joins ▸ endsExpression_arrow)
  have othersReading : Leaves (readEntries ending (expressionAt ending levels)
      (tokens ++ close :: rest)) entries (close :: rest) := others.leaves_readEntries closes rest
  rw [parts] at whole keyReading othersReading
  rw [whole, readBracketed]
  rw [List.cons_append] at keyReading
  simp only [peek, bind, Except.bind]
  split
  next closing => exact absurd (Option.some.inj closing) notEmpty
  next =>
    refine keyReading.bind fun proof => ?_
    simp only [joins]
    refine (leaves_readKind joins).bind fun proof => ?_
    refine (readsValue ending next behind ends).bind fun proof => ?_
    refine othersReading.bind fun proof => ?_
    exact (leaves_readKind closes).bind fun proof => leaves_pure _ _

end Bracketed

/-! ## Calls -/

section Calls

variable {levels : Nat} {name opening close : Token} {tokens : List Token}
  {reads : List Expression}

theorem readsPrimary_call (named : name.kind = .identifier)
    (opens : opening.kind = .symbol .leftParenthesis) (arguments : ReadsAll levels tokens reads)
    (closes : close.kind = .symbol .rightParenthesis) :
    ReadsPrimary levels (name :: opening :: (tokens ++ [close]))
      (.call name.identifier reads (name.span.cover close.span)) := by
  intro ending next rest whole last _ selectors
  have parts : name :: opening :: (tokens ++ [close]) ++ next :: rest =
      name :: opening :: (tokens ++ close :: next :: rest) := by simp
  have noOperator : unaryOperator? name.kind = none := by rw [named]; rfl
  rw [parts]
  exact leaves_operandAt noOperator
    (leaves_readPrimary_call named opens (arguments.leaves_readArguments closes (next :: rest)))
    selectors

theorem readsPrimary_method {environment dot : Token} (target : environment.kind = .identifier)
    (spelled : String.ofList environment.text = environmentName) (selects : dot.kind = .symbol .dot)
    (named : name.kind = .identifier) (opens : opening.kind = .symbol .leftParenthesis)
    (arguments : ReadsAll levels tokens reads) (closes : close.kind = .symbol .rightParenthesis) :
    ReadsPrimary levels (environment :: dot :: name :: opening :: (tokens ++ [close]))
      (.method name.identifier reads (environment.span.cover close.span)) := by
  intro ending next rest whole last _ selectors
  have parts : environment :: dot :: name :: opening :: (tokens ++ [close]) ++ next :: rest =
      [environment] ++ dot :: name :: opening :: (tokens ++ close :: next :: rest) := by simp
  have called : Leaves (readArguments ending (expressionAt ending levels)
      (tokens ++ close :: next :: rest)) (reads, close) (next :: rest) :=
    arguments.leaves_readArguments closes (next :: rest)
  have member : Leaves (readMember ending (expressionAt ending levels)
      (.variable environment.identifier) (name :: opening :: (tokens ++ close :: next :: rest)))
      (.method name.identifier reads (environment.span.cover close.span)) (next :: rest) := by
    rw [readMember, named]
    simp only [peek, bind, Except.bind, Shorter.tail, opens]
    rw [if_pos (by rw [isEnvironment]; exact beq_iff_eq.2 spelled)]
    refine (leaves_readKind opens).bind fun proof => ?_
    exact called.bind fun proof => leaves_pure _ _
  rw [parts]
  exact readsPrimary_variable target ending dot _ whole last (by simp [selects])
    (leaves_readSelectors_dot selects member selectors)

end Calls

/-! ## Operators -/

section Operators

variable {levels : Nat} {mark : Token} {tokens : List Token}

theorem readsOperand_unary {operator : UnaryOperator} {read : Expression}
    (operates : unaryOperator? mark.kind = some operator)
    (reads : ReadsOperand levels tokens read) :
    ReadsOperand (levels + 1) (mark :: tokens)
      (.unary operator read (mark.span.cover read.span)) := by
  intro ending next rest ends
  rw [List.cons_append, operandAt, readOperand, operates]
  exact (reads ending next rest ends).bind fun proof => leaves_pure _ _

theorem leaves_climb_operator {ending : Ending} {operand : Reader Expression} {least : Nat}
    {operator : BinaryOperator} {left first right whole : Expression}
    {middle rest last : List Token} (operates : binaryOperator? mark.kind = some operator)
    (tighter : least < precedence operator)
    (begins : Leaves (operand tokens) first middle)
    (climbs : Leaves (climb ending operand (precedence operator) first middle) right rest)
    (later : Leaves (climb ending operand least
      (.binary operator left right (left.span.cover right.span)) rest) whole last) :
    Leaves (climb ending operand least left (mark :: tokens)) whole last := by
  rw [climb]
  simp only [peek, bind, Except.bind, Option.bind, operates, readAny]
  rw [if_neg (by omega)]
  refine begins.bind fun proof => ?_
  refine climbs.bind fun proof => ?_
  exact later.bind fun proof => leaves_pure whole _

theorem readsAbove_binary {operator : BinaryOperator} {left right : Expression}
    {rightTokens : List Token} (operates : binaryOperator? mark.kind = some operator)
    (readsLeft : ReadsAbove levels tokens left (precedence operator))
    (readsRight : ReadsAbove levels rightTokens right (precedence operator + 1)) :
    ReadsAbove levels (tokens ++ mark :: rightTokens)
      (.binary operator left right (left.span.cover right.span)) (precedence operator) := by
  intro ending next rest least whole last tighter ends looser climbs
  have markEnds : EndsOperand mark.kind := by
    constructor
    all_goals
      intro same
      rw [same] at operates
      cases operates
  obtain ⟨first, middle, begins, inside⟩ := readsRight ending next rest (precedence operator)
    right (next :: rest) (Nat.lt_succ_self _) ends
    (fun operator found => Nat.le_succ_of_le (looser operator found))
    (leaves_climb_of_le right looser)
  have joined := leaves_climb_operator operates tighter begins inside climbs
  have parts : tokens ++ mark :: rightTokens ++ next :: rest =
      tokens ++ mark :: (rightTokens ++ next :: rest) := by simp
  rw [parts]
  refine readsLeft ending mark _ least whole last tighter markEnds ?_ joined
  intro other found
  obtain rfl : operator = other := by simpa [operates] using found
  exact Nat.le_refl _

end Operators

end ViewTemplate.Fragment
