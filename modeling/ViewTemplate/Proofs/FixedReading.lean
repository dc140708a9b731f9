import ViewTemplate.Proofs.Boundaries
import ViewTemplate.Proofs.DisplacedReading

/-!
Reading tokens whose bytes a function leaves where they are. It leaves the bytes of what is read
where they are too, and the bytes of what is wrong (`yields_readExpression`). No reader comes to the
end of a tag without an error, so that none of them has to point behind the last token.
-/

namespace ViewTemplate.Fragment

variable {α β : Type}

/-! ## Readings -/

/-- Tokens inside of a tag. -/
structure InTag (move : Span → Span) (ending : Ending) (tokens : List Token) : Prop extends
    Tagged move ending tokens where
  ends : ClosesTag ending tokens

/-- A reading ends with an error whose bytes stay where they are, or with a result of a kind and is
still inside of the tag. -/
inductive Yields (move : Span → Span) (ending : Ending) (Fixed : α → Prop)
    {fits : List Token → Prop} :
    Except SyntaxError (α × { rest : List Token // fits rest }) → Prop where
  | error {error : SyntaxError} (span : move error.span = error.span) :
      Yields move ending Fixed (.error error)
  | ok {value : α} {rest : { rest : List Token // fits rest }} (fixed : Fixed value)
      (left : InTag move ending rest.1) : Yields move ending Fixed (.ok (value, rest))

/-- Whatever the tokens are, if they are inside of a tag. -/
def YieldsReader (move : Span → Span) (ending : Ending) (Fixed : α → Prop) (reader : Reader α) :
    Prop :=
  ∀ {tokens}, InTag move ending tokens → Yields move ending Fixed (reader tokens)

variable {move : Span → Span} {ending : Ending} {token : Token} {tokens : List Token}
  {Fixed : α → Prop} {Fixed' : β → Prop} {fits fits' : List Token → Prop}

/-- Tokens inside of a tag come to an end only at an error. -/
theorem InTag.exists_failed (inTag : InTag move ending []) :
    ∃ error, ending = .failed error ∧ move error.span = error.span := by
  rcases inTag.ends with ⟨close, member, -⟩ | ⟨error, failed⟩
  · cases member
  · exact ⟨error, failed, inTag.failure failed⟩

theorem InTag.missing (inTag : InTag move ending []) (expected : Expected) :
    move (ending.missing expected).span = (ending.missing expected).span := by
  obtain ⟨error, rfl, span⟩ := inTag.exists_failed
  exact span

theorem InTag.first (inTag : InTag move ending (token :: tokens)) : token.IsFixed move :=
  inTag.fixed token List.mem_cons_self

theorem InTag.tail (inTag : InTag move ending (token :: tokens)) (inside : token.kind ≠ .endTag) :
    InTag move ending tokens where
  toTagged := inTag.toTagged.tail
  ends := inTag.ends.tail inside

theorem Yields.bind {reading : Except SyntaxError (α × { rest : List Token // fits rest })}
    {next : α × { rest : List Token // fits rest } →
      Except SyntaxError (β × { rest : List Token // fits' rest })}
    (first : Yields move ending Fixed reading)
    (second : ∀ value rest, Fixed value → InTag move ending rest.1 →
      Yields move ending Fixed' (next (value, rest))) :
    Yields move ending Fixed' (reading >>= next) := by
  cases first with
  | error span => exact .error span
  | ok fixed left => exact second _ _ fixed left

theorem yields_check {γ : Type} {result : Except SyntaxError γ}
    {next : γ → Except SyntaxError (α × { rest : List Token // fits rest })}
    (fails : ∀ {error}, result = .error error → move error.span = error.span)
    (yields : ∀ value, Yields move ending Fixed (next value)) :
    Yields move ending Fixed (result >>= next) := by
  cases result with
  | error error => exact .error (fails rfl)
  | ok value => exact yields value

theorem ne_of_eq_some {f : TokenKind → Option α} {kind other : TokenKind} {result : α}
    (found : f kind = some result) (nothing : f other = none) : kind ≠ other := by
  rintro rfl
  cases nothing.symm.trans found

/-! ## Single tokens -/

/-- Inside of a tag there is a next token to look at. -/
theorem yields_peek (inTag : InTag move ending tokens)
    {next : Option TokenKind → Except SyntaxError (α × { rest : List Token // fits rest })}
    (yields : ∀ token rest, tokens = token :: rest →
      Yields move ending Fixed (next (some token.kind))) :
    Yields move ending Fixed (peek ending tokens >>= next) := by
  cases tokens with
  | nil =>
      obtain ⟨error, rfl, span⟩ := inTag.exists_failed
      exact .error span
  | cons token rest => exact yields token rest rfl

theorem yieldsReader_of_cons {reader : Reader α}
    (atEnd : ∃ expected, reader [] = .error (ending.missing expected))
    (yields : ∀ token tokens, InTag move ending (token :: tokens) →
      Yields move ending Fixed (reader (token :: tokens))) :
    YieldsReader move ending Fixed reader := by
  intro tokens inTag
  cases tokens with
  | nil =>
      obtain ⟨expected, fails⟩ := atEnd
      rw [fails]
      exact .error (inTag.missing expected)
  | cons token tokens => exact yields token tokens inTag

theorem yields_readKind {kind : TokenKind} (inside : kind ≠ .endTag) :
    YieldsReader move ending (Token.IsFixed move) (readKind ending kind) := by
  refine yieldsReader_of_cons ⟨_, rfl⟩ fun token tokens inTag => ?_
  rw [readKind]
  split
  next same => exact .ok inTag.first (inTag.tail (same ▸ inside))
  next => exact .error inTag.first.span

theorem yields_readAny {rest : List Token} (inTag : InTag move ending tokens)
    (parts : tokens = token :: rest) (inside : token.kind ≠ .endTag) :
    Yields move ending (Token.IsFixed move) (readAny ending tokens) := by
  subst parts
  exact .ok inTag.first (inTag.tail inside)

theorem yields_readTooDeep : YieldsReader move ending Fixed (readTooDeep ending) := by
  intro tokens inTag
  cases tokens with
  | nil =>
      obtain ⟨error, rfl, span⟩ := inTag.exists_failed
      exact .error span
  | cons token tokens => exact .error inTag.first.span

/-! ## Lists of expressions -/

/-- An expression with all its bytes where a function leaves them. -/
def Expression.IsFixed (move : Span → Span) (expression : Expression) : Prop :=
  expression.mapSpans move = expression

theorem Expression.IsFixed.span {expression : Expression} (fixed : expression.IsFixed move) :
    move expression.span = expression.span := by
  have same : (expression.mapSpans move).span = expression.span := congrArg Expression.span fixed
  rwa [Expression.span_mapSpans] at same

/-- Functions that leave what two spans cover where it is if they leave the spans there. -/
def KeepsCovers (move : Span → Span) : Prop :=
  ∀ {left right : Span}, move left = left → move right = right →
    move (left.cover right) = left.cover right

section Lists

variable {expression : Reader Expression}
  (yields : YieldsReader move ending (Expression.IsFixed move) expression)

include yields

theorem yields_readArguments {tokens : List Token} (inTag : InTag move ending tokens) :
    Yields move ending
      (fun given => mapSpansAll move given.1 = given.1 ∧ given.2.IsFixed move)
      (readArguments ending expression tokens) := by
  rw [readArguments]
  refine yields_peek inTag fun token rest _ => ?_
  split
  next =>
    exact (yields_readKind (by simp) inTag).bind fun close rest fixed left =>
      .ok ⟨rfl, fixed⟩ left
  next =>
    refine (yields inTag).bind fun first behind fixedFirst inTag => ?_
    refine yields_peek inTag fun token rest _ => ?_
    split
    next =>
      refine (yields_readKind (by simp) inTag).bind fun comma inner _ inTag => ?_
      refine (yields_readArguments inTag).bind fun given rest fixed left => ?_
      refine .ok ⟨?_, fixed.2⟩ left
      rw [mapSpansAll, fixedFirst, fixed.1]
    next =>
      refine (yields_readKind (by simp) inTag).bind fun close rest fixed left => ?_
      refine .ok ⟨?_, fixed⟩ left
      rw [mapSpansAll, mapSpansAll, fixedFirst]
termination_by tokens.length
decreasing_by exact Nat.lt_trans inner.2 behind.2

theorem yields_readItems {tokens : List Token} (inTag : InTag move ending tokens) :
    Yields move ending (fun items => mapSpansAll move items = items)
      (readItems ending expression tokens) := by
  rw [readItems]
  refine yields_peek inTag fun token rest _ => ?_
  split
  next =>
    refine (yields_readKind (by simp) inTag).bind fun comma behind _ inTag => ?_
    refine yields_peek inTag fun token rest _ => ?_
    split
    next => exact .ok rfl inTag
    next =>
      refine (yields inTag).bind fun item inner fixedItem inTag => ?_
      refine (yields_readItems inTag).bind fun items rest fixed left => ?_
      refine .ok ?_ left
      rw [mapSpansAll, fixedItem, fixed]
  next => exact .ok rfl inTag
termination_by tokens.length
decreasing_by exact Nat.lt_trans inner.2 behind.2

theorem yields_readEntries {tokens : List Token} (inTag : InTag move ending tokens) :
    Yields move ending (fun entries => mapSpansEntries move entries = entries)
      (readEntries ending expression tokens) := by
  rw [readEntries]
  refine yields_peek inTag fun token rest _ => ?_
  split
  next =>
    refine (yields_readKind (by simp) inTag).bind fun comma behind _ inTag => ?_
    refine yields_peek inTag fun token rest _ => ?_
    split
    next => exact .ok rfl inTag
    next =>
      refine (yields inTag).bind fun key afterKey fixedKey inTag => ?_
      refine (yields_readKind (by simp) inTag).bind fun arrow afterArrow _ inTag => ?_
      refine (yields inTag).bind fun value inner fixedValue inTag => ?_
      refine (yields_readEntries inTag).bind fun entries rest fixed left => ?_
      refine .ok ?_ left
      rw [mapSpansEntries, fixedKey, fixedValue, fixed]
  next => exact .ok rfl inTag
termination_by tokens.length
decreasing_by
  exact Nat.lt_trans inner.2 (Nat.lt_trans afterArrow.2 (Nat.lt_trans afterKey.2 behind.2))

theorem yields_readBracketed (covers : KeepsCovers move) {opening : Token}
    (fixedOpening : opening.IsFixed move) :
    YieldsReader move ending (Expression.IsFixed move)
      (readBracketed ending expression opening) := by
  intro tokens inTag
  refine yields_peek inTag fun token rest _ => ?_
  split
  next =>
    refine (yields_readKind (by simp) inTag).bind fun close rest fixed left => .ok ?_ left
    rw [Expression.IsFixed, Expression.mapSpans, mapSpansAll, covers fixedOpening.span fixed.span]
  next =>
    refine (yields inTag).bind fun first behind fixedFirst inTag => ?_
    refine yields_peek inTag fun token rest _ => ?_
    split
    next =>
      refine (yields_readKind (by simp) inTag).bind fun arrow afterArrow _ inTag => ?_
      refine (yields inTag).bind fun value next fixedValue inTag => ?_
      refine (yields_readEntries yields inTag).bind fun entries last fixedEntries inTag => ?_
      refine (yields_readKind (by simp) inTag).bind fun close rest fixed left => .ok ?_ left
      rw [Expression.IsFixed, Expression.mapSpans, mapSpansEntries, fixedFirst, fixedValue,
        fixedEntries, covers fixedOpening.span fixed.span]
    next =>
      refine (yields_readItems yields inTag).bind fun items last fixedItems inTag => ?_
      refine (yields_readKind (by simp) inTag).bind fun close rest fixed left => .ok ?_ left
      rw [Expression.IsFixed, Expression.mapSpans, mapSpansAll, fixedFirst, fixedItems,
        covers fixedOpening.span fixed.span]

end Lists

/-! ## Operands -/

theorem Token.IsFixed.identifier (fixed : token.IsFixed move) :
    token.identifier.mapSpan move = token.identifier := by
  rw [Identifier.mapSpan, Token.identifier, fixed.span]

theorem span_of_readNumber {error : SyntaxError} (failed : readNumber token = .error error) :
    error.span = token.span := by
  unfold readNumber at failed
  dsimp only at failed
  split at failed
  next => cases failed
  next =>
    split at failed
    next => cases failed
    next =>
      cases failed
      rfl

theorem span_of_readIndex {error : SyntaxError} (failed : readIndex token = .error error) :
    error.span = token.span := by
  unfold readIndex at failed
  dsimp only at failed
  split at failed
  next => cases failed
  next =>
    cases failed
    rfl

section Operands

variable (covers : KeepsCovers move) {operand expression : Reader Expression}
  (yields : YieldsReader move ending (Expression.IsFixed move) expression)

include covers yields

theorem yields_readPrimary :
    YieldsReader move ending (Expression.IsFixed move) (readPrimary ending expression) := by
  refine yieldsReader_of_cons ⟨_, rfl⟩ fun token tokens inTag => ?_
  have first := inTag.first
  obtain ⟨kind, text, start⟩ := token
  cases kind with
  | keyword keyword =>
      dsimp only [readPrimary]
      split
      next =>
        refine .ok ?_ (inTag.tail (by simp))
        rw [Expression.IsFixed, Expression.mapSpans, first.span]
      next => exact .error first.span
  | number =>
      refine yields_check (fun failed => ?_) fun literal => .ok ?_ (inTag.tail (by simp))
      · rw [span_of_readNumber failed, first.span]
      · rw [Expression.IsFixed, Expression.mapSpans, first.span]
  | string =>
      refine yields_check (fun failed => first.content rfl failed) fun literal =>
        .ok ?_ (inTag.tail (by simp))
      rw [Expression.IsFixed, Expression.mapSpans, first.span]
  | identifier =>
      have inTag := inTag.tail (by simp)
      refine yields_peek inTag fun token rest _ => ?_
      split
      next =>
        refine (yields_readKind (by simp) inTag).bind fun opening inner _ inTag => ?_
        refine (yields_readArguments yields inTag).bind fun given rest fixed left => .ok ?_ left
        rw [Expression.IsFixed, Expression.mapSpans, first.identifier, fixed.1,
          covers first.span fixed.2.span]
      next =>
        refine .ok ?_ inTag
        rw [Expression.IsFixed, Expression.mapSpans, first.identifier]
  | symbol symbol =>
      have behind := inTag.tail (by simp)
      cases symbol with
      | leftParenthesis =>
          refine (yields behind).bind fun inner last fixed inTag => ?_
          exact (yields_readKind (by simp) inTag).bind fun close rest _ left => .ok fixed left
      | leftBracket =>
          exact (yields_readBracketed yields covers first behind).bind
            fun bracketed rest fixed left => .ok fixed left
      | _ => exact .error first.span
  | _ => exact .error first.span

theorem yields_readMember {target : Expression} (fixedTarget : target.IsFixed move) :
    YieldsReader move ending (Expression.IsFixed move) (readMember ending expression target) := by
  refine yieldsReader_of_cons ⟨_, rfl⟩ fun token tokens inTag => ?_
  have first := inTag.first
  obtain ⟨kind, text, start⟩ := token
  cases kind with
  | identifier =>
      have inTag := inTag.tail (by simp)
      refine yields_peek inTag fun token rest _ => ?_
      split
      next =>
        split
        next =>
          refine (yields_readKind (by simp) inTag).bind fun opening inner _ inTag => ?_
          refine (yields_readArguments yields inTag).bind fun given rest fixed left => .ok ?_ left
          rw [Expression.IsFixed, Expression.mapSpans, first.identifier, fixed.1,
            covers fixedTarget.span fixed.2.span]
        next => exact .error (covers fixedTarget.span first.span)
      next =>
        refine .ok ?_ inTag
        rw [Expression.IsFixed, Expression.mapSpans, fixedTarget, MemberKey.mapSpan,
          first.identifier, covers fixedTarget.span first.span]
  | number =>
      refine yields_check (fun failed => ?_) fun index => .ok ?_ (inTag.tail (by simp))
      · rw [span_of_readIndex failed, first.span]
      · rw [Expression.IsFixed, Expression.mapSpans, fixedTarget, MemberKey.mapSpan, first.span,
          covers fixedTarget.span first.span]
  | _ => exact .error first.span

theorem yields_readSelectors {target : Expression} (fixedTarget : target.IsFixed move)
    {tokens : List Token} (inTag : InTag move ending tokens) :
    Yields move ending (Expression.IsFixed move)
      (readSelectors ending expression target tokens) := by
  rw [readSelectors]
  refine yields_peek inTag fun token rest _ => ?_
  split
  next =>
    refine (yields_readKind (by simp) inTag).bind fun dot behind _ inTag => ?_
    refine (yields_readMember covers yields fixedTarget inTag).bind
      fun selected next fixedSelected inTag => ?_
    exact (yields_readSelectors fixedSelected inTag).bind fun whole rest fixed left =>
      .ok fixed left
  next =>
    refine (yields_readKind (by simp) inTag).bind fun opening behind _ inTag => ?_
    refine (yields inTag).bind fun selector last fixedSelector inTag => ?_
    refine (yields_readKind (by simp) inTag).bind fun close next fixedClose inTag => ?_
    have fixedSelected : Expression.IsFixed move
        (.index target selector (target.span.cover close.span)) := by
      rw [Expression.IsFixed, Expression.mapSpans, fixedTarget, fixedSelector,
        covers fixedTarget.span fixedClose.span]
    exact (yields_readSelectors fixedSelected inTag).bind fun whole rest fixed left =>
      .ok fixed left
  next => exact .ok fixedTarget inTag
termination_by tokens.length
decreasing_by
  · exact Nat.lt_trans next.2 behind.2
  · exact Nat.lt_trans next.2 (Nat.lt_trans last.2 behind.2)

theorem yields_readOperand
    (yieldsOperand : YieldsReader move ending (Expression.IsFixed move) operand) :
    YieldsReader move ending (Expression.IsFixed move)
      (readOperand ending operand expression) := by
  refine yieldsReader_of_cons ⟨_, rfl⟩ fun token tokens inTag => ?_
  rw [readOperand]
  split
  next operator isOperator =>
    have inside : token.kind ≠ .endTag := ne_of_eq_some isOperator rfl
    refine (yieldsOperand (inTag.tail inside)).bind fun inner rest fixed left => .ok ?_ left
    rw [Expression.IsFixed, Expression.mapSpans, fixed, covers inTag.first.span fixed.span]
  next =>
    refine (yields_readPrimary covers yields inTag).bind fun primary next fixedPrimary inTag => ?_
    exact (yields_readSelectors covers yields fixedPrimary inTag).bind fun whole rest fixed left =>
      .ok fixed left

end Operands

/-! ## Binary operators -/

section Binary

variable (covers : KeepsCovers move) {operand : Reader Expression}
  (yields : YieldsReader move ending (Expression.IsFixed move) operand)

include covers yields

theorem yields_climb (least : Nat) {left : Expression} (fixedLeft : left.IsFixed move)
    {tokens : List Token} (inTag : InTag move ending tokens) :
    Yields move ending (Expression.IsFixed move) (climb ending operand least left tokens) := by
  rw [climb]
  refine yields_peek inTag fun token rest parts => ?_
  split
  next operator isOperator =>
    split
    next => exact .ok fixedLeft inTag
    next =>
      have inside : token.kind ≠ .endTag := ne_of_eq_some (f := binaryOperator?) isOperator rfl
      refine (yields_readAny inTag parts inside).bind fun symbol behind _ inTag => ?_
      refine (yields inTag).bind fun first next fixedFirst inTag => ?_
      refine (yields_climb (precedence operator) fixedFirst inTag).bind
        fun right last fixedRight inTag => ?_
      have joined : Expression.IsFixed move
          (.binary operator left right (left.span.cover right.span)) := by
        rw [Expression.IsFixed, Expression.mapSpans, fixedLeft, fixedRight,
          covers fixedLeft.span fixedRight.span]
      exact (yields_climb least joined inTag).bind fun whole rest fixed left => .ok fixed left
  next => exact .ok fixedLeft inTag
termination_by tokens.length
decreasing_by
  · exact Nat.lt_trans next.2 behind.2
  · exact Nat.lt_of_le_of_lt last.2 (Nat.lt_trans next.2 behind.2)

theorem yields_readBinary :
    YieldsReader move ending (Expression.IsFixed move) (readBinary ending operand) := by
  intro tokens inTag
  refine (yields inTag).bind fun first behind fixedFirst inTag => ?_
  exact (yields_climb covers yields 0 fixedFirst inTag).bind fun whole rest fixed left =>
    .ok fixed left

end Binary

/-! ## Levels -/

theorem yields_operandAt (covers : KeepsCovers move) (levels : Nat) :
    YieldsReader move ending (Expression.IsFixed move) (operandAt ending levels) := by
  induction levels with
  | zero => exact yields_readOperand covers yields_readTooDeep yields_readTooDeep
  | succ levels inductionHypothesis =>
      exact yields_readOperand covers (yields_readBinary covers inductionHypothesis)
        inductionHypothesis

/-- Expressions are read with all their bytes in place, or what is wrong with them is in place. -/
theorem yields_readExpression (covers : KeepsCovers move) :
    YieldsReader move ending (Expression.IsFixed move) (readExpression ending) :=
  yields_readBinary covers (yields_operandAt covers 127)

end ViewTemplate.Fragment
