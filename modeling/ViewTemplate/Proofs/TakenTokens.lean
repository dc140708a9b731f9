import ViewTemplate.Proofs.LoweredTags
import ViewTemplate.Proofs.ReadExpressions

/-!
Which tokens an expression takes. Its parentheses and brackets are closed among themselves, and no
comma stands outside them (`takesClosed_expressionAt`). So the arguments of a call end where the
parenthesis in front of them is closed, and a call that stands behind a comma there is the last of
them (`gives_readArguments_call`); if it is not closed, they are not read at all
(`gives_readArguments_unclosed`).
-/

namespace ViewTemplate.Fragment

/-! ## Open parentheses and brackets -/

/-- How many parentheses and how many brackets are open. -/
structure Enclosure where
  parentheses : Nat
  brackets : Nat

namespace Enclosure

def nothing : Enclosure := ⟨0, 0⟩

/-- What is open behind a token of an expression. Commas stand inside parentheses or brackets only,
and no expression goes on behind a comment or the end of its tag. -/
def behind? (opened : Enclosure) : TokenKind → Option Enclosure
  | .symbol .comma =>
      if opened.parentheses = 0 ∧ opened.brackets = 0 then none else some opened
  | .symbol .leftBracket => some ⟨opened.parentheses, opened.brackets + 1⟩
  | .symbol .rightBracket =>
      match opened.brackets with
      | 0 => none
      | brackets + 1 => some ⟨opened.parentheses, brackets⟩
  | .endTag | .comment => none
  | kind => (openBehind? opened.parentheses kind).map (⟨·, opened.brackets⟩)

def behindAll? (opened : Enclosure) (tokens : List Token) : Option Enclosure :=
  tokens.foldlM (fun opened token => opened.behind? token.kind) opened

/-- What is open inside something that stands where other parentheses and brackets are open. -/
def inside (outer inner : Enclosure) : Enclosure :=
  ⟨inner.parentheses + outer.parentheses, inner.brackets + outer.brackets⟩

variable {opened next : Enclosure} {kind : TokenKind} {tokens : List Token}

theorem behindAll?_cons {token : Token} (first : opened.behind? token.kind = some next)
    (tokens : List Token) : opened.behindAll? (token :: tokens) = next.behindAll? tokens := by
  rw [behindAll?, List.foldlM_cons, first]
  rfl

theorem behindAll?_append (passed : opened.behindAll? tokens = some next) (others : List Token) :
    opened.behindAll? (tokens ++ others) = next.behindAll? others := by
  rw [behindAll?, List.foldlM_append, ← behindAll?, passed]
  rfl

/-! ### Parentheses, brackets and operators -/

theorem behind?_leftParenthesis :
    nothing.behind? (.symbol .leftParenthesis) = some ⟨1, 0⟩ := rfl

theorem behind?_rightParenthesis :
    behind? ⟨1, 0⟩ (.symbol .rightParenthesis) = some nothing := rfl

theorem behind?_leftBracket : nothing.behind? (.symbol .leftBracket) = some ⟨0, 1⟩ := rfl

theorem behind?_rightBracket : behind? ⟨0, 1⟩ (.symbol .rightBracket) = some nothing := rfl

theorem behind?_of_unaryOperator? {operator : UnaryOperator}
    (isOperator : unaryOperator? kind = some operator) :
    nothing.behind? kind = some nothing := by
  unfold unaryOperator? at isOperator
  split at isOperator <;> cases isOperator <;> rfl

theorem behind?_of_binaryOperator? {operator : BinaryOperator}
    (isOperator : binaryOperator? kind = some operator) :
    nothing.behind? kind = some nothing := by
  unfold binaryOperator? at isOperator
  split at isOperator <;> cases isOperator <;> rfl

/-! ### What is open around -/

theorem openBehind?_of_behind? (passed : opened.behind? kind = some next) :
    openBehind? opened.parentheses kind = some next.parentheses := by
  unfold behind? at passed
  split at passed
  next =>
    split at passed <;> cases passed
    rfl
  next =>
    cases passed
    rfl
  next =>
    split at passed <;> cases passed
    rfl
  next => cases passed
  next => cases passed
  next =>
    obtain ⟨parentheses, behind, rfl⟩ := Option.map_eq_some_iff.1 passed
    exact behind

theorem behind?_inside (outer : Enclosure) (passed : opened.behind? kind = some next) :
    (outer.inside opened).behind? kind = some (outer.inside next) := by
  obtain ⟨parentheses, brackets⟩ := opened
  unfold behind? at passed
  split at passed
  next =>
    split at passed
    next => cases passed
    next enclosed =>
      cases passed
      have enclosed' : ¬ (parentheses + outer.parentheses = 0 ∧ brackets + outer.brackets = 0) := by
        simp only at enclosed
        omega
      exact if_neg enclosed'
  next =>
    cases passed
    exact congrArg some (congrArg (Enclosure.mk _) (Nat.add_right_comm ..))
  next =>
    split at passed
    next => cases passed
    next more same =>
      cases passed
      simp only at same
      subst same
      simp only [behind?, inside, Nat.succ_add]
  next => cases passed
  next => cases passed
  next other _ _ _ _ _ =>
    obtain ⟨behind, opens, rfl⟩ := Option.map_eq_some_iff.1 passed
    have opens' := openBehind?_add opens outer.parentheses
    unfold behind?
    split
    all_goals first | contradiction | skip
    simp only [inside, opens', Option.map_some]

theorem behindAll?_inside (outer : Enclosure) (passed : opened.behindAll? tokens = some next) :
    (outer.inside opened).behindAll? tokens = some (outer.inside next) := by
  induction tokens generalizing opened with
  | nil =>
      cases passed
      rfl
  | cons token tokens inductionHypothesis =>
      obtain ⟨middle, first, others⟩ := Option.bind_eq_some_iff.1 passed
      rw [behindAll?_cons (behind?_inside outer first)]
      exact inductionHypothesis others

theorem brackets_eq_of_behind? (notOpening : kind ≠ .symbol .leftBracket)
    (notClosing : kind ≠ .symbol .rightBracket) (passed : opened.behind? kind = some next) :
    next.brackets = opened.brackets := by
  unfold behind? at passed
  split at passed
  next =>
    split at passed <;> cases passed
    rfl
  next => exact absurd rfl notOpening
  next => exact absurd rfl notClosing
  next => cases passed
  next => cases passed
  next =>
    obtain ⟨parentheses, -, rfl⟩ := Option.map_eq_some_iff.1 passed
    rfl

theorem brackets_eq_of_behindAll?
    (plain : ∀ token ∈ tokens,
      token.kind ≠ .symbol .leftBracket ∧ token.kind ≠ .symbol .rightBracket)
    (passed : opened.behindAll? tokens = some next) : next.brackets = opened.brackets := by
  induction tokens generalizing opened with
  | nil =>
      cases passed
      rfl
  | cons token tokens inductionHypothesis =>
      obtain ⟨here, later⟩ := List.forall_mem_cons.1 plain
      obtain ⟨middle, first, others⟩ := Option.bind_eq_some_iff.1 passed
      rw [inductionHypothesis later others, brackets_eq_of_behind? here.1 here.2 first]

end Enclosure

/-! ## Tokens that are taken -/

/-- The tokens between two places, with what is open in each. -/
def Passes (opened : Enclosure) (tokens : List Token) (next : Enclosure) (rest : List Token) :
    Prop :=
  ∃ taken, tokens = taken ++ rest ∧ opened.behindAll? taken = some next

/-- What is read takes tokens whose parentheses and brackets are closed among themselves, with all
commas inside them. -/
def TakesClosed {α : Type} (reader : Reader α) : Prop :=
  ∀ tokens, Gives (fun _ rest => Passes .nothing tokens .nothing rest) (reader tokens)

section Passes

variable {opened middle next : Enclosure} {tokens between rest : List Token}

theorem Passes.untouched (opened : Enclosure) (tokens : List Token) :
    Passes opened tokens opened tokens :=
  ⟨[], rfl, rfl⟩

theorem Passes.trans (first : Passes opened tokens middle between)
    (second : Passes middle between next rest) : Passes opened tokens next rest := by
  obtain ⟨taken, rfl, passed⟩ := first
  obtain ⟨others, rfl, passedOthers⟩ := second
  refine ⟨taken ++ others, (List.append_assoc ..).symm, ?_⟩
  rw [Enclosure.behindAll?_append passed, passedOthers]

theorem Passes.inside (outer : Enclosure) (passes : Passes opened tokens next rest) :
    Passes (outer.inside opened) tokens (outer.inside next) rest := by
  obtain ⟨taken, same, passed⟩ := passes
  exact ⟨taken, same, Enclosure.behindAll?_inside outer passed⟩

/-- What is closed in itself may stand wherever parentheses and brackets are open. -/
theorem Passes.within (passes : Passes .nothing tokens .nothing rest) (opened : Enclosure) :
    Passes opened tokens opened rest := by
  have inner := passes.inside opened
  simpa only [Enclosure.inside, Enclosure.nothing, Nat.zero_add] using inner

theorem passes_token {token : Token} {kind : TokenKind} (same : token.kind = kind)
    (passed : opened.behind? kind = some next) (rest : List Token) :
    Passes opened (token :: rest) next rest := by
  subst same
  exact ⟨[token], rfl, Enclosure.behindAll?_cons passed []⟩

end Passes

/-! ## Single tokens -/

section Tokens

variable {α : Type} {ending : Ending} {tokens : List Token}

theorem gives_readAny (tokens : List Token) :
    Gives (fun token rest => tokens = token :: rest) (readAny ending tokens) := by
  cases tokens with
  | nil => exact .error
  | cons token rest => exact .ok rfl

theorem gives_readKind (kind : TokenKind) (tokens : List Token) :
    Gives (fun token rest => token.kind = kind ∧ tokens = token :: rest)
      (readKind ending kind tokens) := by
  cases tokens with
  | nil => exact .error
  | cons token rest =>
      rw [readKind]
      split
      next same => exact .ok ⟨same, rfl⟩
      next => exact .error

theorem gives_readKind_passes {opened next : Enclosure} {kind : TokenKind}
    (passed : opened.behind? kind = some next) (tokens : List Token) :
    Gives (fun _ rest => Passes opened tokens next rest) (readKind ending kind tokens) := by
  refine (gives_readKind kind tokens).mono fun token rest taken => ?_
  obtain ⟨same, rfl⟩ := taken
  exact passes_token same passed rest

theorem gives_peek_head {Holds : α → List Token → Prop} {fits : List Token → Prop}
    {next : Option TokenKind → Except SyntaxError (α × { rest : List Token // fits rest })}
    (gives : Gives Holds (next (tokens.head?.map Token.kind))) :
    Gives Holds (peek ending tokens >>= next) := by
  cases tokens with
  | nil =>
      cases ending with
      | complete length => exact gives
      | failed error => exact .error
  | cons token rest => exact gives

theorem takesClosed_readTooDeep : TakesClosed (readTooDeep (α := α) ending) := by
  intro tokens
  cases tokens with
  | nil => cases ending <;> exact .error
  | cons => exact .error

end Tokens

/-! ## Lists of expressions -/

section Lists

variable {ending : Ending} {expression : Reader Expression} (takes : TakesClosed expression)

include takes

theorem passes_readArguments (tokens : List Token) :
    Gives (fun _ rest => Passes ⟨1, 0⟩ tokens .nothing rest)
      (readArguments ending expression tokens) := by
  have closes := Enclosure.behind?_rightParenthesis
  have separates : Enclosure.behind? ⟨1, 0⟩ (.symbol .comma) = some ⟨1, 0⟩ := rfl
  rw [readArguments]
  refine gives_bind fun kind => ?_
  split
  next => exact (gives_readKind_passes closes tokens).bind fun close rest closed => .ok closed
  next =>
    refine (takes tokens).bind fun first behind argument => ?_
    refine gives_bind fun kind => ?_
    split
    next =>
      refine (gives_readKind_passes separates behind.1).bind fun comma inner separated => ?_
      refine (passes_readArguments inner.1).bind fun given rest others => ?_
      exact .ok ((argument.within ⟨1, 0⟩).trans (separated.trans others))
    next =>
      exact (gives_readKind_passes closes behind.1).bind fun close rest closed =>
        .ok ((argument.within ⟨1, 0⟩).trans closed)
termination_by tokens.length
decreasing_by exact Nat.lt_trans inner.2 behind.2

theorem passes_readItems (tokens : List Token) :
    Gives (fun _ rest => Passes ⟨0, 1⟩ tokens ⟨0, 1⟩ rest)
      (readItems ending expression tokens) := by
  have separates : Enclosure.behind? ⟨0, 1⟩ (.symbol .comma) = some ⟨0, 1⟩ := rfl
  rw [readItems]
  refine gives_bind fun kind => ?_
  split
  next =>
    refine (gives_readKind_passes separates tokens).bind fun comma behind separated => ?_
    refine gives_bind fun kind => ?_
    split
    next => exact .ok separated
    next =>
      refine (takes behind.1).bind fun item inner closed => ?_
      refine (passes_readItems inner.1).bind fun items rest others => ?_
      exact .ok (separated.trans ((closed.within ⟨0, 1⟩).trans others))
  next => exact .ok (.untouched ⟨0, 1⟩ tokens)
termination_by tokens.length
decreasing_by exact Nat.lt_trans inner.2 behind.2

theorem passes_readEntries (tokens : List Token) :
    Gives (fun _ rest => Passes ⟨0, 1⟩ tokens ⟨0, 1⟩ rest)
      (readEntries ending expression tokens) := by
  have separates : Enclosure.behind? ⟨0, 1⟩ (.symbol .comma) = some ⟨0, 1⟩ := rfl
  have points : Enclosure.behind? ⟨0, 1⟩ (.symbol .arrow) = some ⟨0, 1⟩ := rfl
  rw [readEntries]
  refine gives_bind fun kind => ?_
  split
  next =>
    refine (gives_readKind_passes separates tokens).bind fun comma behind separated => ?_
    refine gives_bind fun kind => ?_
    split
    next => exact .ok separated
    next =>
      refine (takes behind.1).bind fun key afterKey keyClosed => ?_
      refine (gives_readKind_passes points afterKey.1).bind fun arrow afterArrow pointed => ?_
      refine (takes afterArrow.1).bind fun value inner valueClosed => ?_
      refine (passes_readEntries inner.1).bind fun entries rest others => ?_
      have entry : Passes ⟨0, 1⟩ behind.1 ⟨0, 1⟩ inner.1 :=
        (keyClosed.within ⟨0, 1⟩).trans (pointed.trans (valueClosed.within ⟨0, 1⟩))
      exact .ok (separated.trans (entry.trans others))
  next => exact .ok (.untouched ⟨0, 1⟩ tokens)
termination_by tokens.length
decreasing_by
  exact Nat.lt_trans inner.2 (Nat.lt_trans afterArrow.2 (Nat.lt_trans afterKey.2 behind.2))

theorem passes_readBracketed (opening : Token) (tokens : List Token) :
    Gives (fun _ rest => Passes ⟨0, 1⟩ tokens .nothing rest)
      (readBracketed ending expression opening tokens) := by
  have closes := Enclosure.behind?_rightBracket
  have points : Enclosure.behind? ⟨0, 1⟩ (.symbol .arrow) = some ⟨0, 1⟩ := rfl
  refine gives_bind fun kind => ?_
  split
  next => exact (gives_readKind_passes closes tokens).bind fun close rest closed => .ok closed
  next =>
    refine (takes tokens).bind fun first behind firstClosed => ?_
    have begun := firstClosed.within ⟨0, 1⟩
    refine gives_bind fun kind => ?_
    split
    next =>
      refine (gives_readKind_passes points behind.1).bind fun arrow afterArrow pointed => ?_
      refine (takes afterArrow.1).bind fun value inner valueClosed => ?_
      refine (passes_readEntries takes inner.1).bind fun entries last others => ?_
      refine (gives_readKind_passes closes last.1).bind fun close rest closed => ?_
      have value := pointed.trans (valueClosed.within ⟨0, 1⟩)
      exact .ok (begun.trans (value.trans (others.trans closed)))
    next =>
      refine (passes_readItems takes behind.1).bind fun items last others => ?_
      exact (gives_readKind_passes closes last.1).bind fun close rest closed =>
        .ok (begun.trans (others.trans closed))

end Lists

/-! ## Operands -/

section Operands

variable {ending : Ending} {expression : Reader Expression} (takes : TakesClosed expression)

include takes

theorem takesClosed_readPrimary : TakesClosed (readPrimary ending expression) := by
  intro tokens
  cases tokens with
  | nil => exact .error
  | cons token tokens =>
      have alone {kind : TokenKind} (same : token.kind = kind)
          (passed : Enclosure.nothing.behind? kind = some .nothing) :
          Passes .nothing (token :: tokens) .nothing tokens :=
        passes_token same passed tokens
      have opensCall := Enclosure.behind?_leftParenthesis
      rw [readPrimary]
      dsimp only
      split
      next keyword isKeyword =>
        split
        next => exact .ok (alone isKeyword rfl)
        next => exact .error
      next isNumber => exact gives_bind fun literal => .ok (alone isNumber rfl)
      next isString => exact gives_bind fun literal => .ok (alone isString rfl)
      next isName =>
        refine gives_bind fun kind => ?_
        split
        next =>
          refine (gives_readKind_passes opensCall _).bind fun opening inner opened => ?_
          exact (passes_readArguments takes inner.1).bind fun given rest closed =>
            .ok ((alone isName rfl).trans (opened.trans closed))
        next => exact .ok (alone isName rfl)
      next isOpening =>
        have closes := Enclosure.behind?_rightParenthesis
        refine (takes _).bind fun inner last inside => ?_
        refine (gives_readKind_passes closes last.1).bind fun close rest closed => ?_
        have opened := passes_token isOpening opensCall tokens
        exact .ok (opened.trans ((inside.within ⟨1, 0⟩).trans closed))
      next isBracket =>
        have opened := passes_token isBracket Enclosure.behind?_leftBracket tokens
        exact (passes_readBracketed takes token _).bind fun bracketed rest closed =>
          .ok (opened.trans closed)
      next => exact .error

theorem takesClosed_readMember (target : Expression) :
    TakesClosed (readMember ending expression target) := by
  intro tokens
  cases tokens with
  | nil => exact .error
  | cons token tokens =>
      have opensCall := Enclosure.behind?_leftParenthesis
      rw [readMember]
      dsimp only
      split
      next isName =>
        have name : Passes .nothing (token :: tokens) .nothing tokens :=
          passes_token isName rfl tokens
        refine gives_bind fun kind => ?_
        split
        next =>
          split
          next =>
            refine (gives_readKind_passes opensCall _).bind fun opening inner opened => ?_
            exact (passes_readArguments takes inner.1).bind fun given rest closed =>
              .ok (name.trans (opened.trans closed))
          next => exact .error
        next => exact .ok name
      next isNumber => exact gives_bind fun index => .ok (passes_token isNumber rfl tokens)
      next => exact .error

theorem passes_readSelectors (target : Expression) (tokens : List Token) :
    Gives (fun _ rest => Passes .nothing tokens .nothing rest)
      (readSelectors ending expression target tokens) := by
  have selects : Enclosure.nothing.behind? (.symbol .dot) = some .nothing := rfl
  have opens := Enclosure.behind?_leftBracket
  have closes := Enclosure.behind?_rightBracket
  rw [readSelectors]
  refine gives_bind fun kind => ?_
  split
  next =>
    refine (gives_readKind_passes selects tokens).bind fun dot behind selected => ?_
    refine (takesClosed_readMember takes target behind.1).bind fun member next closed => ?_
    exact (passes_readSelectors member next.1).bind fun whole rest others =>
      .ok (selected.trans (closed.trans others))
  next =>
    refine (gives_readKind_passes opens tokens).bind fun opening behind opened => ?_
    refine (takes behind.1).bind fun selector last inside => ?_
    refine (gives_readKind_passes closes last.1).bind fun close next closed => ?_
    have index := opened.trans ((inside.within ⟨0, 1⟩).trans closed)
    exact (passes_readSelectors _ next.1).bind fun whole rest others => .ok (index.trans others)
  next => exact .ok (.untouched .nothing tokens)
termination_by tokens.length
decreasing_by
  · exact Nat.lt_trans next.2 behind.2
  · exact Nat.lt_trans next.2 (Nat.lt_trans last.2 behind.2)

theorem takesClosed_readOperand {operand : Reader Expression} (takesOperand : TakesClosed operand) :
    TakesClosed (readOperand ending operand expression) := by
  intro tokens
  cases tokens with
  | nil => exact .error
  | cons token tokens =>
      rw [readOperand]
      split
      next operator isOperator =>
        have passed := passes_token rfl (Enclosure.behind?_of_unaryOperator? isOperator) tokens
        exact (takesOperand _).bind fun inner rest closed => .ok (passed.trans closed)
      next =>
        refine (takesClosed_readPrimary takes _).bind fun primary next closed => ?_
        exact (passes_readSelectors takes primary next.1).bind fun whole rest others =>
          .ok (closed.trans others)

end Operands

/-! ## Binary operators -/

section Binary

variable {ending : Ending} {operand : Reader Expression} (takes : TakesClosed operand)

include takes

theorem passes_climb (least : Nat) (left : Expression) (tokens : List Token) :
    Gives (fun _ rest => Passes .nothing tokens .nothing rest)
      (climb ending operand least left tokens) := by
  rw [climb]
  refine gives_peek_head ?_
  split
  next operator found =>
    split
    next => exact .ok (.untouched .nothing tokens)
    next =>
      refine (gives_readAny tokens).bind fun symbol behind taken => ?_
      have isOperator : binaryOperator? symbol.kind = some operator := by
        rw [taken] at found
        exact found
      have passed := passes_token rfl (Enclosure.behind?_of_binaryOperator? isOperator) behind.1
      rw [← taken] at passed
      refine (takes behind.1).bind fun first next closed => ?_
      refine (passes_climb (precedence operator) first next.1).bind fun right last others => ?_
      have joined := passed.trans (closed.trans others)
      exact (passes_climb least _ last.1).bind fun whole rest further =>
        .ok (joined.trans further)
  next => exact .ok (.untouched .nothing tokens)
termination_by tokens.length
decreasing_by
  · exact Nat.lt_trans next.2 behind.2
  · exact Nat.lt_of_le_of_lt last.2 (Nat.lt_trans next.2 behind.2)

theorem takesClosed_readBinary : TakesClosed (readBinary ending operand) := by
  intro tokens
  refine (takes tokens).bind fun first behind closed => ?_
  exact (passes_climb takes 0 first behind.1).bind fun whole rest others =>
    .ok (closed.trans others)

end Binary

/-! ## Levels -/

variable {ending : Ending}

theorem takesClosed_operandAt (levels : Nat) : TakesClosed (operandAt ending levels) := by
  induction levels with
  | zero => exact takesClosed_readOperand takesClosed_readTooDeep takesClosed_readTooDeep
  | succ levels inductionHypothesis =>
      exact takesClosed_readOperand (takesClosed_readBinary inductionHypothesis) inductionHypothesis

theorem takesClosed_expressionAt (levels : Nat) : TakesClosed (expressionAt ending levels) := by
  cases levels with
  | zero => exact takesClosed_readTooDeep
  | succ levels => exact takesClosed_readBinary (takesClosed_operandAt levels)

/-! ## Arguments in front of a call -/

theorem Leaves.gives {α : Type} {Holds : α → List Token → Prop} {fits : List Token → Prop}
    {reading : Except SyntaxError (α × { rest : List Token // fits rest })} {value : α}
    {rest : List Token} (leaves : Leaves reading value rest) (holds : Holds value rest) :
    Gives Holds reading := by
  obtain ⟨proof, rfl⟩ := leaves
  exact .ok holds

/-- The number of open parentheses behind tokens. -/
def openBehindTokens? (depth : Nat) (tokens : List Token) : Option Nat :=
  tokens.foldlM (fun depth token => openBehind? depth token.kind) depth

theorem openBehindTokens?_append {depth depth' : Nat} {first : List Token}
    (opened : openBehindTokens? depth first = some depth') (second : List Token) :
    openBehindTokens? depth (first ++ second) = openBehindTokens? depth' second := by
  rw [openBehindTokens?, List.foldlM_append, ← openBehindTokens?, opened]
  rfl

theorem openBehindTokens?_of_behindAll? {opened next : Enclosure} {tokens : List Token}
    (passed : opened.behindAll? tokens = some next) :
    openBehindTokens? opened.parentheses tokens = some next.parentheses := by
  induction tokens generalizing opened with
  | nil =>
      cases passed
      rfl
  | cons token tokens inductionHypothesis =>
      obtain ⟨middle, first, others⟩ := Option.bind_eq_some_iff.1 passed
      rw [openBehindTokens?, List.foldlM_cons, Enclosure.openBehind?_of_behind? first]
      exact inductionHypothesis others

/-- Balanced tokens in front of a comma do not begin with a closing parenthesis. -/
theorem head_ne_rightParenthesis {comma : Token} (separates : comma.kind = .symbol .comma)
    {front : List Token} {depth : Nat} (balanced : openBehindTokens? 0 front = some depth)
    (tokens : List Token) :
    (front ++ comma :: tokens).head?.map Token.kind ≠ some (.symbol .rightParenthesis) := by
  intro closing
  cases front with
  | nil => cases separates.symm.trans (Option.some.inj closing)
  | cons first front =>
      rw [openBehindTokens?, List.foldlM_cons, Option.some.inj closing] at balanced
      cases balanced

section Call

variable {ending : Ending} {levels : Nat} {tokens rest : List Token}
  {comma name opening inner close : Token}
  (separates : comma.kind = .symbol .comma) (isName : name.kind = .identifier)
  (opens : opening.kind = .symbol .leftParenthesis)
  (closesInner : inner.kind = .symbol .rightParenthesis)
  (closes : close.kind = .symbol .rightParenthesis)

include separates isName opens closesInner closes

omit separates in
theorem leaves_readArguments_alone :
    Leaves
      (readArguments ending (readBinary ending (operandAt ending levels))
        (name :: opening :: inner :: close :: tokens))
      ([.call name.identifier [] (name.span.cover inner.span)], close) tokens := by
  have notClosing : name.kind ≠ .symbol .rightParenthesis := by simp [isName]
  have stop : EndsExpression close.kind := closes ▸ endsExpression_rightParenthesis
  exact leaves_readArguments_last notClosing
    (leaves_argument_call levels isName opens closesInner stop) closes

/-- An argument does not go on with the comma: no bracket that is open there is closed in the tokens
behind it, up to the parenthesis that closes what is open in front of the argument. -/
theorem eq_nil_of_behindAll? {opened : Enclosure} (outside : opened.parentheses = 0)
    {beyond : List Token}
    (same : comma :: name :: opening :: inner :: close :: tokens = beyond ++ rest)
    (passed : opened.behindAll? beyond = some .nothing) : beyond = [] := by
  have within : openBehindTokens? opened.parentheses beyond = some 0 :=
    openBehindTokens?_of_behindAll? passed
  rw [outside] at within
  have exists_others : ∃ others, [comma, name, opening, inner] = beyond ++ others := by
    have parts : [comma, name, opening, inner] ++ close :: tokens = beyond ++ rest := same
    rcases List.append_eq_append_iff.1 parts with ⟨further, rfl, following⟩ | ⟨others, whole, -⟩
    · cases further with
      | nil => exact ⟨[], by simp⟩
      | cons token further =>
          obtain ⟨rfl, -⟩ := List.cons.inj following
          simp [openBehindTokens?, openBehind?, separates, isName, opens, closesInner,
            closes] at within
    · exact ⟨others, whole⟩
  obtain ⟨others, whole⟩ := exists_others
  have plain : ∀ token ∈ beyond,
      token.kind ≠ .symbol .leftBracket ∧ token.kind ≠ .symbol .rightBracket := by
    intro token member
    have among : token ∈ [comma, name, opening, inner] := whole ▸ List.mem_append_left others member
    simp only [List.mem_cons, List.not_mem_nil, or_false] at among
    rcases among with rfl | rfl | rfl | rfl
    · simp [separates]
    · simp [isName]
    · simp [opens]
    · simp [closesInner]
  have noBracket : opened.brackets = 0 := (Enclosure.brackets_eq_of_behindAll? plain passed).symm
  cases beyond with
  | nil => rfl
  | cons first beyond =>
      obtain ⟨rfl, -⟩ := List.cons.inj same
      obtain ⟨middle, refused, -⟩ := Option.bind_eq_some_iff.1 passed
      simp [Enclosure.behind?, separates, outside, noBracket] at refused

/-- An argument in front of a call ends in front of the comma. -/
theorem exists_further_of_passes {front : List Token}
    (balanced : openBehindTokens? 0 front = some 0)
    (passes : Passes .nothing (front ++ comma :: name :: opening :: inner :: close :: tokens)
      .nothing rest) :
    ∃ taken further, front = taken ++ further ∧
      rest = further ++ comma :: name :: opening :: inner :: close :: tokens ∧
        openBehindTokens? 0 further = some 0 := by
  obtain ⟨taken, same, passed⟩ := passes
  have within : ∀ further, front = taken ++ further → openBehindTokens? 0 further = some 0 := by
    rintro further rfl
    have opened : openBehindTokens? 0 taken = some 0 := openBehindTokens?_of_behindAll? passed
    rwa [openBehindTokens?_append opened] at balanced
  rcases List.append_eq_append_iff.1 same with ⟨beyond, rfl, following⟩ | ⟨further, rfl, following⟩
  · rw [Enclosure.behindAll?, List.foldlM_append] at passed
    obtain ⟨middle, first, others⟩ := Option.bind_eq_some_iff.1 passed
    have outside : middle.parentheses = 0 :=
      Option.some.inj ((openBehindTokens?_of_behindAll? first).symm.trans balanced)
    obtain rfl := eq_nil_of_behindAll? separates isName opens closesInner closes outside following
      others
    rw [List.append_nil] at within
    exact ⟨front, [], (List.append_nil front).symm, following.symm,
      within [] (List.append_nil front).symm⟩
  · exact ⟨taken, further, rfl, following, within further rfl⟩

/-- A call without arguments that stands behind a comma is the last of the arguments that are
closed there. -/
theorem gives_readArguments_call (front : List Token)
    (balanced : openBehindTokens? 0 front = some 0) :
    Gives (fun given rest => given.2 = close ∧ rest = tokens ∧ ∃ others,
        given.1 = others ++ [.call name.identifier [] (name.span.cover inner.span)])
      (readArguments ending (readBinary ending (operandAt ending levels))
        (front ++ comma :: name :: opening :: inner :: close :: tokens)) := by
  rw [readArguments]
  refine gives_peek_head ?_
  split
  next closing => exact absurd closing (head_ne_rightParenthesis separates balanced _)
  next =>
    refine (takesClosed_expressionAt (levels + 1) _).bind fun first behind argument => ?_
    obtain ⟨taken, further, rfl, following, balancedFurther⟩ :=
      exists_further_of_passes separates isName opens closesInner closes balanced argument
    refine gives_peek_head ?_
    split
    next =>
      refine (gives_readKind _ behind.1).bind fun separator next read => ?_
      obtain ⟨isComma, parts⟩ := read
      have others : Gives (fun given rest => given.2 = close ∧ rest = tokens ∧ ∃ others,
          given.1 = others ++ [.call name.identifier [] (name.span.cover inner.span)])
          (readArguments ending (readBinary ending (operandAt ending levels)) next.1) := by
        cases further with
        | nil =>
            obtain ⟨-, same⟩ := List.cons.inj (parts.symm.trans following)
            rw [same]
            exact (leaves_readArguments_alone isName opens closesInner closes).gives
              ⟨rfl, rfl, [], rfl⟩
        | cons head further =>
            obtain ⟨rfl, same⟩ := List.cons.inj (parts.symm.trans following)
            rw [openBehindTokens?, List.foldlM_cons, isComma] at balancedFurther
            rw [same]
            exact gives_readArguments_call further balancedFurther
      refine others.bind fun given rest read => ?_
      obtain ⟨last, left, others, values⟩ := read
      exact .ok ⟨last, left, first :: others, congrArg (first :: ·) values⟩
    next =>
      refine (gives_readKind _ behind.1).bind fun last rest read => ?_
      obtain ⟨isClosing, parts⟩ := read
      have closing : behind.1.head?.map Token.kind = some (.symbol .rightParenthesis) := by
        rw [parts]
        exact congrArg some isClosing
      rw [following] at closing
      exact absurd closing (head_ne_rightParenthesis separates balancedFurther _)
termination_by front.length

end Call

/-! ## Arguments that are not closed -/

theorem openBehindTokens?_add {depth depth' : Nat} {tokens : List Token}
    (opened : openBehindTokens? depth tokens = some depth') (further : Nat) :
    openBehindTokens? (depth + further) tokens = some (depth' + further) := by
  induction tokens generalizing depth with
  | nil =>
      cases opened
      rfl
  | cons token tokens inductionHypothesis =>
      obtain ⟨next, first, others⟩ := Option.bind_eq_some_iff.1 opened
      rw [openBehindTokens?, List.foldlM_cons, openBehind?_add first further]
      exact inductionHypothesis others

theorem exists_openBehindTokens?_of_append {depth depth' : Nat} {first second : List Token}
    (opened : openBehindTokens? depth (first ++ second) = some depth') :
    ∃ middle, openBehindTokens? depth first = some middle := by
  rw [openBehindTokens?, List.foldlM_append] at opened
  obtain ⟨middle, passed, -⟩ := Option.bind_eq_some_iff.1 opened
  exact ⟨middle, passed⟩

/-- Arguments are not read if the tokens end, or no expression goes on with the next of them, before
the parenthesis in front of the arguments is closed. -/
theorem gives_readArguments_unclosed {ending : Ending} {expression : Reader Expression}
    (takes : TakesClosed expression) {front stop : List Token} {depth : Nat}
    (opened : openBehindTokens? 0 front = some depth)
    (stops : ∀ token ∈ stop.head?, token.kind = .endTag ∨ token.kind = .comment) :
    Gives (fun _ _ => False) (readArguments ending expression (front ++ stop)) := by
  refine (passes_readArguments takes (front ++ stop)).mono fun given rest passes => ?_
  obtain ⟨taken, same, passed⟩ := passes
  have closed : openBehindTokens? 1 taken = some 0 := openBehindTokens?_of_behindAll? passed
  have absurdPart : ∀ further, front = taken ++ further → False := by
    rintro further rfl
    obtain ⟨middle, within⟩ := exists_openBehindTokens?_of_append opened
    cases (openBehindTokens?_add within 1).symm.trans closed
  rcases List.append_eq_append_iff.1 same with ⟨beyond, rfl, following⟩ | ⟨further, rfl, -⟩
  · cases beyond with
    | nil => exact absurdPart [] (by simp)
    | cons token beyond =>
        subst following
        rw [Enclosure.behindAll?, List.foldlM_append] at passed
        obtain ⟨middle, -, passed⟩ := Option.bind_eq_some_iff.1 passed
        obtain ⟨next, first, -⟩ := Option.bind_eq_some_iff.1 passed
        rcases stops token rfl with isEnd | isComment
        · simp [Enclosure.behind?, isEnd] at first
        · simp [Enclosure.behind?, isComment] at first
  · exact absurdPart further rfl

end ViewTemplate.Fragment
