import ViewTemplate.Proofs.Heights
import ViewTemplate.Proofs.ReadExpressions

/-!
How deep the expressions are that are read. A reader that has a number of levels left gives no
expression that is as deep (`gives_expressionAt`), and so there is none deeper than the limit in a
fragment that is accepted (`depth_lt_of_parse`).
-/

namespace ViewTemplate.Fragment

/-! ## Lists of expressions -/

variable {α : Type} {ending : Ending} {levels : Nat}

theorem givesReader_readTooDeep {Holds : α → Prop} :
    GivesReader Holds (readTooDeep ending) := by
  intro tokens
  cases tokens with
  | nil => cases ending <;> exact .error
  | cons => exact .error

section Lists

variable {expression : Reader Expression}
  (gives : GivesReader (fun value => value.depth < levels) expression)

include gives

theorem gives_readArguments (tokens : List Token) :
    Gives (fun given _ => depthInAll given.1 ≤ levels)
      (readArguments ending expression tokens) := by
  rw [readArguments]
  refine gives_bind fun kind => ?_
  split
  next => exact gives_bind fun close => .ok (Nat.zero_le _)
  next =>
    refine (gives tokens).bind fun first behind shallow => ?_
    refine gives_bind fun kind => ?_
    split
    next =>
      refine gives_bind fun comma => ?_
      refine (gives_readArguments comma.2.1).bind fun given rest others => ?_
      exact .ok (Nat.max_le.2 ⟨shallow, others⟩)
    next => exact gives_bind fun close => .ok (Nat.max_le.2 ⟨shallow, Nat.zero_le _⟩)
termination_by tokens.length
decreasing_by exact Nat.lt_trans comma.2.2 behind.2

theorem gives_readItems (tokens : List Token) :
    Gives (fun items _ => depthInAll items ≤ levels) (readItems ending expression tokens) := by
  rw [readItems]
  refine gives_bind fun kind => ?_
  split
  next =>
    refine gives_bind fun comma => ?_
    refine gives_bind fun kind => ?_
    split
    next => exact .ok (Nat.zero_le _)
    next =>
      refine (gives _).bind fun item inner shallow => ?_
      refine (gives_readItems inner.1).bind fun items rest others => ?_
      exact .ok (Nat.max_le.2 ⟨shallow, others⟩)
  next => exact .ok (Nat.zero_le _)
termination_by tokens.length
decreasing_by exact Nat.lt_trans inner.2 comma.2.2

theorem gives_readEntries (tokens : List Token) :
    Gives (fun entries _ => depthInEntries entries ≤ levels)
      (readEntries ending expression tokens) := by
  rw [readEntries]
  refine gives_bind fun kind => ?_
  split
  next =>
    refine gives_bind fun comma => ?_
    refine gives_bind fun kind => ?_
    split
    next => exact .ok (Nat.zero_le _)
    next =>
      refine (gives _).bind fun key afterKey shallowKey => ?_
      refine gives_bind fun arrow => ?_
      refine (gives _).bind fun value inner shallowValue => ?_
      refine (gives_readEntries inner.1).bind fun entries rest others => ?_
      exact .ok (Nat.max_le.2 ⟨Nat.max_lt.2 ⟨shallowKey, shallowValue⟩, others⟩)
  next => exact .ok (Nat.zero_le _)
termination_by tokens.length
decreasing_by
  exact Nat.lt_trans inner.2 (Nat.lt_trans arrow.2.2 (Nat.lt_trans afterKey.2 comma.2.2))

end Lists

/-! ## Operands -/

/-- An expression is at most so deep in a place where it must hold together with a certain
strength. -/
def Expression.Within (levels least : Nat) (expression : Expression) : Prop :=
  enclosedNesting least expression expression.depth ≤ levels

section Within

variable {least : Nat} {expression : Expression}

theorem within_of_strength (strong : least ≤ expression.strength)
    (shallow : expression.depth ≤ levels) : expression.Within levels least := by
  rw [Expression.Within, enclosedNesting, if_neg (Nat.not_lt.2 strong)]
  exact shallow

theorem within_of_depth_lt (shallow : expression.depth < levels) :
    expression.Within levels least := by
  unfold Expression.Within enclosedNesting
  split
  · exact shallow
  · exact Nat.le_of_lt shallow

theorem Expression.Within.mono {other : Nat} (within : expression.Within levels least)
    (looser : other ≤ least) : expression.Within levels other := by
  unfold Expression.Within enclosedNesting at *
  split at within <;> split <;> omega

end Within

section Operands

variable {expression : Reader Expression}
  (gives : GivesReader (fun value => value.depth < levels) expression)

include gives

theorem gives_readBracketed (opening : Token) :
    GivesReader (Expression.Within levels 8) (readBracketed ending expression opening) := by
  intro tokens
  refine gives_bind fun kind => ?_
  split
  next => exact gives_bind fun close => .ok (Nat.zero_le _)
  next =>
    refine (gives _).bind fun first behind shallow => ?_
    refine gives_bind fun kind => ?_
    split
    next =>
      refine gives_bind fun arrow => ?_
      refine (gives _).bind fun value next shallowValue => ?_
      refine (gives_readEntries gives _).bind fun entries last others => ?_
      refine gives_bind fun close => .ok (within_of_strength (Nat.le_refl 8) ?_)
      exact Nat.max_le.2 ⟨Nat.max_lt.2 ⟨shallow, shallowValue⟩, others⟩
    next =>
      refine (gives_readItems gives _).bind fun items last others => ?_
      refine gives_bind fun close => .ok (within_of_strength (Nat.le_refl 8) ?_)
      exact Nat.max_le.2 ⟨shallow, others⟩

theorem gives_readPrimary :
    GivesReader (Expression.Within levels 8) (readPrimary ending expression) := by
  intro tokens
  cases tokens with
  | nil => exact .error
  | cons token tokens =>
      rw [readPrimary]
      dsimp only
      split
      next =>
        split
        next => exact .ok (Nat.zero_le _)
        next => exact .error
      next => exact gives_bind fun literal => .ok (Nat.zero_le _)
      next => exact gives_bind fun literal => .ok (Nat.zero_le _)
      next =>
        refine gives_bind fun kind => ?_
        split
        next =>
          refine gives_bind fun opening => ?_
          exact (gives_readArguments gives _).bind fun given rest inside =>
            .ok (within_of_strength (Nat.le_refl 8) inside)
        next => exact .ok (Nat.zero_le _)
      next =>
        refine (gives _).bind fun inner last shallow => ?_
        exact gives_bind fun close => .ok (within_of_depth_lt shallow)
      next =>
        exact (gives_readBracketed gives token _).bind fun bracketed rest within => .ok within
      next => exact .error

theorem gives_readMember {target : Expression} (within : target.Within levels 8) :
    GivesReader (Expression.Within levels 8) (readMember ending expression target) := by
  intro tokens
  cases tokens with
  | nil => exact .error
  | cons token tokens =>
      rw [readMember]
      dsimp only
      split
      next =>
        refine gives_bind fun kind => ?_
        split
        next =>
          split
          next =>
            refine gives_bind fun opening => ?_
            exact (gives_readArguments gives _).bind fun given rest inside =>
              .ok (within_of_strength (Nat.le_refl 8) inside)
          next => exact .error
        next => exact .ok (within_of_strength (Nat.le_refl 8) within)
      next => exact gives_bind fun index => .ok (within_of_strength (Nat.le_refl 8) within)
      next => exact .error

/-- However many selectors there are, none of them makes an expression deeper than what stands in
its brackets. -/
theorem gives_readSelectors {target : Expression} (within : target.Within levels 8)
    (tokens : List Token) :
    Gives (fun whole _ => whole.Within levels 8)
      (readSelectors ending expression target tokens) := by
  rw [readSelectors]
  refine gives_bind fun kind => ?_
  split
  next =>
    refine gives_bind fun dot => ?_
    refine (gives_readMember gives within _).bind fun selected next further => ?_
    exact (gives_readSelectors further next.1).bind fun whole rest within => .ok within
  next =>
    refine gives_bind fun opening => ?_
    refine (gives _).bind fun selector last shallow => ?_
    refine gives_bind fun close => ?_
    have further : (Expression.index target selector (target.span.cover close.1.span)).Within
        levels 8 :=
      within_of_strength (Nat.le_refl 8) (Nat.max_le.2 ⟨within, shallow⟩)
    exact (gives_readSelectors further close.2.1).bind fun whole rest within => .ok within
  next => exact .ok within
termination_by tokens.length
decreasing_by
  · exact Nat.lt_trans next.2 dot.2.2
  · exact Nat.lt_trans close.2.2 (Nat.lt_trans last.2 opening.2.2)

theorem gives_readOperand {operand : Reader Expression}
    (givesOperand :
      GivesReader (fun value => enclosedNesting 7 value value.depth < levels) operand) :
    GivesReader (Expression.Within levels 7) (readOperand ending operand expression) := by
  intro tokens
  cases tokens with
  | nil => exact .error
  | cons token tokens =>
      rw [readOperand]
      split
      next =>
        exact (givesOperand _).bind fun inner rest shallow =>
          .ok (within_of_strength (Nat.le_refl 7) shallow)
      next =>
        refine (gives_readPrimary gives _).bind fun primary next within => ?_
        exact (gives_readSelectors gives within _).bind fun whole rest within =>
          .ok (within.mono (by decide))

end Operands

/-! ## Binary operators -/

/-- The operator that the tokens begin with. -/
def nextOperator? (tokens : List Token) : Option BinaryOperator :=
  tokens.head?.bind fun token => binaryOperator? token.kind

theorem gives_peek {Holds : α → List Token → Prop} {fits : List Token → Prop}
    {tokens : List Token}
    {next : Option TokenKind → Except SyntaxError (α × { rest : List Token // fits rest })}
    (gives : ∀ kind : Option TokenKind, kind.bind binaryOperator? = nextOperator? tokens →
      Gives Holds (next kind)) :
    Gives Holds (peek ending tokens >>= next) := by
  cases tokens with
  | nil =>
      cases ending with
      | complete length => exact gives none rfl
      | failed error => exact .error
  | cons token rest => exact gives (some token.kind) rfl

theorem precedence_lt (operator : BinaryOperator) : precedence operator < 7 := by
  cases operator <;> decide

section Binary

variable {operand : Reader Expression} (gives : GivesReader (Expression.Within levels 7) operand)

include gives

/-- If the left operand may stand in front of the next operator as it is, and in front of all that
bind tighter than `least`, then so may what is read, and no operator behind it binds tighter. -/
theorem gives_climb (least : Nat) {left : Expression} (tokens : List Token)
    (within : left.Within levels (least + 1))
    (beside : ∀ operator ∈ nextOperator? tokens, left.Within levels (precedence operator)) :
    Gives (fun whole rest => whole.Within levels (least + 1) ∧
        ∀ operator ∈ nextOperator? rest, precedence operator ≤ least)
      (climb ending operand least left tokens) := by
  rw [climb]
  refine gives_peek fun kind same => ?_
  split
  next operator found =>
    have isNext : nextOperator? tokens = some operator := same.symm.trans found
    split
    next loose =>
      refine .ok ⟨within, fun other isOther => ?_⟩
      obtain rfl := Option.some.inj (isNext.symm.trans isOther)
      exact loose
    next tight =>
      refine gives_bind fun symbol => ?_
      refine (gives _).bind fun first next firstWithin => ?_
      have firstBeside : ∀ operator ∈ nextOperator? next.1,
          first.Within levels (precedence operator) :=
        fun other _ => firstWithin.mono (Nat.le_of_lt (precedence_lt other))
      refine (gives_climb (precedence operator) next.1
        (firstWithin.mono (precedence_lt operator)) firstBeside).bind
          fun right last ⟨rightWithin, rightLast⟩ => ?_
      have shallow := Nat.max_le.2 ⟨beside operator isNext, rightWithin⟩
      have joined : ∀ strength ≤ precedence operator,
          (Expression.binary operator left right (left.span.cover right.span)).Within
            levels strength :=
        fun strength looser => within_of_strength looser shallow
      -- The operator behind the right operand binds no tighter than this one, so what they are
      -- joined to may be its left operand without parentheses: the loop adds no level.
      have further := gives_climb least last.1 (joined _ (Nat.not_le.1 tight))
        fun other isNext => joined _ (rightLast other isNext)
      exact further.bind fun whole rest holds => .ok holds
  next noOperator =>
    refine .ok ⟨within, fun other isOther => ?_⟩
    cases noOperator.symm.trans (same.trans isOther)
termination_by tokens.length
decreasing_by
  · exact Nat.lt_trans next.2 symbol.2.2
  · exact Nat.lt_of_le_of_lt last.2 (Nat.lt_trans next.2 symbol.2.2)

theorem gives_readBinary :
    GivesReader (fun value => value.depth < levels + 1) (readBinary ending operand) := by
  intro tokens
  refine (gives _).bind fun first behind within => ?_
  refine (gives_climb gives 0 behind.1 (within.mono (by decide)) fun operator _ =>
    within.mono (Nat.le_of_lt (precedence_lt operator))).bind fun whole rest ⟨within, _⟩ => .ok ?_
  rw [Expression.Within, enclosedNesting, if_neg (Nat.not_lt.2 (strength_pos whole))] at within
  exact Nat.lt_succ_of_le within

end Binary

/-! ## Levels -/

theorem gives_operandAt (levels : Nat) :
    GivesReader (Expression.Within levels 7) (operandAt ending levels) := by
  induction levels with
  | zero =>
      exact gives_readOperand givesReader_readTooDeep givesReader_readTooDeep
  | succ levels inductionHypothesis =>
      exact gives_readOperand (gives_readBinary inductionHypothesis) fun tokens =>
        (inductionHypothesis tokens).mono fun value rest within => Nat.lt_succ_of_le within

/-- An expression that is read with a number of levels left is less deep. -/
theorem gives_expressionAt (levels : Nat) :
    GivesReader (fun value => value.depth < levels) (expressionAt ending levels) := by
  cases levels with
  | zero => exact givesReader_readTooDeep
  | succ levels => exact gives_readBinary (gives_operandAt levels)

/-- However long its chains of operators and selectors are, no expression of an accepted fragment is
deeper than the limit allows. -/
theorem depth_lt_of_parse {source : List Char} {statements : List Statement}
    (parsed : parse source = .ok statements) :
    ∀ value ∈ expressionsOf statements, value.depth < maxDepth :=
  holds_of_parse (fun _ => gives_expressionAt maxDepth) parsed

end ViewTemplate.Fragment
