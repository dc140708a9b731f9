import ViewTemplate.Fragment.ReadExpression

/-!
Reading with fewer levels left. A reader that has fewer levels left than another reads the same, or
it gives up because expressions stand too deeply inside each other (`cutsShort_expressionAt`).
-/

namespace ViewTemplate.Fragment

variable {α β : Type}

/-! ## Readings that are cut short -/

/-- A reading is the same as another, or it is given up because expressions stand too deeply inside
each other. -/
inductive CutShort (deep : Except SyntaxError α) : (shallow : Except SyntaxError α) → Prop where
  | same : CutShort deep deep
  | tooDeep (span : Span) : CutShort deep (.error ⟨.nestedTooDeeply, span⟩)

/-- Whatever the tokens are. -/
def CutsShort (deep shallow : Reader α) : Prop :=
  ∀ tokens, CutShort (deep tokens) (shallow tokens)

theorem CutShort.bind {fits : List Token → Prop}
    {deep shallow : Except SyntaxError (α × { rest : List Token // fits rest })}
    {next next' : α × { rest : List Token // fits rest } → Except SyntaxError β}
    (first : CutShort deep shallow)
    (second : ∀ value rest, CutShort (next (value, rest)) (next' (value, rest))) :
    CutShort (deep >>= next) (shallow >>= next') := by
  cases first with
  | tooDeep span => exact .tooDeep span
  | same =>
      cases deep with
      | error error => exact .same
      | ok read => exact second read.1 read.2

/-- What is done behind the same reading. -/
theorem cutShort_bind {reading : Except SyntaxError α} {next next' : α → Except SyntaxError β}
    (second : ∀ value, CutShort (next value) (next' value)) :
    CutShort (reading >>= next) (reading >>= next') := by
  cases reading with
  | error error => exact .same
  | ok value => exact second value

variable {ending : Ending}

theorem cutsShort_readTooDeep {deep : Reader α}
    (atEnd : deep [] = .error (ending.missing .anyToken)) :
    CutsShort deep (readTooDeep ending) := by
  intro tokens
  cases tokens with
  | cons token tokens => exact .tooDeep token.span
  | nil =>
      rw [atEnd]
      cases ending with
      | complete length => exact .tooDeep _
      | failed error => exact .same

/-! ## Lists of expressions -/

variable {deep shallow : Reader Expression} (cuts : CutsShort deep shallow)

section Lists

include cuts

theorem cutShort_readArguments (tokens : List Token) :
    CutShort (readArguments ending deep tokens) (readArguments ending shallow tokens) := by
  rw [readArguments, readArguments]
  refine cutShort_bind fun kind => ?_
  split
  next => exact .same
  next =>
    refine (cuts _).bind fun first behind => ?_
    refine cutShort_bind fun kind => ?_
    split
    next =>
      refine CutShort.same.bind fun comma next => ?_
      exact (cutShort_readArguments next.1).bind fun given rest => .same
    next => exact .same
termination_by tokens.length
decreasing_by exact Nat.lt_trans next.2 behind.2

theorem cutShort_readItems (tokens : List Token) :
    CutShort (readItems ending deep tokens) (readItems ending shallow tokens) := by
  rw [readItems, readItems]
  refine cutShort_bind fun kind => ?_
  split
  next =>
    refine CutShort.same.bind fun comma behind => ?_
    refine cutShort_bind fun kind => ?_
    split
    next => exact .same
    next =>
      refine (cuts _).bind fun item next => ?_
      exact (cutShort_readItems next.1).bind fun items rest => .same
  next => exact .same
termination_by tokens.length
decreasing_by exact Nat.lt_trans next.2 behind.2

theorem cutShort_readEntries (tokens : List Token) :
    CutShort (readEntries ending deep tokens) (readEntries ending shallow tokens) := by
  rw [readEntries, readEntries]
  refine cutShort_bind fun kind => ?_
  split
  next =>
    refine CutShort.same.bind fun comma behind => ?_
    refine cutShort_bind fun kind => ?_
    split
    next => exact .same
    next =>
      refine (cuts _).bind fun key afterKey => ?_
      refine CutShort.same.bind fun arrow afterArrow => ?_
      refine (cuts _).bind fun value next => ?_
      exact (cutShort_readEntries next.1).bind fun entries rest => .same
  next => exact .same
termination_by tokens.length
decreasing_by
  exact Nat.lt_trans next.2 (Nat.lt_trans afterArrow.2 (Nat.lt_trans afterKey.2 behind.2))

theorem cutsShort_readBracketed (opening : Token) :
    CutsShort (readBracketed ending deep opening) (readBracketed ending shallow opening) := by
  intro tokens
  refine cutShort_bind fun kind => ?_
  split
  next => exact .same
  next =>
    refine (cuts _).bind fun first rest => ?_
    refine cutShort_bind fun kind => ?_
    split
    next =>
      refine cutShort_bind fun arrow => ?_
      refine (cuts _).bind fun value rest => ?_
      exact (cutShort_readEntries cuts _).bind fun entries rest => .same
    next => exact (cutShort_readItems cuts _).bind fun items rest => .same

/-! ## Operands -/

theorem cutsShort_readPrimary :
    CutsShort (readPrimary ending deep) (readPrimary ending shallow) := by
  intro tokens
  cases tokens with
  | nil => exact .same
  | cons token tokens =>
      rw [readPrimary, readPrimary]
      dsimp only
      split
      next => exact .same
      next => exact .same
      next => exact .same
      next =>
        refine cutShort_bind fun kind => ?_
        split
        next =>
          refine cutShort_bind fun opening => ?_
          exact (cutShort_readArguments cuts _).bind fun given rest => .same
        next => exact .same
      next => exact (cuts _).bind fun inner rest => .same
      next => exact (cutsShort_readBracketed cuts token _).bind fun bracketed rest => .same
      next => exact .same

theorem cutsShort_readMember (target : Expression) :
    CutsShort (readMember ending deep target) (readMember ending shallow target) := by
  intro tokens
  cases tokens with
  | nil => exact .same
  | cons token tokens =>
      rw [readMember, readMember]
      dsimp only
      split
      next =>
        refine cutShort_bind fun kind => ?_
        split
        next =>
          split
          next =>
            refine cutShort_bind fun opening => ?_
            exact (cutShort_readArguments cuts _).bind fun given rest => .same
          next => exact .same
        next => exact .same
      next => exact .same
      next => exact .same

theorem cutShort_readSelectors (target : Expression) (tokens : List Token) :
    CutShort (readSelectors ending deep target tokens)
      (readSelectors ending shallow target tokens) := by
  rw [readSelectors, readSelectors]
  refine cutShort_bind fun kind => ?_
  split
  next =>
    refine CutShort.same.bind fun dot behind => ?_
    refine (cutsShort_readMember cuts target _).bind fun selected next => ?_
    exact (cutShort_readSelectors selected next.1).bind fun whole rest => .same
  next =>
    refine CutShort.same.bind fun opening behind => ?_
    refine (cuts _).bind fun selector last => ?_
    refine CutShort.same.bind fun close next => ?_
    exact (cutShort_readSelectors _ next.1).bind fun whole rest => .same
  next => exact .same
termination_by tokens.length
decreasing_by
  · exact Nat.lt_trans next.2 behind.2
  · exact Nat.lt_trans next.2 (Nat.lt_trans last.2 behind.2)

theorem cutsShort_readOperand {deepOperand shallowOperand : Reader Expression}
    (cutsOperand : CutsShort deepOperand shallowOperand) :
    CutsShort (readOperand ending deepOperand deep)
      (readOperand ending shallowOperand shallow) := by
  intro tokens
  cases tokens with
  | nil => exact .same
  | cons token tokens =>
      rw [readOperand, readOperand]
      split
      next => exact (cutsOperand _).bind fun inner rest => .same
      next =>
        refine (cutsShort_readPrimary cuts _).bind fun primary rest => ?_
        exact (cutShort_readSelectors cuts _ _).bind fun whole rest => .same

/-! ## Binary operators -/

theorem cutShort_climb (least : Nat) (left : Expression) (tokens : List Token) :
    CutShort (climb ending deep least left tokens) (climb ending shallow least left tokens) := by
  rw [climb, climb]
  refine cutShort_bind fun kind => ?_
  split
  next operator _ =>
    split
    next => exact .same
    next =>
      refine CutShort.same.bind fun symbol behind => ?_
      refine (cuts _).bind fun first next => ?_
      refine (cutShort_climb (precedence operator) first next.1).bind fun right last => ?_
      exact (cutShort_climb least _ last.1).bind fun whole rest => .same
  next => exact .same
termination_by tokens.length
decreasing_by
  · exact Nat.lt_trans next.2 behind.2
  · exact Nat.lt_of_le_of_lt last.2 (Nat.lt_trans next.2 behind.2)

theorem cutsShort_readBinary : CutsShort (readBinary ending deep) (readBinary ending shallow) := by
  intro tokens
  refine (cuts _).bind fun first rest => ?_
  exact (cutShort_climb cuts 0 _ _).bind fun whole rest => .same

end Lists

/-! ## Levels -/

theorem operandAt_nil (levels : Nat) :
    operandAt ending levels [] = .error (ending.missing .anyToken) := by
  cases levels <;> rfl

theorem readBinary_nil {operand : Reader Expression}
    (atEnd : operand [] = .error (ending.missing .anyToken)) :
    readBinary ending operand [] = .error (ending.missing .anyToken) := by
  rw [readBinary, atEnd]
  rfl

theorem cutsShort_operandAt {fewer levels : Nat} (le : fewer ≤ levels) :
    CutsShort (operandAt ending levels) (operandAt ending fewer) := by
  induction fewer generalizing levels with
  | zero =>
      cases levels with
      | zero => exact fun tokens => .same
      | succ levels =>
          have atEnd : operandAt ending levels [] = _ := operandAt_nil levels
          exact cutsShort_readOperand (cutsShort_readTooDeep (readBinary_nil atEnd))
            (cutsShort_readTooDeep atEnd)
  | succ fewer inductionHypothesis =>
      obtain ⟨levels, rfl⟩ : ∃ others, levels = others + 1 := ⟨levels - 1, by omega⟩
      have cuts := inductionHypothesis (Nat.le_of_succ_le_succ le)
      exact cutsShort_readOperand (cutsShort_readBinary cuts) cuts

/-- With fewer levels left an expression is read the same, or it is nested too deeply. -/
theorem cutsShort_expressionAt {fewer levels : Nat} (le : fewer ≤ levels) :
    CutsShort (expressionAt ending levels) (expressionAt ending fewer) := by
  cases fewer with
  | zero =>
      cases levels with
      | zero => exact fun tokens => .same
      | succ levels => exact cutsShort_readTooDeep (readBinary_nil (operandAt_nil levels))
  | succ fewer =>
      obtain ⟨levels, rfl⟩ : ∃ others, levels = others + 1 := ⟨levels - 1, by omega⟩
      exact cutsShort_readBinary (cutsShort_operandAt (Nat.le_of_succ_le_succ le))

end ViewTemplate.Fragment
