import ViewTemplate.Proofs.PrintedReading

/-!
How high expressions are and how deep their code is nested. The reader counts levels of nesting, and
evaluation recurses over the height. Of two operators one inside the other, the inner one binds
tighter or stands in parentheses, unless it is the left operand: so the only expressions much higher
than their code is deep are long chains to the left (`height_le`).
-/

namespace ViewTemplate.Fragment

/-! ## Measures -/

mutual

/-- The number of expressions on the longest way down into an expression. -/
def Expression.height : Expression → Nat
  | .literal .. | .variable .. => 1
  | .list items _ => heightOfAll items + 1
  | .map entries _ => heightOfEntries entries + 1
  | .member target _ _ => target.height + 1
  | .index target selector _ => max target.height selector.height + 1
  | .call _ arguments _ | .method _ arguments _ => heightOfAll arguments + 1
  | .unary _ operand _ => operand.height + 1
  | .binary _ left right _ => max left.height right.height + 1

def heightOfAll : List Expression → Nat
  | [] => 0
  | expression :: expressions => max expression.height (heightOfAll expressions)

def heightOfEntries : List (Expression × Expression) → Nat
  | [] => 0
  | (key, value) :: entries => max (max key.height value.height) (heightOfEntries entries)

end

mutual

/-- How deep expressions stand inside each other where an expression is written as code. Brackets
and call arguments with nothing in them hold no expression. -/
def Expression.depth : Expression → Nat
  | .literal .. | .variable .. => 0
  | .list items _ => depthInAll items
  | .map entries _ => depthInEntries entries
  | .member target _ _ => enclosedNesting 8 target target.depth
  | .index target selector _ => max (enclosedNesting 8 target target.depth) (selector.depth + 1)
  | .call _ arguments _ | .method _ arguments _ => depthInAll arguments
  | .unary _ operand _ => enclosedNesting 7 operand operand.depth + 1
  | .binary operator left right _ =>
      max (enclosedNesting (precedence operator) left left.depth)
        (enclosedNesting (precedence operator + 1) right right.depth)

def depthInAll : List Expression → Nat
  | [] => 0
  | expression :: expressions => max (expression.depth + 1) (depthInAll expressions)

def depthInEntries : List (Expression × Expression) → Nat
  | [] => 0
  | (key, value) :: entries => max (max key.depth value.depth + 1) (depthInEntries entries)

end

/-- How many steps in a row lead from an expression to a left operand or to what a selector stands
behind. -/
def Expression.chain : Expression → Nat
  | .member target _ _ | .index target _ _ => target.chain + 1
  | .binary _ left _ _ => left.chain + 1
  | _ => 0

mutual

/-- The longest chain in an expression. -/
def Expression.longestChain : Expression → Nat
  | .literal .. | .variable .. => 0
  | .list items _ => longestChainOfAll items
  | .map entries _ => longestChainOfEntries entries
  | .member target _ _ => max (target.chain + 1) target.longestChain
  | .index target selector _ =>
      max (max (target.chain + 1) target.longestChain) selector.longestChain
  | .call _ arguments _ | .method _ arguments _ => longestChainOfAll arguments
  | .unary _ operand _ => operand.longestChain
  | .binary _ left right _ => max (max (left.chain + 1) left.longestChain) right.longestChain

def longestChainOfAll : List Expression → Nat
  | [] => 0
  | expression :: expressions => max expression.longestChain (longestChainOfAll expressions)

def longestChainOfEntries : List (Expression × Expression) → Nat
  | [] => 0
  | (key, value) :: entries =>
      max (max key.longestChain value.longestChain) (longestChainOfEntries entries)

end

theorem chain_le_longestChain (expression : Expression) :
    expression.chain ≤ expression.longestChain := by
  cases expression with
  | member target key span => exact Nat.le_max_left _ _
  | index target selector span =>
      exact Nat.le_trans (Nat.le_max_left _ _) (Nat.le_max_left _ _)
  | binary operator left right span =>
      exact Nat.le_trans (Nat.le_max_left _ _) (Nat.le_max_left _ _)
  | _ => exact Nat.zero_le _

/-! ## Heights are bounded by depths and chains -/

/-- How many steps that leave a chain there can be on a way down into an expression: eight for each
level, less by the strength with which the expression holds together. -/
def Expression.room (expression : Expression) : Nat :=
  8 * expression.depth + 8 - expression.strength

/-- A bound on the height of an expression whose chains are not longer than a limit: down its own
chain, and behind each step that leaves a chain down another one. -/
def Expression.bound (limit : Nat) (expression : Expression) : Nat :=
  expression.chain + 1 + expression.room * (limit + 1)

def Expression.Fits (limit : Nat) (expression : Expression) : Prop :=
  expression.height ≤ expression.bound limit

section Room

variable {least limit depth : Nat} {expression inner : Expression}

/-- In a place that asks for strength there is less room, with parentheses or without. -/
theorem room_le_of_enclosedNesting (tight : least ≤ 8)
    (within : enclosedNesting least expression expression.depth ≤ depth) :
    expression.room ≤ 8 * depth + 8 - least := by
  have positive := strength_pos expression
  unfold enclosedNesting at within
  unfold Expression.room
  split at within <;> omega

theorem room_lt (expression : Expression) : expression.room < 8 * (expression.depth + 1) := by
  have positive := strength_pos expression
  unfold Expression.room
  omega

/-- A step along a chain is paid for by the chain. -/
theorem Expression.Fits.along (fits : inner.Fits limit) (room : inner.room ≤ expression.room)
    (chain : expression.chain = inner.chain + 1) :
    inner.height + 1 ≤ expression.bound limit := by
  have more := Nat.mul_le_mul_right (limit + 1) room
  unfold Expression.Fits Expression.bound at *
  omega

/-- A step that leaves a chain is paid for by the room. -/
theorem Expression.Fits.leaving (fits : inner.Fits limit) (short : inner.longestChain ≤ limit)
    {room : Nat} (less : inner.room < room) : inner.height ≤ room * (limit + 1) := by
  have shorter := Nat.le_trans (chain_le_longestChain inner) short
  have more := Nat.mul_le_mul_right (limit + 1) (Nat.succ_le_of_lt less)
  rw [Nat.succ_mul] at more
  unfold Expression.Fits Expression.bound at *
  omega

theorem le_bound_of_le {height : Nat} (le : height ≤ expression.room * (limit + 1)) :
    height + 1 ≤ expression.bound limit := by
  unfold Expression.bound
  omega

theorem room_of_strength (strong : expression.strength = 8) :
    expression.room = 8 * expression.depth := by
  rw [Expression.room, strong, Nat.add_sub_cancel]

theorem le_of_depth_le {height other : Nat} (le : height ≤ 8 * depth * (limit + 1))
    (deeper : depth ≤ other) : height ≤ 8 * other * (limit + 1) :=
  Nat.le_trans le (Nat.mul_le_mul_right _ (Nat.mul_le_mul_left 8 deeper))

/-- An expression inside of brackets is one level deeper. -/
theorem Expression.Fits.inside (fits : inner.Fits limit) (short : inner.longestChain ≤ limit)
    (deeper : inner.depth + 1 ≤ depth) : inner.height ≤ 8 * depth * (limit + 1) :=
  le_of_depth_le (fits.leaving short (room_lt inner)) deeper

end Room

section Height

variable {limit : Nat}

mutual

theorem fits_of_longestChain_le : ∀ expression : Expression, expression.longestChain ≤ limit →
    expression.Fits limit
  | .literal .., _ => Nat.le_add_right _ _
  | .variable .., _ => Nat.le_add_right _ _
  | .list items span, short => by
      refine le_bound_of_le ?_
      rw [room_of_strength rfl]
      exact heightOfAll_le items short
  | .map entries span, short => by
      refine le_bound_of_le ?_
      rw [room_of_strength rfl]
      exact heightOfEntries_le entries short
  | .call function arguments span, short => by
      refine le_bound_of_le ?_
      rw [room_of_strength rfl]
      exact heightOfAll_le arguments short
  | .method name arguments span, short => by
      refine le_bound_of_le ?_
      rw [room_of_strength rfl]
      exact heightOfAll_le arguments short
  | .member target key span, short => by
      have fits := fits_of_longestChain_le target (Nat.max_le.1 short).2
      have room : target.room ≤ (Expression.member target key span).room :=
        room_le_of_enclosedNesting (Nat.le_refl 8) (Nat.le_refl _)
      exact fits.along room rfl
  | .index target selector span, short => by
      obtain ⟨targetShort, selectorShort⟩ := Nat.max_le.1 short
      have fits := fits_of_longestChain_le target (Nat.max_le.1 targetShort).2
      have room : target.room ≤ (Expression.index target selector span).room :=
        room_le_of_enclosedNesting (Nat.le_refl 8) (Nat.le_max_left _ _)
      have selected :
          selector.height ≤ (Expression.index target selector span).room * (limit + 1) := by
        rw [room_of_strength rfl]
        exact (fits_of_longestChain_le selector selectorShort).inside selectorShort
          (Nat.le_max_right _ _)
      exact Nat.max_lt.2 ⟨fits.along room rfl, le_bound_of_le selected⟩
  | .unary operator operand span, short => by
      have fits := fits_of_longestChain_le operand short
      have less : operand.room < (Expression.unary operator operand span).room := by
        have room : operand.room ≤ 8 * enclosedNesting 7 operand operand.depth + 8 - 7 :=
          room_le_of_enclosedNesting (by decide) (Nat.le_refl _)
        simp only [Expression.room, Expression.depth, Expression.strength] at room ⊢
        omega
      exact le_bound_of_le (fits.leaving short less)
  | .binary operator left right span, short => by
      obtain ⟨leftShort, rightShort⟩ := Nat.max_le.1 short
      have loose : precedence operator < 7 := by cases operator <;> decide
      have whole : (Expression.binary operator left right span).room =
          8 * (Expression.binary operator left right span).depth + 8 - precedence operator := rfl
      have fits := fits_of_longestChain_le left (Nat.max_le.1 leftShort).2
      have room : left.room ≤ (Expression.binary operator left right span).room :=
        room_le_of_enclosedNesting (Nat.le_of_lt (Nat.lt_succ_of_lt loose)) (Nat.le_max_left _ _)
      have tighter : right.room ≤
          8 * (Expression.binary operator left right span).depth + 8 - (precedence operator + 1) :=
        room_le_of_enclosedNesting (Nat.succ_le_succ (Nat.le_of_lt loose)) (Nat.le_max_right _ _)
      have less : right.room < (Expression.binary operator left right span).room := by omega
      have beside := (fits_of_longestChain_le right rightShort).leaving rightShort less
      exact Nat.max_lt.2 ⟨fits.along room rfl, le_bound_of_le beside⟩

theorem heightOfAll_le : ∀ expressions : List Expression, longestChainOfAll expressions ≤ limit →
    heightOfAll expressions ≤ 8 * depthInAll expressions * (limit + 1)
  | [], _ => Nat.zero_le _
  | expression :: expressions, short => by
      obtain ⟨firstShort, short⟩ := Nat.max_le.1 short
      have first := (fits_of_longestChain_le expression firstShort).inside firstShort
        (Nat.le_max_left _ (depthInAll expressions))
      have others := heightOfAll_le expressions short
      exact Nat.max_le.2 ⟨first, le_of_depth_le others (Nat.le_max_right _ _)⟩

theorem heightOfEntries_le : ∀ entries : List (Expression × Expression),
    longestChainOfEntries entries ≤ limit →
      heightOfEntries entries ≤ 8 * depthInEntries entries * (limit + 1)
  | [], _ => Nat.zero_le _
  | (key, value) :: entries, short => by
      obtain ⟨bothShort, short⟩ := Nat.max_le.1 short
      obtain ⟨keyShort, valueShort⟩ := Nat.max_le.1 bothShort
      have both : max key.depth value.depth + 1 ≤ depthInEntries ((key, value) :: entries) :=
        Nat.le_max_left _ _
      have first := (fits_of_longestChain_le key keyShort).inside keyShort
        (Nat.le_trans (Nat.succ_le_succ (Nat.le_max_left _ value.depth)) both)
      have second := (fits_of_longestChain_le value valueShort).inside valueShort
        (Nat.le_trans (Nat.succ_le_succ (Nat.le_max_right key.depth _)) both)
      have others := heightOfEntries_le entries short
      exact Nat.max_le.2
        ⟨Nat.max_le.2 ⟨first, second⟩, le_of_depth_le others (Nat.le_max_right _ _)⟩

end

end Height

/-- An expression is at most eight times as high as its code is deep, times the length of its
longest chain. -/
theorem height_le (expression : Expression) :
    expression.height ≤ 8 * (expression.depth + 1) * (expression.longestChain + 1) :=
  (fits_of_longestChain_le expression (Nat.le_refl _)).inside (Nat.le_refl _) (Nat.le_refl _)

/-! ## Expressions at other bytes -/

section Moving

variable (move : Span → Span)

theorem strength_mapSpans (expression : Expression) :
    (expression.mapSpans move).strength = expression.strength := by
  cases expression <;> rfl

theorem enclosedNesting_mapSpans (least : Nat) (expression : Expression) (depth : Nat) :
    enclosedNesting least (expression.mapSpans move) depth =
      enclosedNesting least expression depth := by
  rw [enclosedNesting, enclosedNesting, strength_mapSpans]

mutual

theorem height_mapSpans : ∀ expression : Expression,
    (expression.mapSpans move).height = expression.height
  | .literal .. | .variable .. => rfl
  | .list items _ => congrArg (· + 1) (heightOfAll_mapSpansAll items)
  | .map entries _ => congrArg (· + 1) (heightOfEntries_mapSpansEntries entries)
  | .call _ arguments _ | .method _ arguments _ =>
      congrArg (· + 1) (heightOfAll_mapSpansAll arguments)
  | .member target _ _ => congrArg (· + 1) (height_mapSpans target)
  | .unary _ operand _ => congrArg (· + 1) (height_mapSpans operand)
  | .index target selector _ => by
      rw [Expression.mapSpans, Expression.height, Expression.height, height_mapSpans target,
        height_mapSpans selector]
  | .binary _ left right _ => by
      rw [Expression.mapSpans, Expression.height, Expression.height, height_mapSpans left,
        height_mapSpans right]

theorem heightOfAll_mapSpansAll : ∀ expressions : List Expression,
    heightOfAll (mapSpansAll move expressions) = heightOfAll expressions
  | [] => rfl
  | expression :: expressions => by
      rw [mapSpansAll, heightOfAll, heightOfAll, height_mapSpans expression,
        heightOfAll_mapSpansAll expressions]

theorem heightOfEntries_mapSpansEntries : ∀ entries : List (Expression × Expression),
    heightOfEntries (mapSpansEntries move entries) = heightOfEntries entries
  | [] => rfl
  | (key, value) :: entries => by
      rw [mapSpansEntries, heightOfEntries, heightOfEntries, height_mapSpans key,
        height_mapSpans value, heightOfEntries_mapSpansEntries entries]

end

mutual

theorem depth_mapSpans : ∀ expression : Expression,
    (expression.mapSpans move).depth = expression.depth
  | .literal .. | .variable .. => rfl
  | .list items _ => depthInAll_mapSpansAll items
  | .map entries _ => depthInEntries_mapSpansEntries entries
  | .call _ arguments _ | .method _ arguments _ => depthInAll_mapSpansAll arguments
  | .member target _ _ => by
      rw [Expression.mapSpans, Expression.depth, Expression.depth, depth_mapSpans target,
        enclosedNesting_mapSpans]
  | .unary _ operand _ => by
      rw [Expression.mapSpans, Expression.depth, Expression.depth, depth_mapSpans operand,
        enclosedNesting_mapSpans]
  | .index target selector _ => by
      rw [Expression.mapSpans, Expression.depth, Expression.depth, depth_mapSpans target,
        depth_mapSpans selector, enclosedNesting_mapSpans]
  | .binary _ left right _ => by
      rw [Expression.mapSpans, Expression.depth, Expression.depth, depth_mapSpans left,
        depth_mapSpans right, enclosedNesting_mapSpans, enclosedNesting_mapSpans]

theorem depthInAll_mapSpansAll : ∀ expressions : List Expression,
    depthInAll (mapSpansAll move expressions) = depthInAll expressions
  | [] => rfl
  | expression :: expressions => by
      rw [mapSpansAll, depthInAll, depthInAll, depth_mapSpans expression,
        depthInAll_mapSpansAll expressions]

theorem depthInEntries_mapSpansEntries : ∀ entries : List (Expression × Expression),
    depthInEntries (mapSpansEntries move entries) = depthInEntries entries
  | [] => rfl
  | (key, value) :: entries => by
      rw [mapSpansEntries, depthInEntries, depthInEntries, depth_mapSpans key,
        depth_mapSpans value, depthInEntries_mapSpansEntries entries]

end

end Moving

end ViewTemplate.Fragment
