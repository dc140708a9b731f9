import ViewTemplate.Fault

/-!
Operators on values: arithmetic, comparison, logic, and access to the elements of lists and maps.
Integer arithmetic is exact or refused, and mixes with floats by going over to them.
-/

namespace ViewTemplate

/-- An operator in front of its operand. -/
inductive UnaryOperator where
  | not
  | negate
  deriving DecidableEq, Repr

/-- An operator between its operands. -/
inductive BinaryOperator where
  | or
  | and
  | equal
  | notEqual
  | less
  | lessEqual
  | greater
  | greaterEqual
  | add
  | subtract
  | multiply
  | divide
  | remainder
  deriving DecidableEq, Repr

namespace Value

/-! ## Text -/

/-- The text of a value, or the fault that it has none. -/
def render (value : Value) : Except Fault String :=
  match value.text? with
  | some text => .ok text
  | Option.none => .error (.notRenderable value.kind)

/-! ## Arithmetic -/

/-- The integer value of an exact result that fits. -/
def checked (exact : Int) : Except Fault Value :=
  if fits exact then .ok (.integer (Int64.ofInt exact)) else .error .integerOverflow

/-- The double nearest to a number. -/
def float? : Value → Option Float
  | .integer number => some number.toFloat
  | .float number => some number
  | _ => Option.none

/-- Whether dividing overflows: the least integer by minus one. -/
def divisionOverflows (left right : Int64) : Bool :=
  left == Int64.minValue && right == -1

/-- A quotient of integers is an integer when the division leaves nothing, else a float. -/
def divideIntegers (left right : Int64) : Except Fault Value :=
  if right = 0 then .error .divisionByZero
  else if left.toInt.tmod right.toInt = 0 ∧ divisionOverflows left right = false then
    .ok (.integer (Int64.ofInt (left.toInt.tdiv right.toInt)))
  else .ok (.float (left.toFloat / right.toFloat))

/-- The remainder of the division cut towards zero. -/
def remainderIntegers (left right : Int64) : Except Fault Value :=
  if right = 0 then .error .divisionByZero
  else if divisionOverflows left right then .error .integerOverflow
  else .ok (.integer (Int64.ofInt (left.toInt.tmod right.toInt)))

/-- An arithmetic operation on integers and on floats. -/
structure Arithmetic where
  integers : Int64 → Int64 → Except Fault Value
  floats : Float → Float → Except Fault Value

/-- Applies an operation: to two integers as such, to other numbers as floats. -/
def Arithmetic.apply (operation : Arithmetic) (left right : Value) : Except Fault Value :=
  match left, right with
  | .integer left, .integer right => operation.integers left right
  | left, right =>
      match left.float?, right.float? with
      | some left, some right => operation.floats left right
      | _, _ => .error (.unsupportedOperands left.kind right.kind)

def addition : Arithmetic where
  integers left right := checked (left.toInt + right.toInt)
  floats left right := .ok (.float (left + right))

def subtraction : Arithmetic where
  integers left right := checked (left.toInt - right.toInt)
  floats left right := .ok (.float (left - right))

def multiplication : Arithmetic where
  integers left right := checked (left.toInt * right.toInt)
  floats left right := .ok (.float (left * right))

def division : Arithmetic where
  integers := divideIntegers
  floats left right :=
    if right == 0 then .error .divisionByZero else .ok (.float (left / right))

def remainder : Arithmetic where
  integers := remainderIntegers
  floats left right :=
    if right == 0 then .error .divisionByZero
    else .ok (.float (Decimal.remainder left right))

def isString (value : Value) : Bool :=
  value.string?.isSome

/-- Adds numbers, or joins the texts of two values one of which is a string. -/
def addOrJoin (left right : Value) : Except Fault Value :=
  if left.isString || right.isString then do
    let leftText ← left.render
    let rightText ← right.render
    .ok (.string (leftText ++ rightText))
  else addition.apply left right

/-! ## Comparison -/

/-- Equality in which an integer and a float compare by their numeric value. Inside lists and
maps it is structural. -/
def looselyEqual : Value → Value → Bool
  | .integer left, .float right => left.toFloat == right
  | .float left, .integer right => left == right.toFloat
  | left, right => left.equal right

/-- The order of two floats; NaN has none. -/
def compareFloats (left right : Float) : Option Ordering :=
  if left < right then some .lt
  else if left == right then some .eq
  else if right < left then some .gt
  else Option.none

/-- The order of two integers, two strings or two numbers. Strings are ordered by code points. -/
def compare? : Value → Value → Option Ordering
  | .integer left, .integer right => some (compare left.toInt right.toInt)
  | .string left, .string right => some (compare left right)
  | left, right =>
      match left.float?, right.float? with
      | some left, some right => compareFloats left right
      | _, _ => Option.none

def comparison (accepts : Ordering → Bool) (left right : Value) : Except Fault Value :=
  match left.compare? right with
  | some order => .ok (.bool (accepts order))
  | Option.none => .error (.incomparable left.kind right.kind)

/-! ## Application -/

def applyUnary (operator : UnaryOperator) (operand : Value) : Except Fault Value :=
  match operator, operand with
  | .not, operand => .ok (.bool !operand.isTruthy)
  | .negate, .integer number => checked (-number.toInt)
  | .negate, .float number => .ok (.float (-number))
  | .negate, operand => .error (.notNegatable operand.kind)

/-- Applies an operator to two operands that are both evaluated. -/
def applyBinary (operator : BinaryOperator) (left right : Value) : Except Fault Value :=
  match operator with
  | .or => .ok (.bool (left.isTruthy || right.isTruthy))
  | .and => .ok (.bool (left.isTruthy && right.isTruthy))
  | .equal => .ok (.bool (left.looselyEqual right))
  | .notEqual => .ok (.bool !(left.looselyEqual right))
  | .less => comparison (· == .lt) left right
  | .lessEqual => comparison (· != .gt) left right
  | .greater => comparison (· == .gt) left right
  | .greaterEqual => comparison (· != .lt) left right
  | .add => addOrJoin left right
  | .subtract => subtraction.apply left right
  | .multiply => multiplication.apply left right
  | .divide => division.apply left right
  | .remainder => remainder.apply left right

/-! ## Elements -/

def entry (key : String) (entries : Entries Value) : Except Fault Value :=
  match entries.lookup key with
  | some value => .ok value
  | Option.none => .error (.missingKey key)

def field (name : String) : Value → Except Fault Value
  | .map entries => entry name entries
  | target => .error (.noFields target.kind)

/-- The element behind a point and a number: of a list by position, of a map by the digits. -/
def element (position : Nat) : Value → Except Fault Value
  | .map entries => entry (toString position) entries
  | .list items =>
      match items[position]? with
      | some item => .ok item
      | Option.none => .error (.outOfBounds position)
  | target => .error (.noElements target.kind)

/-- The element that a value in brackets selects: of a list by an integer, of a map by a string or
the digits of an integer. -/
def index (target selector : Value) : Except Fault Value :=
  match target, selector with
  | .list items, .integer number =>
      if 0 ≤ number.toInt then
        match items[number.toInt.toNat]? with
        | some item => .ok item
        | Option.none => .error (.outOfBounds number.toInt)
      else .error (.outOfBounds number.toInt)
  | .map entries, .string key => entry key entries
  | .map entries, .integer number => entry (integerText number) entries
  | target, selector => .error (.unusableIndex target.kind selector.kind)

end Value

end ViewTemplate
