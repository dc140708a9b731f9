import ViewTemplate.Decimal.Notation
import ViewTemplate.Value.Entries

/-!
The values that views are rendered with: what kinds there are, which of them count as true, when
two are equal and which have a text.
-/

namespace ViewTemplate

/-- A value of a view variable or of an expression. The entries of a map ascend by their keys. -/
inductive Value where
  | none
  | bool (truth : Bool)
  | integer (number : Int64)
  | float (number : Float)
  | string (text : String)
  | list (items : List Value)
  | map (entries : List (String × Value))
  deriving Inhabited

namespace Value

/-! ## Kinds -/

/-- The kind of a value, as error messages name it. -/
inductive Kind where
  | none
  | bool
  | integer
  | float
  | string
  | list
  | map
  deriving DecidableEq, Repr

def Kind.name : Kind → String
  | .none => "none"
  | .bool => "bool"
  | .integer => "integer"
  | .float => "float"
  | .string => "string"
  | .list => "list"
  | .map => "map"

def kind : Value → Kind
  | .none => .none
  | .bool _ => .bool
  | .integer _ => .integer
  | .float _ => .float
  | .string _ => .string
  | .list _ => .list
  | .map _ => .map

/-! ## Truth -/

/-- Whether a value counts as true in a condition. None, false, zero, the empty string and empty
lists and maps do not; NaN does. -/
def isTruthy : Value → Bool
  | .none => false
  | .bool truth => truth
  | .integer number => number != 0
  | .float number => number != 0
  | .string text => !text.isEmpty
  | .list items => !items.isEmpty
  | .map entries => !entries.isEmpty

def string? : Value → Option String
  | .string text => some text
  | _ => Option.none

/-! ## Equality -/

mutual

/-- Structural equality, in which floats compare as numbers: the two zeros are equal and NaN
differs from itself. -/
def equal : Value → Value → Bool
  | .none, .none => true
  | .bool left, .bool right => left == right
  | .integer left, .integer right => left == right
  | .float left, .float right => left == right
  | .string left, .string right => left == right
  | .list left, .list right => equalItems left right
  | .map left, .map right => equalEntries left right
  | _, _ => false

def equalItems : List Value → List Value → Bool
  | [], [] => true
  | left :: lefts, right :: rights => equal left right && equalItems lefts rights
  | _, _ => false

def equalEntries : List (String × Value) → List (String × Value) → Bool
  | [], [] => true
  | (leftKey, left) :: lefts, (rightKey, right) :: rights =>
      leftKey == rightKey && equal left right && equalEntries lefts rights
  | _, _ => false

end

instance : BEq Value := ⟨equal⟩

/-! ## Text -/

def integerText (number : Int64) : String :=
  toString number.toInt

/-- The text that a value is rendered as. Lists and maps have none. -/
def text? : Value → Option String
  | .none => some ""
  | .bool truth => some (if truth then "true" else "false")
  | .integer number => some (integerText number)
  | .float number => some (Decimal.write .rendered number)
  | .string text => some text
  | .list _ => Option.none
  | .map _ => Option.none

/-! ## Integers -/

/-- Whether an integer fits in 64 signed bits. -/
def fits (number : Int) : Bool :=
  Int64.minValue.toInt ≤ number && number ≤ Int64.maxValue.toInt

/-- The integer value of a count; counts beyond the range end at the greatest integer. -/
def ofCount (count : Nat) : Value :=
  .integer (Int64.ofInt (min (count : Int) Int64.maxValue.toInt))

/-- The map of a list of pairs, in which the last of several pairs with one key counts. -/
def ofPairs (pairs : List (String × Value)) : Value :=
  .map (Entries.ofPairs pairs)

end Value

end ViewTemplate
