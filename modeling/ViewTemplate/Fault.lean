import ViewTemplate.Value.Basic

/-!
What can go wrong while the code of a view is evaluated, with the wording of each fault.
-/

namespace ViewTemplate

/-- What an argument of an environment method is used for. -/
inductive ArgumentRole where
  | viewName
  | iteratorName
  | emptyView
  | sectionName
  deriving DecidableEq

def ArgumentRole.name : ArgumentRole → String
  | .viewName => "view name"
  | .iteratorName => "iterator name"
  | .emptyView => "empty view"
  | .sectionName => "section name"

/-- A fault of evaluation. -/
inductive Fault where
  /-- A variable that is not bound. -/
  | unbound
  | missingKey (key : String)
  | outOfBounds (index : Int)
  | noFields (found : Value.Kind)
  | noElements (found : Value.Kind)
  /-- A value in brackets that the target cannot be indexed with. -/
  | unusableIndex (target index : Value.Kind)
  /-- The exact result does not fit in 64 signed bits. -/
  | integerOverflow
  /-- Division by zero, or a remainder of one. -/
  | divisionByZero
  | notNegatable (found : Value.Kind)
  | incomparable (left right : Value.Kind)
  | unsupportedOperands (left right : Value.Kind)
  | notRenderable (found : Value.Kind)
  | notIterable (found : Value.Kind)
  /-- A key of a map expression that is neither a string nor an integer. -/
  | unusableKey (found : Value.Kind)
  /-- Arguments were given to the listing of the variables in scope. -/
  | scopeTakesNoArguments
  | unknownFunction
  | unknownMethod
  | methodArity (least most found : Nat)
  /-- A method argument that is not the string it should be. -/
  | methodArgument (role : ArgumentRole) (found : Value.Kind)
  /-- Data for a view that is neither a map nor none. -/
  | unusableViewData (found : Value.Kind)
  /-- A view per element of something without elements. -/
  | unusableCollection (found : Value.Kind)
  | functionArity (expected found : Nat)
  /-- An argument of a host function, counted from one, of the wrong kind. -/
  | functionArgument (expected : Value.Kind) (position : Nat) (found : Value.Kind)
  | noLength (found : Value.Kind)
  /-- A host function gave up with a message of its own. -/
  | host (text : String)
  deriving DecidableEq

namespace Fault

/-- The number of arguments a method takes, as error messages put it. -/
def arityText (least most : Nat) : String :=
  if least = most then toString least else s!"{least} to {most}"

def message : Fault → String
  | .unbound => "not found in this scope"
  | .missingKey key => "key `" ++ key ++ "` not found in map"
  | .outOfBounds index => s!"index {index} out of bounds"
  | .noFields found => "cannot access field of " ++ found.name
  | .noElements found => "cannot index into " ++ found.name
  | .unusableIndex target index => "cannot index into " ++ target.name ++ " with " ++ index.name
  | .integerOverflow => "integer overflow"
  | .divisionByZero => "division by zero"
  | .notNegatable found => "cannot negate " ++ found.name
  | .incomparable left right => "cannot compare " ++ left.name ++ " with " ++ right.name
  | .unsupportedOperands left right =>
      "unsupported operand types " ++ left.name ++ " and " ++ right.name
  | .notRenderable found =>
      "expected renderable value, but expression evaluated to " ++ found.name
  | .notIterable found => "expected iterable, but expression evaluated to " ++ found.name
  | .unusableKey found => "expected string key, found " ++ found.name
  | .scopeTakesNoArguments => "function expected 0 arguments"
  | .unknownFunction => "unknown function"
  | .unknownMethod => "unknown environment method"
  | .methodArity least most found =>
      "expected " ++ arityText least most ++ s!" arguments, found {found}"
  | .methodArgument role found => "expected string " ++ role.name ++ ", found " ++ found.name
  | .unusableViewData found => "expected map of view data, found " ++ found.name
  | .unusableCollection found => "expected iterable, found " ++ found.name
  | .functionArity expected found =>
      s!"function expected {expected} arguments, found {found}"
  | .functionArgument expected position found =>
      "function expected " ++ expected.name ++ s!" for argument {position}, found " ++ found.name
  | .noLength found => "unsupported value `" ++ found.name ++ "`"
  | .host text => text

end Fault

/-! ## Computations that may fail -/

section Computations

variable {ε α β : Type}

/-- What two computations give one after the other comes from the second, behind what the first
one gave. -/
theorem bind_eq_ok {computation : Except ε α} {next : α → Except ε β} {result : β} :
    (computation >>= next) = .ok result ↔
      ∃ middle, computation = .ok middle ∧ next middle = .ok result := by
  cases computation with
  | error error =>
      constructor
      · intro ended
        cases ended
      · rintro ⟨middle, computed, -⟩
        cases computed
  | ok middle =>
      constructor
      · exact fun ended => ⟨middle, rfl, ended⟩
      · rintro ⟨other, computed, ended⟩
        cases computed
        exact ended

end Computations

end ViewTemplate
