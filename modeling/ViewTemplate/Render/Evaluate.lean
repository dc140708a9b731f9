import ViewTemplate.Render.State

/-!
Evaluation of expressions. Variables and chains of members behind them are looked up as paths;
everything else is evaluated from left to right. Calls on the environment render further views and
work on the sections.
-/

namespace ViewTemplate

open Fragment

/-! ## Contexts -/

/-- What the code of a view is evaluated in. -/
structure RenderContext (σ : Type) (m : Type → Type) where
  environment : Environment σ
  /-- The fragment of the view. -/
  source : String
  /-- The number of captures that were open when the view began. -/
  base : Nat
  /-- Renders another view inside this one with the given parameters. -/
  enter : String → Entries Value → m String

inductive EnvironmentMethod where
  | make
  | showEach
  | yield
  | yieldSection
  | startSection
  | inject
  | stopSection
  | exists
  deriving DecidableEq

namespace EnvironmentMethod

def all : List EnvironmentMethod :=
  [.make, .showEach, .yield, .yieldSection, .startSection, .inject, .stopSection, .exists]

def name : EnvironmentMethod → String
  | .make => "make"
  | .showEach => "show_each"
  | .yield => "yield"
  | .yieldSection => "yield_section"
  | .startSection => "start_section"
  | .inject => "inject"
  | .stopSection => "stop_section"
  | .exists => "exists"

def ofName? (name : String) : Option EnvironmentMethod :=
  all.find? fun method => method.name == name

/-- The least and the greatest number of arguments. -/
def arity : EnvironmentMethod → Nat × Nat
  | .make => (1, 3)
  | .showEach => (3, 4)
  | .yield => (1, 1)
  | .yieldSection => (0, 0)
  | .startSection => (1, 2)
  | .inject => (2, 2)
  | .stopSection => (0, 0)
  | .exists => (1, 1)

end EnvironmentMethod

/-- The name of the function that lists the variables in scope. -/
def scopeFunctionName : String := "defined_vars"

namespace RenderContext

variable {σ α : Type} {m : Type → Type} [Rendering σ m] (context : RenderContext σ m)

/-! ## Errors -/

def errorAt (span : Span) (cause : Cause) : Error :=
  Error.located cause context.source span

def locate (span : Span) : Except Fault α → Except Error α
  | .ok result => .ok result
  | .error fault => .error (context.errorAt span (.evaluation fault))

/-- Ends with the fault of a computation, if it has one. -/
def check (span : Span) (computation : Except Fault α) : m α :=
  Rendering.ofExcept (context.locate span computation)

def failAt (span : Span) (fault : Fault) : m α :=
  Rendering.fail (context.errorAt span (.evaluation fault))

/-! ## Paths -/

def lookup (scope : Entries Value) (identifier : Identifier) : Except Error Value :=
  match scope.lookup identifier.name with
  | some value => .ok value
  | none => .error (context.errorAt identifier.span (.evaluation .unbound))

def member (target : Value) (key : MemberKey) : Except Error Value :=
  context.locate key.span <|
    match key with
    | .field identifier => target.field identifier.name
    | .position index _ => target.element index

/-- The value of an expression that is a path: a variable with any number of members behind it. -/
def path? (scope : Entries Value) : Expression → Option (Except Error Value)
  | .variable identifier => some (context.lookup scope identifier)
  | .member target key _ =>
      match path? scope target with
      | some (.ok value) => some (context.member value key)
      | some (.error error) => some (.error error)
      | none => none
  | _ => none

/-! ## Arguments of methods -/

def stringArgument (role : ArgumentRole) : Value → Except Fault String
  | .string text => .ok text
  | value => .error (.methodArgument role value.kind)

/-- The string that an argument must be unless it is missing or none. -/
def stringArgument? (role : ArgumentRole) : Option Value → Except Fault (Option String)
  | none => .ok none
  | some .none => .ok none
  | some value => (stringArgument role value).map some

/-- The parameters of a view from several arguments, each a map or none. The names of earlier maps
take precedence. -/
def mergeParameters : List Value → Except Fault (Entries Value)
  | [] => .ok []
  | value :: others => do
      let below ← mergeParameters others
      match value with
      | .map entries => .ok (Entries.overlay below entries)
      | .none => .ok below
      | value => .error (.unusableViewData value.kind)

/-! ## A view per element -/

/-- What the text for an empty collection begins with when it is no name of a view. -/
def verbatimMark : String := "raw|"

/-- The elements of a collection with their keys: the indexes of a list, the keys of a map. None
has no elements. -/
def elements? : Value → Option (List (Value × Value))
  | .list items => some (items.zipIdx.map fun (item, index) => (Value.ofCount index, item))
  | .map entries => some (entries.map fun (key, value) => (.string key, value))
  | .none => some []
  | _ => none

/-- The parameters of the view of one element: its key, and then the element under the name of the
iterator. -/
def elementParameters (iterator : String) (key element : Value) : Entries Value :=
  Entries.put iterator element [("key", key)]

def enterEach (enter : String → Entries Value → m String) (view iterator : String) :
    List (Value × Value) → m String
  | [] => return ""
  | (key, element) :: others => do
      let output ← enter view (elementParameters iterator key element)
      let rest ← enterEach enter view iterator others
      return output ++ rest

/-- Renders a view for each element of a collection; if it has none, what `empty` says instead:
a text behind its mark, or the name of a view. -/
def showEach (enter : String → Entries Value → m String) (view : String)
    (collection : Value) (iterator empty : String) : m String :=
  match elements? collection with
  | none => Rendering.fail (Error.ofCause (.evaluation (.unusableCollection collection.kind)))
  | some [] =>
      match Text.stripInitial? verbatimMark.toList empty.toList with
      | some text => return String.ofList text
      | none => enter empty []
  | some (first :: others) => enterEach enter view iterator (first :: others)

/-! ## Methods -/

/-- Closes the innermost capture of this view. Captures of the views around it are not touched. -/
def closeCapture (span : Span) (closing : Closing) : m Value := do
  let text ← Rendering.close closing context.base (context.errorAt span .sectionUnderflow)
  return .string text

/-- The text that a section is given right away, if any. An empty string counts as no content. -/
def inlineContent? : Option Value → Except Fault (Option String)
  | none => .ok none
  | some value => if value.string? = some "" then .ok none else value.render.map some

/-- Opens a section, or gives it content right away. -/
def startSection (name : String) : Option String → m Unit
  | none => Rendering.start name
  | some text => Rendering.extend name text

/-- Calls a method with as many arguments as it takes. -/
def callMethod (span : Span) (method : EnvironmentMethod) (arguments : List Value) :
    m Value := do
  let first := arguments.headD .none
  let second := arguments.getD 1 .none
  match method with
  | .make =>
      let view ← context.check span (stringArgument .viewName first)
      let parameters ← context.check span (mergeParameters (arguments.drop 1))
      let output ← context.enter view parameters
      return .string output
  | .showEach =>
      let view ← context.check span (stringArgument .viewName first)
      let iterator ← context.check span (stringArgument .iteratorName (arguments.getD 2 .none))
      let empty ← context.check span (stringArgument? .emptyView arguments[3]?)
      let output ← showEach context.enter view second iterator (empty.getD verbatimMark)
      return .string output
  | .yield =>
      let name ← context.check span (stringArgument .sectionName first)
      let content ← Rendering.content name
      return .string content
  | .yieldSection => context.closeCapture span .yield
  | .startSection =>
      let name ← context.check span (stringArgument .sectionName first)
      let text? ← context.check span (inlineContent? arguments[1]?)
      startSection name text?
      return .none
  | .inject =>
      let name ← context.check span (stringArgument .sectionName first)
      let text ← context.check span second.render
      Rendering.extend name text
      return .none
  | .stopSection => context.closeCapture span .stop
  | .exists =>
      let view ← context.check span (stringArgument .viewName first)
      let found ← Rendering.contains context.environment view
      return .bool found

def callNamed (name : Identifier) (span : Span) (arguments : List Value) : m Value :=
  match EnvironmentMethod.ofName? name.name with
  | none => context.failAt name.span .unknownMethod
  | some method =>
      let (least, most) := method.arity
      if least ≤ arguments.length ∧ arguments.length ≤ most then
        context.callMethod span method arguments
      else context.failAt span (.methodArity least most arguments.length)

/-! ## Expressions -/

def keyText : Value → Except Fault String
  | .string text => .ok text
  | .integer number => .ok (Value.integerText number)
  | value => .error (.unusableKey value.kind)

mutual

def evaluate (scope : Entries Value) (expression : Expression) : m Value :=
  match context.path? scope expression with
  | some result => Rendering.ofExcept result
  | none =>
      match expression with
      | .literal literal _ => return literal.value
      | .variable identifier => Rendering.ofExcept (context.lookup scope identifier)
      | .list items _ => do
          let values ← evaluateAll scope items
          return .list values
      | .map entries _ => do
          let pairs ← evaluateEntries scope entries
          return Value.ofPairs pairs
      | .member target key _ => do
          let value ← evaluate scope target
          Rendering.ofExcept (context.member value key)
      | .index target selector span => do
          let value ← evaluate scope target
          let selected ← evaluate scope selector
          context.check span (value.index selected)
      | .call function arguments span =>
          if function.name = scopeFunctionName then
            if arguments.isEmpty then return .map scope
            else context.failAt span .scopeTakesNoArguments
          else
            match context.environment.functions.lookup function.name with
            | none => context.failAt function.span .unknownFunction
            | some apply => do
                let values ← evaluateAll scope arguments
                context.check span (apply values)
      | .method name arguments span => do
          let values ← evaluateAll scope arguments
          context.callNamed name span values
      | .unary operator operand span => do
          let value ← evaluate scope operand
          context.check span (Value.applyUnary operator value)
      | .binary operator left right span =>
          match operator with
          | .and => do
              let leftValue ← evaluate scope left
              if leftValue.isTruthy then
                let rightValue ← evaluate scope right
                return .bool rightValue.isTruthy
              else return .bool false
          | .or => do
              let leftValue ← evaluate scope left
              if leftValue.isTruthy then return .bool true
              else
                let rightValue ← evaluate scope right
                return .bool rightValue.isTruthy
          | operator => do
              let leftValue ← evaluate scope left
              let rightValue ← evaluate scope right
              context.check span (Value.applyBinary operator leftValue rightValue)

def evaluateAll (scope : Entries Value) : List Expression → m (List Value)
  | [] => return []
  | expression :: expressions => do
      let value ← evaluate scope expression
      let values ← evaluateAll scope expressions
      return value :: values

def evaluateEntries (scope : Entries Value) :
    List (Expression × Expression) → m (List (String × Value))
  | [] => return []
  | (key, expression) :: entries => do
      let keyValue ← evaluate scope key
      let name ← context.check key.span (keyText keyValue)
      let value ← evaluate scope expression
      let pairs ← evaluateEntries scope entries
      return (name, value) :: pairs

end

end RenderContext

end ViewTemplate
