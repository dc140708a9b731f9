import ViewTemplate.Render.Evaluate

/-!
Running the program of a view. A frame holds what belongs to one view alone: its position, its
variables, its loops and its output. Output goes to the innermost capture that the view opened, and
to the output of the view while there is none.
-/

namespace ViewTemplate

open Fragment

/-- A loop over a list or a map: its variables and the elements still to come, with their keys. -/
structure LoopState where
  binding : LoopVariables
  remaining : List (Value × Value)

/-- What the statements of a view work on: its variables and its output. -/
structure Page where
  scope : Entries Value
  output : String

namespace Page

def initial (scope : Entries Value) : Page :=
  ⟨scope, ""⟩

def bind (name : String) (value : Value) (page : Page) : Page :=
  { page with scope := Entries.put name value page.scope }

/-- Binds the variables of a loop to an element and its key. -/
def bindElement (binding : LoopVariables) (key element : Value) (page : Page) : Page :=
  match binding with
  | .item item => page.bind item.name element
  | .entry keyName valueName => (page.bind keyName.name key).bind valueName.name element

end Page

/-- The state of running one view. -/
structure RenderFrame where
  position : Nat
  /-- The loops that are running, innermost first. -/
  loops : List LoopState
  page : Page

namespace RenderFrame

def initial (scope : Entries Value) : RenderFrame :=
  ⟨0, [], Page.initial scope⟩

def goTo (position : Nat) (frame : RenderFrame) : RenderFrame :=
  { frame with position := position }

def advance (frame : RenderFrame) : RenderFrame :=
  frame.goTo (frame.position + 1)

end RenderFrame

namespace RenderContext

variable {σ : Type} {m : Type → Type} [Rendering σ m] (context : RenderContext σ m)

/-! ## Actions -/

def emit (text : String) (page : Page) : m Page := do
  let captured ← Rendering.write context.base text
  return if captured then page else { page with output := page.output ++ text }

/-- The value of a variable after adding to it or subtracting from it. -/
def adjusted (scope : Entries Value) (assignment : Assignment) (operator : BinaryOperator)
    (amount : Value) : Except Error Value := do
  let current ← context.lookup scope assignment.target
  context.locate assignment.span (Value.applyBinary operator current amount)

/-- The value that an assignment gives to its variable. -/
def assigned (scope : Entries Value) (assignment : Assignment) : m Value :=
  match assignment.action with
  | .set value => context.evaluate scope value
  | .add value => do
      let amount ← context.evaluate scope value
      Rendering.ofExcept (context.adjusted scope assignment .add amount)
  | .subtract value => do
      let amount ← context.evaluate scope value
      Rendering.ofExcept (context.adjusted scope assignment .subtract amount)
  | .increment => Rendering.ofExcept (context.adjusted scope assignment .add (.integer 1))
  | .decrement => Rendering.ofExcept (context.adjusted scope assignment .subtract (.integer 1))

def perform (page : Page) : Action → m Page
  | .raw text => context.emit text page
  | .echo expression => do
      let value ← context.evaluate page.scope expression
      let text ← context.check expression.span value.render
      context.emit text page
  | .evaluate expression => do
      let _ ← context.evaluate page.scope expression
      return page
  | .assign assignment => do
      let value ← context.assigned page.scope assignment
      return page.bind assignment.target.name value

/-- The elements of the value that a loop runs over. -/
def loopElements (scope : Entries Value) (iterable : Expression) : m (List (Value × Value)) := do
  let value ← context.evaluate scope iterable
  match value, elements? value with
  | .none, _ => context.failAt iterable.span (.notIterable value.kind)
  | _, some elements => return elements
  | _, none => context.failAt iterable.span (.notIterable value.kind)

/-! ## Instructions -/

def step (frame : RenderFrame) : Instruction → m RenderFrame
  | .perform action => do
      let page ← context.perform frame.page action
      return { frame.advance with page := page }
  | .jump target => return frame.goTo target
  | .jumpUnless condition target => do
      let value ← context.evaluate frame.page.scope condition
      return if value.isTruthy then frame.advance else frame.goTo target
  | .startLoop binding iterable => do
      let elements ← context.loopElements frame.page.scope iterable
      return { frame.advance with loops := ⟨binding, elements⟩ :: frame.loops }
  | .nextElement target =>
      match frame.loops with
      | [] => return frame.goTo target
      | loop :: outer =>
          match loop.remaining with
          | [] => return { frame.goTo target with loops := outer }
          | (key, element) :: others =>
              return {
                position := frame.position + 1
                loops := ⟨loop.binding, others⟩ :: outer
                page := frame.page.bindElement loop.binding key element }

/-- Carries out instructions from the position of a frame on, at most as many as `fuel`. -/
def run (instructions : Array Instruction) : (fuel : Nat) → RenderFrame → m RenderFrame
  | 0, _ => Rendering.exhaust
  | fuel + 1, frame =>
      match instructions[frame.position]? with
      | none => return frame
      | some instruction => do
          let next ← context.step frame instruction
          run instructions fuel next

/-- Runs a program with variables in scope and gives its output. The program has to close the
captures it opens. -/
def runProgram (fuel : Nat) (program : Program) (scope : Entries Value) : m String := do
  let frame ← context.run program.instructions fuel (RenderFrame.initial scope)
  match ← Rendering.unclosed? context.base with
  | some name => Rendering.fail (Error.ofCause (.unclosedSection name))
  | none => return frame.page.output

end RenderContext

end ViewTemplate
