import ViewTemplate.Render.Machine

/-!
Rendering views, and the views inside them. A view inside another has one level less for the views
inside itself, so that rendering recurses on the levels that are left.
-/

namespace ViewTemplate

/-! ## Views inside views -/

namespace Environment

variable {σ : Type} {m : Type → Type} [Rendering σ m]

/-- Renders the program of a view with variables in scope. Views inside the view are rendered by
`enter`. -/
def renderProgram (environment : Environment σ) (enter : String → Entries Value → m String)
    (fuel : Nat) (program : Fragment.Program) (scope : Entries Value) : m String :=
  Rendering.framed fun base =>
    let context : RenderContext σ m := ⟨environment, program.source, base, enter⟩
    context.runProgram fuel program scope

/-- Renders a view that may hold views `levels - 1` deep; without levels it is too deep itself. Each
program may take `fuel` steps. -/
def renderAt (environment : Environment σ) (fuel : Nat) :
    (levels : Nat) → (view : String) → (parameters : Entries Value) → m String
  | 0, view, _ =>
      Rendering.fail ((Error.ofCause (.includeDepth environment.maxDepth)).inView view)
  | levels + 1, view, parameters =>
      Rendering.mapError (Error.inView view) do
        let program ← Rendering.programOf environment view
        environment.renderProgram (environment.renderAt fuel levels) fuel program
          (environment.variablesFor view parameters)

/-- Renders a view that no other view is around. -/
def renderTop (environment : Environment σ) (fuel : Nat) (view : String)
    (parameters : Entries Value) : m String :=
  environment.renderAt fuel (environment.maxDepth + 1) view parameters

/-- Renders a view for each element of a collection, as the method of the same kind does. -/
def showEach (environment : Environment σ) (fuel : Nat) (view : String) (collection : Value)
    (iterator : String) (empty : Option String) : m String :=
  RenderContext.showEach (environment.renderTop fuel) view collection iterator
    (empty.getD RenderContext.verbatimMark)

end Environment

/-! ## Views with data -/

/-- A view to be rendered: its name, and its data unless some host data did not convert. -/
structure View where
  name : String
  data : Except Error (Entries Value)

namespace View

def ofName (name : String) : View :=
  ⟨name, .ok []⟩

def bind (name : String) (value : Value) (view : View) : View :=
  { view with data := view.data.map (Entries.put name value) }

/-- Binds all variables of host data. The first error stays. -/
def withData (data : HostData) (view : View) : View :=
  { view with
    data :=
      match view.data, data.toViewData with
      | .ok below, .ok above => .ok (Entries.overlay below above)
      | .error error, _ => .error error
      | .ok _, .error fault => .error (Error.ofCause (.conversion fault)) }

def render {σ : Type} {m : Type → Type} [Rendering σ m] (view : View)
    (environment : Environment σ) (fuel : Nat) : m String := do
  let data ← Rendering.ofExcept view.data
  environment.renderTop fuel view.name data

end View

end ViewTemplate
