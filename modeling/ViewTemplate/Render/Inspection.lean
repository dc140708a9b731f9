import ViewTemplate.Render.View
import ViewTemplate.Value.Inspection

/-!
The texts that show environments, views and the data of views to a person who inspects a program.
They name a few of the parts and end with two points for the others.
-/

namespace ViewTemplate

/-- The text of a structure of which only some fields are shown. -/
def inspectOpen (name : String) (fields : List (String × String)) : String :=
  let parts := fields.map fun (field, text) => field ++ ": " ++ text
  name ++ " " ++ Value.braced (" " ++ Value.separated (parts ++ [".."]) ++ " ")

/-- The inspection text of an environment: what is shared, the names of the functions, the number
of composers and the limit on views inside each other. -/
def Environment.inspect {σ : Type} (environment : Environment σ) : String :=
  inspectOpen "Environment"
    [("shared", Value.inspectVariables environment.shared),
      ("functions",
        Value.bracketed
          (Value.separated ((Entries.names environment.functions).map Text.quoted))),
      ("composers", toString environment.composers.length),
      ("max_include_depth", toString environment.maxDepth)]

def View.inspect (view : View) : String :=
  inspectOpen "View" [("name", Text.quoted view.name)]

/-- The inspection text of the data of a view with parameters. -/
def Environment.inspectViewData {σ : Type} (parameters : Entries Value)
    (environment : Environment σ) : String :=
  inspectOpen "ViewData"
    [("data", Value.inspectVariables (environment.viewData parameters))]

end ViewTemplate
