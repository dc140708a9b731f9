import ViewTemplate.Function.Builtin
import ViewTemplate.Store.Basic

/-!
Environments: what all views of a store share, namely data, host functions, composers and the limit
on views inside each other.
-/

namespace ViewTemplate

/-- What adjusts the data of views before they are rendered. -/
structure Composer where
  /-- The name of the view that the composer is for, or a star for all views. -/
  pattern : String
  /-- The new data, from the name of the view and its data. -/
  compose : String → Entries Value → Entries Value

def Composer.appliesTo (composer : Composer) (view : String) : Bool :=
  composer.pattern == "*" || composer.pattern == view

/-- An environment over a store with states of type `σ`. -/
structure Environment (σ : Type) where
  store : Store σ
  shared : Entries Value
  functions : Entries HostFunction
  composers : List Composer
  /-- How many views may stand around a view. -/
  maxDepth : Nat

namespace Environment

variable {σ : Type}

/-- How many views may stand around a view unless an environment says otherwise. -/
def defaultMaxDepth : Nat := 64

/-- An environment with the builtin functions, at a time. -/
def ofStore (store : Store σ) (now : Int64) : Environment σ :=
  ⟨store, [], Builtin.all now, [], defaultMaxDepth⟩

def share (name : String) (value : Value) (environment : Environment σ) : Environment σ :=
  { environment with shared := Entries.put name value environment.shared }

/-- Adds a host function, in place of one of the same name. -/
def addFunction (name : String) (function : HostFunction) (environment : Environment σ) :
    Environment σ :=
  { environment with functions := Entries.put name function environment.functions }

/-- Adds a composer behind the others. -/
def addComposer (composer : Composer) (environment : Environment σ) : Environment σ :=
  { environment with composers := environment.composers ++ [composer] }

/-- The data of a view with parameters: they take precedence over what is shared. -/
def viewData (parameters : Entries Value) (environment : Environment σ) : Entries Value :=
  Entries.overlay environment.shared parameters

/-- The variables that a view begins with: its data after all composers that are for it. -/
def variablesFor (view : String) (parameters : Entries Value) (environment : Environment σ) :
    Entries Value :=
  environment.composers.foldl
    (fun data composer => if composer.appliesTo view then composer.compose view data else data)
    (environment.viewData parameters)

end Environment

end ViewTemplate
