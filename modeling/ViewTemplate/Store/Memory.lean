import ViewTemplate.Directive.Pass
import ViewTemplate.Store.Basic

/-!
A store that holds the fragments of its views in memory. Views are compiled when they are inserted.
-/

namespace ViewTemplate

/-- The fragments by the names of their views. -/
structure MemoryViews where
  fragments : Entries String
  deriving DecidableEq

namespace MemoryViews

def empty : MemoryViews := ⟨[]⟩

/-- Puts in a fragment as it is, in place of a view of the same name. -/
def insertFragment (name fragment : String) (views : MemoryViews) : MemoryViews :=
  ⟨Entries.put name fragment views.fragments⟩

/-- Compiles a view and puts it in, in place of one of the same name. -/
def insert (name source : String) (views : MemoryViews) : MemoryViews :=
  views.insertFragment name (Directive.compile source)

def compiled (name : String) (views : MemoryViews) : Except Cause String :=
  match views.fragments.lookup name with
  | some fragment => .ok fragment
  | none => .error (.viewNotFound name)

end MemoryViews

/-- The store of views in memory. Reading it changes nothing. -/
def Store.memory : Store MemoryViews where
  contains name views := Entries.has name views.fragments
  compiled name views := (views.compiled name, views)

end ViewTemplate
