import ViewTemplate.Error

/-!
Stores hold views and hand out their fragments. What a store keeps is a state of its own, which
handing out a fragment may change.
-/

namespace ViewTemplate

/-- A store whose state is of type `σ`. -/
structure Store (σ : Type) where
  contains : String → σ → Bool
  /-- The fragment of a view. A view that there is not fails with `Cause.viewNotFound`. -/
  compiled : String → σ → Except Cause String × σ

end ViewTemplate
