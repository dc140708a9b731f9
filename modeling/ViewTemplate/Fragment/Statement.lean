import ViewTemplate.Fragment.Expression

/-!
Statements of a fragment: actions, and blocks of statements that are chosen or repeated.
-/

namespace ViewTemplate.Fragment

/-- What an assignment does to its variable. -/
inductive AssignmentAction where
  | set (value : Expression)
  | add (value : Expression)
  | subtract (value : Expression)
  | increment
  | decrement

structure Assignment where
  target : Identifier
  action : AssignmentAction
  span : Span

/-- A statement without statements inside. -/
inductive Action where
  /-- Text outside code tags, output as it is. -/
  | raw (text : String)
  /-- Outputs the value of an expression. -/
  | echo (value : Expression)
  /-- Evaluates an expression for its effects. -/
  | evaluate (value : Expression)
  | assign (assignment : Assignment)

/-- The variables of a loop over a list or a map. -/
inductive LoopVariables where
  | item (item : Identifier)
  | entry (key value : Identifier)

inductive Statement where
  | action (action : Action)
  /-- One of two branches, of which the second may be missing. -/
  | branch (condition : Expression) (thenBranch : List Statement)
      (elseBranch : Option (List Statement))
  /-- A loop over a list or a map. -/
  | each (binding : LoopVariables) (iterable : Expression) (body : List Statement)
  /-- A loop with a start, a condition and a step. Without a condition it does not end. -/
  | count (start : Option Assignment) (condition : Option Expression) (step : Option Assignment)
      (body : List Statement)
  | repeat (condition : Expression) (body : List Statement)

end ViewTemplate.Fragment
