import ViewTemplate.Environment
import ViewTemplate.Fragment.Program
import ViewTemplate.Sections

/-!
What rendering is made of. Views are rendered in a monad with a few operations, on the store, on the
programs that were compiled already and on the sections; rendering is written once for every such
monad. The plain one works on a state and ends with a result, with an error, or because it was only
allowed a number of steps; the state that it has reached is kept in each case.
-/

namespace ViewTemplate

/-! ## Operations -/

/-- The operations that rendering is made of, over a store with states of type `σ`. -/
class Rendering (σ : outParam Type) (m : Type → Type) extends Monad m where
  fail {α : Type} (error : Error) : m α
  /-- Ends because the allowed number of steps did not suffice. -/
  exhaust {α : Type} : m α
  mapError {α : Type} (change : Error → Error) (rendering : m α) : m α
  /-- Asks the store for the fragment of a view. -/
  compiled (environment : Environment σ) (view : String) : m String
  contains (environment : Environment σ) (view : String) : m Bool
  /-- The program that was kept for a view. -/
  kept? (view : String) : m (Option Fragment.Program)
  keep (view : String) (program : Fragment.Program) : m Unit
  content (name : String) : m String
  /-- Opens a capture. -/
  start (name : String) : m Unit
  /-- Gives content to a section. -/
  extend (name text : String) : m Unit
  /-- Closes the innermost capture unless it is among the first `base`; if there is none to close,
  ends with an error. -/
  close (closing : Closing) (base : Nat) (missing : Error) : m String
  /-- Adds text to the innermost capture unless it is among the first `base`, and tells whether
  there was one to add to. -/
  write (base : Nat) (text : String) : m Bool
  /-- The section of the capture behind the first `base`, if it is still open. -/
  unclosed? (base : Nat) : m (Option String)
  /-- Renders with the number of captures that are open, and drops the captures that the rendering
  leaves open beyond them, however it ends. -/
  framed {α : Type} (body : (base : Nat) → m α) : m α

namespace Rendering

variable {σ : Type} {m : Type → Type} [Rendering σ m] {α : Type}

def ofExcept : Except Error α → m α
  | .ok result => pure result
  | .error error => fail error

/-- The program of a fragment, newly compiled and kept. -/
def freshProgram (view fragment : String) : m Fragment.Program :=
  match Fragment.Program.compile fragment with
  | .ok program => do
      keep view program
      return program
  | .error error => fail (Error.located (.malformed error.fault) fragment error.span)

/-- The program of a view. The program of an earlier rendering is used again as long as the store
hands out the same fragment. -/
def programOf (environment : Environment σ) (view : String) : m Fragment.Program := do
  let fragment ← compiled environment view
  match ← kept? view with
  | some program => if program.source = fragment then return program else freshProgram view fragment
  | none => freshProgram view fragment

end Rendering

/-! ## The plain monad -/

/-- Why a rendering has no result. -/
inductive Interrupt where
  | failed (error : Error)
  | exhausted

structure RenderState (σ : Type) where
  stored : σ
  /-- The programs by the names of their views. -/
  programs : Entries Fragment.Program
  sections : Sections

abbrev Render (σ α : Type) : Type :=
  EStateM Interrupt (RenderState σ) α

/-- How a rendering ends, and the state that it has reached. -/
abbrev Outcome (σ α : Type) : Type :=
  EStateM.Result Interrupt (RenderState σ) α

namespace Outcome

variable {σ α : Type}

def reached : Outcome σ α → RenderState σ
  | .ok _ state => state
  | .error _ state => state

def mapReached (change : RenderState σ → RenderState σ) : Outcome σ α → Outcome σ α
  | .ok result state => .ok result (change state)
  | .error interrupt state => .error interrupt (change state)

/-- The same ending with the error changed, if there is one. -/
def mapError (change : Error → Error) : Outcome σ α → Outcome σ α
  | .error (.failed error) state => .error (.failed (change error)) state
  | other => other

end Outcome

/-- The state with captures dropped until at most `base` are left. -/
def RenderState.truncate {σ : Type} (base : Nat) (state : RenderState σ) : RenderState σ :=
  { state with sections := state.sections.truncate base }

namespace Render

variable {σ α : Type}

def modifySections (change : Sections → Sections) : Render σ Unit := fun state =>
  .ok () { state with sections := change state.sections }

def compiled (environment : Environment σ) (view : String) : Render σ String := fun state =>
  match environment.store.compiled view state.stored with
  | (.ok fragment, stored) => .ok fragment { state with stored := stored }
  | (.error cause, stored) => .error (.failed (Error.ofCause cause)) { state with stored := stored }

/-- Closes the innermost capture beyond the first `base`, or ends with an error. -/
def close (closing : Closing) (base : Nat) (missing : Error) : Render σ String := fun state =>
  match if base < state.sections.depth then state.sections.close? closing else none with
  | some (text, sections) => .ok text { state with sections := sections }
  | none => .error (.failed missing) state

/-- Adds text to the innermost capture beyond the first `base`, if there is one. -/
def write (base : Nat) (text : String) : Render σ Bool := fun state =>
  match if base < state.sections.depth then state.sections.write? text else none with
  | some sections => .ok true { state with sections := sections }
  | none => .ok false state

end Render

@[default_instance]
instance {σ : Type} : Rendering σ (Render σ) where
  fail error := throw (.failed error)
  exhaust := throw .exhausted
  mapError change rendering := fun state => Outcome.mapError change (rendering state)
  compiled := Render.compiled
  contains environment view := fun state =>
    .ok (environment.store.contains view state.stored) state
  kept? view := fun state => .ok (state.programs.lookup view) state
  keep view program := fun state =>
    .ok () { state with programs := Entries.put view program state.programs }
  content name := fun state => .ok (state.sections.content name) state
  start name := Render.modifySections (Sections.start name)
  extend name text := Render.modifySections (Sections.extend name text)
  close := Render.close
  write := Render.write
  unclosed? base := fun state =>
    .ok ((state.sections.captureAt? base).map Capture.name) state
  framed body := fun state =>
    let base := state.sections.depth
    Outcome.mapReached (RenderState.truncate base) (body base state)

end ViewTemplate
