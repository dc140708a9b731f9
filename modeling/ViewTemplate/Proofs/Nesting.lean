import ViewTemplate.Proofs.Execution
import ViewTemplate.Proofs.Relation

/-!
How deep views are inside each other. The nested monad does what the plain one does; it counts the
programs that are being carried out around each other and notes every view that is to be rendered.
The depth that rendering keeps track of is that count, and no program is carried out deeper than the
environment allows (`keepsDepth_renderNested`).
-/

namespace ViewTemplate

open Fragment

/-- What is noted of views inside each other. -/
inductive NestingEvent where
  /-- A program was begun with `around` others being carried out around it. -/
  | entered (around : Nat)
  /-- A view was to be rendered at a depth, with `around` programs being carried out around it; with
  the error that came of it, if one did. -/
  | called (view : String) (depth around : Nat) (failure? : Option Error)

/-- The error for a view that is too deep inside others. -/
def Environment.tooDeep {σ : Type} (environment : Environment σ) (view : String) : Error :=
  (Error.ofCause (.includeDepth environment.maxDepth)).inView view

/-- The depth of a view is the number of programs around it, and where there are too many the view
is refused, with an error that names it. -/
def NestingEvent.KeepsDepth {σ : Type} (environment : Environment σ) : NestingEvent → Prop
  | .entered around => around ≤ environment.maxDepth
  | .called view depth around failure? =>
      depth = around ∧ (environment.maxDepth < around → failure? = some (environment.tooDeep view))

/-- A state with what has been noted, last first. -/
structure NestedState (σ : Type) where
  state : RenderState σ
  events : List NestingEvent

/-- A rendering that is told how many programs are being carried out around it. -/
def Nested (σ α : Type) : Type :=
  Nat → EStateM Interrupt (NestedState σ) α

/-- How a nested rendering ends, and the state that it has reached. -/
abbrev NestedOutcome (σ α : Type) : Type :=
  EStateM.Result Interrupt (NestedState σ) α

namespace NestedOutcome

variable {σ α : Type}

def mapReached (change : NestedState σ → NestedState σ) : NestedOutcome σ α → NestedOutcome σ α
  | .ok result reached => .ok result (change reached)
  | .error interrupt reached => .error interrupt (change reached)

def mapError (change : Error → Error) : NestedOutcome σ α → NestedOutcome σ α
  | .error (.failed error) reached => .error (.failed (change error)) reached
  | other => other

def failure? : NestedOutcome σ α → Option Error
  | .error (.failed error) _ => some error
  | .error .exhausted _ | .ok _ _ => none

def events : NestedOutcome σ α → List NestingEvent
  | .ok _ reached | .error _ reached => reached.events

/-- The same ending with one more note. -/
def noted (event : NestingEvent) : NestedOutcome σ α → NestedOutcome σ α :=
  mapReached fun reached => { reached with events := event :: reached.events }

/-- The same ending with captures dropped until at most `base` are left. -/
def truncated (base : Nat) : NestedOutcome σ α → NestedOutcome σ α :=
  mapReached fun reached => { reached with state := reached.state.truncate base }

/-- The outcome of the plain rendering. -/
def plain : NestedOutcome σ α → Outcome σ α
  | .ok result reached => .ok result reached.state
  | .error interrupt reached => .error interrupt reached.state

section Plain

variable (outcome : NestedOutcome σ α)

@[simp]
theorem plain_noted (event : NestingEvent) : plain (noted event outcome) = plain outcome := by
  cases outcome <;> rfl

@[simp]
theorem events_noted (event : NestingEvent) :
    events (noted event outcome) = event :: events outcome := by
  cases outcome <;> rfl

@[simp]
theorem plain_truncated (base : Nat) :
    plain (truncated base outcome) =
      Outcome.mapReached (RenderState.truncate base) (plain outcome) := by
  cases outcome <;> rfl

@[simp]
theorem events_truncated (base : Nat) : events (truncated base outcome) = events outcome := by
  cases outcome <;> rfl

@[simp]
theorem plain_mapError (change : Error → Error) :
    plain (mapError change outcome) = Outcome.mapError change (plain outcome) := by
  rcases outcome with ⟨result, reached⟩ | ⟨error | _, reached⟩ <;> rfl

@[simp]
theorem events_mapError (change : Error → Error) :
    events (mapError change outcome) = events outcome := by
  rcases outcome with ⟨result, reached⟩ | ⟨error | _, reached⟩ <;> rfl

end Plain

theorem failure?_of_plain {outcome : NestedOutcome σ α} {error : Error} {state : RenderState σ}
    (failed : plain outcome = .error (.failed error) state) : failure? outcome = some error := by
  rcases outcome with ⟨result, reached⟩ | ⟨failure | _, reached⟩ <;> cases failed
  rfl

end NestedOutcome

/-! ## The nested monad -/

namespace Nested

variable {σ α β : Type}

instance : Monad (Nested σ) :=
  inferInstanceAs (Monad (ReaderT Nat (EStateM Interrupt (NestedState σ))))

/-- A plain rendering. It is inside no further program, and nothing is noted. -/
def lift (rendering : Render σ α) : Nested σ α := fun _ nested =>
  match rendering nested.state with
  | .ok result reached => .ok result { nested with state := reached }
  | .error interrupt reached => .error interrupt { nested with state := reached }

/-- Notes that a view is to be rendered. -/
def called (view : String) (depth : Nat) (rendering : Nested σ α) : Nested σ α :=
  fun around nested =>
    let outcome := rendering around nested
    NestedOutcome.noted (.called view depth around (NestedOutcome.failure? outcome)) outcome

instance : Rendering σ (Nested σ) where
  fail error := lift (Rendering.fail error)
  exhaust := lift Rendering.exhaust
  mapError change rendering := fun around nested =>
    NestedOutcome.mapError change (rendering around nested)
  compiled environment view := lift (Rendering.compiled environment view)
  contains environment view := lift (Rendering.contains environment view)
  kept? view := lift (Rendering.kept? view)
  keep view program := lift (Rendering.keep view program)
  content name := lift (Rendering.content name)
  start name := lift (Rendering.start name)
  extend name text := lift (Rendering.extend name text)
  close closing base missing := lift (Rendering.close closing base missing)
  write base text := lift (Rendering.write base text)
  unclosed? base := lift (Rendering.unclosed? base)
  framed body := fun around nested =>
    let base := nested.state.sections.depth
    NestedOutcome.truncated base
      (body base (around + 1) { nested with events := .entered around :: nested.events })

end Nested

section Views

variable {σ : Type}

/-- Renders a view as `Environment.renderAt` does, and notes each view with its depth. -/
def Environment.renderNested (environment : Environment σ) (fuel : Nat) :
    (levels : Nat) → (view : String) → (parameters : Entries Value) → Nested σ String
  | 0, view, _ =>
      Nested.called view (environment.maxDepth + 1) (Rendering.fail (environment.tooDeep view))
  | levels + 1, view, parameters =>
      Nested.called view (environment.maxDepth - levels) <|
        Rendering.mapError (Error.inView view) do
          let program ← Rendering.programOf environment view
          environment.renderProgram (environment.renderNested fuel levels) fuel program
            (environment.variablesFor view parameters)

end Views

/-! ## Depths -/

namespace Nested

variable {σ α β : Type} (environment : Environment σ)

/-- The rendering does what a plain one does, and what it notes keeps depths. -/
def KeepsDepth (around : Nat) (rendering : Nested σ α) (plain : Render σ α) : Prop :=
  ∀ nested, (∀ event ∈ nested.events, event.KeepsDepth environment) →
    NestedOutcome.plain (rendering around nested) = plain nested.state ∧
      ∀ event ∈ NestedOutcome.events (rendering around nested), event.KeepsDepth environment

variable {environment} {around : Nat}

theorem keepsDepth_lift (rendering : Render σ α) :
    KeepsDepth environment around (lift rendering) rendering := by
  intro nested kept
  unfold lift
  rcases rendering nested.state with ⟨result, reached⟩ | ⟨interrupt, reached⟩ <;>
    exact ⟨rfl, kept⟩

theorem KeepsDepth.bind {rendering : Nested σ α} {plain : Render σ α} {next : α → Nested σ β}
    {nextPlain : α → Render σ β} (first : KeepsDepth environment around rendering plain)
    (second : ∀ result, KeepsDepth environment around (next result) (nextPlain result)) :
    KeepsDepth environment around (rendering >>= next) (plain >>= nextPlain) := by
  intro nested kept
  obtain ⟨same, noted⟩ := first nested kept
  change NestedOutcome.plain
      (EStateM.bind (rendering around) (fun result => next result around) nested) =
    EStateM.bind plain nextPlain nested.state ∧ ∀ event ∈ NestedOutcome.events
      (EStateM.bind (rendering around) (fun result => next result around) nested), _
  unfold EStateM.bind
  rw [← same]
  cases ended : rendering around nested with
  | ok result reached =>
      rw [ended] at noted
      exact second result reached noted
  | error interrupt reached =>
      rw [ended] at noted
      exact ⟨rfl, noted⟩

theorem KeepsDepth.mapError {rendering : Nested σ α} {plain : Render σ α}
    (change : Error → Error) (keeps : KeepsDepth environment around rendering plain) :
    KeepsDepth environment around (Rendering.mapError change rendering)
      (Rendering.mapError change plain) := by
  intro nested kept
  obtain ⟨same, noted⟩ := keeps nested kept
  constructor
  · exact (NestedOutcome.plain_mapError _ change).trans (congrArg (Outcome.mapError change) same)
  · exact (NestedOutcome.events_mapError (rendering around nested) change).symm ▸ noted

/-- One more program is carried out, at a place that is not too deep. -/
theorem KeepsDepth.framed {body : Nat → Nested σ α} {plain : Nat → Render σ α}
    (shallow : around ≤ environment.maxDepth)
    (bodies : ∀ base, KeepsDepth environment (around + 1) (body base) (plain base)) :
    KeepsDepth environment around (Rendering.framed body) (Rendering.framed plain) := by
  intro nested kept
  let base := nested.state.sections.depth
  let inside : NestedState σ := { nested with events := .entered around :: nested.events }
  obtain ⟨same, noted⟩ := bodies base inside (List.forall_mem_cons.2 ⟨shallow, kept⟩)
  constructor
  · exact (NestedOutcome.plain_truncated _ base).trans (congrArg (Outcome.mapReached _) same)
  · exact (NestedOutcome.events_truncated (body base (around + 1) inside) base).symm ▸ noted

/-- A view that is rendered at the right depth, and refused where that is too deep. -/
theorem KeepsDepth.called {rendering : Nested σ α} {plain : Render σ α} (view : String)
    (keeps : KeepsDepth environment around rendering plain)
    (refused : environment.maxDepth < around →
      plain = Rendering.fail (environment.tooDeep view)) :
    KeepsDepth environment around (called view around rendering) plain := by
  intro nested kept
  obtain ⟨same, noted⟩ := keeps nested kept
  constructor
  · exact (NestedOutcome.plain_noted ..).trans same
  · change ∀ event ∈ NestedOutcome.events (NestedOutcome.noted _ (rendering around nested)), _
    rw [NestedOutcome.events_noted]
    refine List.forall_mem_cons.2 ⟨⟨rfl, fun deep => ?_⟩, noted⟩
    rw [refused deep] at same
    exact NestedOutcome.failure?_of_plain same

theorem keepsDepth_programOf (view : String) :
    KeepsDepth environment around (Rendering.programOf environment view)
      (Rendering.programOf environment view) := by
  refine Rendering.programOf_of_steps
    (fun rendering plain => KeepsDepth environment around rendering plain)
    (fun program => keepsDepth_lift (pure program)) KeepsDepth.bind (keepsDepth_lift _)
    (keepsDepth_lift _) fun fragment => ?_
  unfold Rendering.freshProgram
  cases Program.compile fragment with
  | ok program => exact (keepsDepth_lift _).bind fun _ => keepsDepth_lift (pure program)
  | error error => exact keepsDepth_lift _

theorem keepsDepth_ofExcept (result : Except Error α) :
    KeepsDepth environment around (Rendering.ofExcept result : Nested σ α)
      (Rendering.ofExcept result) := by
  cases result with
  | ok result => exact keepsDepth_lift (pure result)
  | error error => exact keepsDepth_lift (Rendering.fail error)

variable (environment)

/-- Depths are kept by all that code does. The index gives the number of programs around the code
and the number of open captures. -/
def depths : Rendering.Relation σ (Nested σ) (Render σ) where
  Index := Nat × Nat
  left := Prod.snd
  right := Prod.snd
  Inner _ := True
  Same e₁ e₂ := e₁ = e₂
  Holds i _ rendering plain := KeepsDepth environment i.1 rendering plain
  same_unlocated _ _ := rfl
  pure _ result := keepsDepth_lift (pure result)
  bind := KeepsDepth.bind
  fail same := same ▸ keepsDepth_lift _
  contains _ _ _ := keepsDepth_lift _
  content _ _ := keepsDepth_lift _
  start _ _ := keepsDepth_lift _
  extend _ _ _ := keepsDepth_lift _
  close _ same := same ▸ keepsDepth_lift _
  write _ _ := keepsDepth_lift _
  unclosed _ := keepsDepth_lift _

/-! ## Views -/

theorem contexts {enter : String → Entries Value → Nested σ String}
    {enterPlain : String → Entries Value → Render σ String}
    (enters : ∀ view parameters,
      KeepsDepth environment around (enter view parameters) (enterPlain view parameters))
    (source : String) (base : Nat) :
    (depths environment).Contexts (around, base) id ⟨environment, source, base, enter⟩
      ⟨environment, source, base, enterPlain⟩ where
  environment := rfl
  left := rfl
  right := rfl
  errors _ _ := rfl
  enter := enters

/-- A view is rendered as before, with the levels that its depth leaves for views inside it. -/
theorem keepsDepth_renderNested (fuel levels : Nat) (view : String) (parameters : Entries Value)
    (depth : around + levels = environment.maxDepth + 1) :
    KeepsDepth environment around (environment.renderNested fuel levels view parameters)
      (environment.renderAt fuel levels view parameters) := by
  induction levels generalizing around view parameters with
  | zero =>
      have deepest : around = environment.maxDepth + 1 := depth
      subst deepest
      exact (keepsDepth_lift _).called view fun _ => rfl
  | succ levels inductionHypothesis =>
      have counted : environment.maxDepth - levels = around := by omega
      unfold Environment.renderNested
      rw [counted]
      refine KeepsDepth.called view (KeepsDepth.mapError (Error.inView view) ?_) (by omega)
      refine (keepsDepth_programOf view).bind fun program => ?_
      refine KeepsDepth.framed (by omega) fun base => ?_
      have enters (view : String) (parameters : Entries Value) :
          KeepsDepth environment (around + 1)
            (environment.renderNested fuel levels view parameters)
            (environment.renderAt fuel levels view parameters) :=
        inductionHypothesis view parameters (by omega)
      exact Rendering.Relation.runProgram trivial (contexts environment enters program.source base)
        (fun instruction _ => instruction.mapSpans_id) (keepsDepth_lift _) (.inl rfl) _

end Nested
end ViewTemplate
