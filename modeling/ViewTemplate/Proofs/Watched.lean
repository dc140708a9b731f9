import ViewTemplate.Proofs.Execution
import ViewTemplate.Proofs.Relation

/-!
Renderings that also tell where errors arise. The watched monad does what the plain one does; it
knows the views that stand inside each other and the answers that the store has given, and an error
keeps what it was when it was raised and the views that were being rendered then. Without this it is
the plain error (`erases_render`).
-/

namespace ViewTemplate

/-- An error on its way out of the views around it. -/
structure Raised where
  /-- The error as far as it has come. -/
  error : Error
  /-- The error as it was raised. -/
  origin : Error
  /-- The views inside each other that were being compiled or carried out when it was raised,
  innermost first. -/
  views : List String
  deriving DecidableEq

/-- Why a watched rendering has no result. -/
inductive WatchedInterrupt where
  | failed (raised : Raised)
  | exhausted

/-- What a store has answered for views, last first. -/
abbrev Answers : Type :=
  List (String × Except Cause String)

structure WatchedState (σ : Type) where
  state : RenderState σ
  answers : Answers

/-- A rendering that is told the views around it, innermost first. -/
def Watched (σ α : Type) : Type :=
  List String → EStateM WatchedInterrupt (WatchedState σ) α

/-- How a watched rendering ends, and the state that it has reached. -/
abbrev WatchedOutcome (σ α : Type) : Type :=
  EStateM.Result WatchedInterrupt (WatchedState σ) α

namespace WatchedOutcome

variable {σ α : Type}

def mapReached (change : WatchedState σ → WatchedState σ) :
    WatchedOutcome σ α → WatchedOutcome σ α
  | .ok result reached => .ok result (change reached)
  | .error interrupt reached => .error interrupt (change reached)

/-- The same ending with the error changed, if there is one. What it was when it was raised
stays. -/
def mapError (change : Error → Error) : WatchedOutcome σ α → WatchedOutcome σ α
  | .error (.failed raised) reached =>
      .error (.failed { raised with error := change raised.error }) reached
  | other => other

/-- The outcome of the plain rendering. -/
def erased : WatchedOutcome σ α → Outcome σ α
  | .ok result reached => .ok result reached.state
  | .error (.failed raised) reached => .error (.failed raised.error) reached.state
  | .error .exhausted reached => .error .exhausted reached.state

end WatchedOutcome

/-- The view that a change of errors names in an error that has none. -/
def Error.viewGivenBy (change : Error → Error) : Option String :=
  (change (Error.ofCause .sectionUnderflow)).view

namespace Watched

variable {σ α β : Type}

instance : Monad (Watched σ) :=
  inferInstanceAs (Monad (ReaderT (List String) (EStateM WatchedInterrupt (WatchedState σ))))

/-- A plain rendering. Its errors arise where it stands. -/
def lift (rendering : Render σ α) : Watched σ α := fun views watched =>
  match rendering watched.state with
  | .ok result reached => .ok result { watched with state := reached }
  | .error (.failed error) reached =>
      .error (.failed ⟨error, error, views⟩) { watched with state := reached }
  | .error .exhausted reached => .error .exhausted { watched with state := reached }

/-- Asks the store for the fragment of a view and keeps the answer. -/
def compiled (environment : Environment σ) (view : String) : Watched σ String :=
  fun views watched =>
    let answer := (environment.store.compiled view watched.state.stored).1
    lift (Rendering.compiled environment view) views
      { watched with answers := (view, answer) :: watched.answers }

instance : Rendering σ (Watched σ) where
  fail error := lift (Rendering.fail error)
  exhaust := lift Rendering.exhaust
  mapError change rendering := fun views watched =>
    WatchedOutcome.mapError change
      (rendering ((Error.viewGivenBy change).toList ++ views) watched)
  compiled := compiled
  contains environment view := lift (Rendering.contains environment view)
  kept? view := lift (Rendering.kept? view)
  keep view program := lift (Rendering.keep view program)
  content name := lift (Rendering.content name)
  start name := lift (Rendering.start name)
  extend name text := lift (Rendering.extend name text)
  close closing base missing := lift (Rendering.close closing base missing)
  write base text := lift (Rendering.write base text)
  unclosed? base := lift (Rendering.unclosed? base)
  framed body := fun views watched =>
    let base := watched.state.sections.depth
    WatchedOutcome.mapReached
      (fun reached => { reached with state := reached.state.truncate base })
      (body base views watched)

section Runs

variable {views : List String} {watched reached : WatchedState σ}

theorem bind_of_ok {rendering : Watched σ α} {next : α → Watched σ β} {result : α}
    (ended : rendering views watched = .ok result reached) :
    (rendering >>= next) views watched = next result views reached := by
  change EStateM.bind (rendering views) (fun result => next result views) watched = _
  rw [EStateM.bind, ended]

theorem bind_of_error {rendering : Watched σ α} {next : α → Watched σ β}
    {interrupt : WatchedInterrupt} (ended : rendering views watched = .error interrupt reached) :
    (rendering >>= next) views watched = .error interrupt reached := by
  change EStateM.bind (rendering views) (fun result => next result views) watched = _
  rw [EStateM.bind, ended]

section Answers

variable {environment : Environment σ} {view : String} {stored : σ}

theorem compiled_of_ok {fragment : String}
    (handed : environment.store.compiled view watched.state.stored = (.ok fragment, stored)) :
    (Rendering.compiled environment view : Watched σ String) views watched =
      .ok fragment
        ⟨{ watched.state with stored := stored }, (view, .ok fragment) :: watched.answers⟩ := by
  have asked : (Rendering.compiled environment view : Render σ String) watched.state =
      .ok fragment { watched.state with stored := stored } := by
    change Render.compiled environment view watched.state = _
    rw [Render.compiled, handed]
  change compiled environment view views watched = _
  rw [compiled, lift, handed, asked]

theorem compiled_of_error {cause : Cause}
    (handed : environment.store.compiled view watched.state.stored = (.error cause, stored)) :
    (Rendering.compiled environment view : Watched σ String) views watched =
      .error (.failed ⟨Error.ofCause cause, Error.ofCause cause, views⟩)
        ⟨{ watched.state with stored := stored }, (view, .error cause) :: watched.answers⟩ := by
  have asked : (Rendering.compiled environment view : Render σ String) watched.state =
      .error (.failed (Error.ofCause cause)) { watched.state with stored := stored } := by
    change Render.compiled environment view watched.state = _
    rw [Render.compiled, handed]
  change compiled environment view views watched = _
  rw [compiled, lift, handed, asked]

end Answers

end Runs

/-! ## What the plain rendering does -/

/-- Apart from what is watched, the two renderings do the same. -/
def Erases (rendering : Watched σ α) (plain : Render σ α) : Prop :=
  ∀ views watched, plain watched.state = WatchedOutcome.erased (rendering views watched)

theorem erases_lift (rendering : Render σ α) : Erases (lift rendering) rendering := by
  intro views watched
  unfold lift
  rcases rendering watched.state with ⟨result, reached⟩ | ⟨error | _, reached⟩ <;> rfl

theorem erases_bind {rendering : Watched σ α} {plain : Render σ α} {next : α → Watched σ β}
    {nextPlain : α → Render σ β} (first : Erases rendering plain)
    (second : ∀ result, Erases (next result) (nextPlain result)) :
    Erases (rendering >>= next) (plain >>= nextPlain) := by
  intro views watched
  change EStateM.bind plain nextPlain watched.state =
    WatchedOutcome.erased
      (EStateM.bind (rendering views) (fun result => next result views) watched)
  have same := first views watched
  unfold EStateM.bind
  rw [same]
  rcases rendering views watched with ⟨result, reached⟩ | ⟨raised | _, reached⟩
  · exact second result views reached
  · rfl
  · rfl

theorem erases_mapError (change : Error → Error) {rendering : Watched σ α} {plain : Render σ α}
    (erases : Erases rendering plain) :
    Erases (Rendering.mapError change rendering) (Rendering.mapError change plain) := by
  intro views watched
  have same := erases ((Error.viewGivenBy change).toList ++ views) watched
  change Outcome.mapError change (plain watched.state) =
    WatchedOutcome.erased (WatchedOutcome.mapError change (rendering _ watched))
  rw [same]
  rcases rendering _ watched with ⟨result, reached⟩ | ⟨raised | _, reached⟩ <;> rfl

theorem erases_framed {body : Nat → Watched σ α} {plain : Nat → Render σ α}
    (bodies : ∀ base, Erases (body base) (plain base)) :
    Erases (Rendering.framed body) (Rendering.framed plain) := by
  intro views watched
  have same := bodies watched.state.sections.depth views watched
  change Outcome.mapReached _ (plain watched.state.sections.depth watched.state) =
    WatchedOutcome.erased
      (WatchedOutcome.mapReached _ (body watched.state.sections.depth views watched))
  rw [same]
  rcases body _ views watched with ⟨result, reached⟩ | ⟨raised | _, reached⟩ <;> rfl

theorem erases_compiled (environment : Environment σ) (view : String) :
    Erases (Rendering.compiled environment view) (Rendering.compiled environment view) :=
  fun views watched =>
    let answer := (environment.store.compiled view watched.state.stored).1
    erases_lift (Rendering.compiled environment view) views
      { watched with answers := (view, answer) :: watched.answers }

theorem erases_ofExcept (result : Except Error α) :
    Erases (Rendering.ofExcept result : Watched σ α) (Rendering.ofExcept result) := by
  cases result with
  | ok result => exact fun _ _ => rfl
  | error error => exact erases_lift _

theorem erases_freshProgram (view fragment : String) :
    Erases (Rendering.freshProgram view fragment : Watched σ Fragment.Program)
      (Rendering.freshProgram view fragment) := by
  unfold Rendering.freshProgram
  cases Fragment.Program.compile fragment with
  | ok program => exact erases_bind (erases_lift _) fun _ _ _ => rfl
  | error error => exact erases_lift _

/-- Watching changes nothing. -/
def erasure (σ : Type) : Rendering.ViewRelation σ (Watched σ) (Render σ) where
  Index := Nat
  left := id
  right := id
  Inner _ := True
  Same e₁ e₂ := e₁ = e₂
  Holds _ _ rendering plain := Erases rendering plain
  same_unlocated _ _ := rfl
  same_refl _ := rfl
  pure _ _ := fun _ _ => rfl
  bind := erases_bind
  fail same := same ▸ erases_lift _
  exhaust _ := erases_lift _
  mapError view := erases_mapError (Error.inView view)
  programOf _ environment view :=
    Rendering.programOf_of_steps Erases (fun _ _ _ => rfl) erases_bind
      (erases_compiled environment view) (erases_lift _) (erases_freshProgram view)
  contains _ _ _ := erases_lift _
  content _ _ := erases_lift _
  start _ _ := erases_lift _
  extend _ _ _ := erases_lift _
  close _ same := same ▸ erases_lift _
  write _ _ := erases_lift _
  unclosed _ := erases_lift _
  framed bodies := erases_framed fun base => bodies base trivial

theorem erases_render (view : View) (environment : Environment σ) (fuel : Nat) :
    Erases (view.render environment fuel) (view.render environment fuel) :=
  erases_bind (erases_ofExcept view.data) fun data =>
    (erasure σ).renderAt environment (Or.inl rfl) _ Nat.zero view.name data

end Watched

end ViewTemplate
