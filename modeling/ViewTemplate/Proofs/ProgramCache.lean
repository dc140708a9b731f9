import ViewTemplate.Proofs.Coherence

/-!
The programs that an environment keeps cannot be observed. Rendering without them compiles the
fragment of a view whenever the view is rendered; from states with the same store and the same
sections it ends like rendering with them (`relation`). So no sequence of changes to the store, of
changes to the environment and of renderings tells the two apart (`history_agrees`).
-/

namespace ViewTemplate

open Fragment

/-! ## Rendering without kept programs -/

/-- A rendering with a result of type `α` that keeps no program and finds none kept. -/
def Uncached (σ α : Type) : Type :=
  Render σ α

namespace Uncached

variable {σ α β : Type}

/-- A plain rendering as one without kept programs. -/
def ofRender (rendering : Render σ α) : Uncached σ α :=
  rendering

instance : Monad (Uncached σ) :=
  inferInstanceAs (Monad (Render σ))

instance : Rendering σ (Uncached σ) where
  fail error := ofRender (Rendering.fail error)
  exhaust := ofRender Rendering.exhaust
  mapError change rendering := fun state => Outcome.mapError change (rendering state)
  compiled environment view := ofRender (Rendering.compiled environment view)
  contains environment view := ofRender (Rendering.contains environment view)
  kept? _ := pure none
  keep _ _ := pure ()
  content name := ofRender (Rendering.content name)
  start name := ofRender (Rendering.start name)
  extend name text := ofRender (Rendering.extend name text)
  close closing base missing := ofRender (Rendering.close closing base missing)
  write base text := ofRender (Rendering.write base text)
  unclosed? base := ofRender (Rendering.unclosed? base)
  framed body := fun state =>
    let base := state.sections.depth
    Outcome.mapReached (RenderState.truncate base) (body base state)

/-! ## Agreement -/

/-- States with the same store and the same sections; the programs kept in the first are the ones
that their sources compile to. -/
structure Corresponds (cached plain : RenderState σ) : Prop where
  coherent : cached.Coherent
  stored : plain.stored = cached.stored
  sections : plain.sections = cached.sections

theorem Corresponds.eq_with {cached plain : RenderState σ} (states : Corresponds cached plain) :
    plain = { cached with programs := plain.programs } := by
  obtain ⟨stored, programs, sections⟩ := plain
  obtain ⟨-, rfl, rfl⟩ := states
  rfl

/-- Outcomes with the same result or the same interruption, in corresponding states. -/
inductive SameOutcome : Outcome σ α → Outcome σ α → Prop
  | ok (result : α) {cached plain : RenderState σ} (states : Corresponds cached plain) :
      SameOutcome (.ok result cached) (.ok result plain)
  | error (interrupt : Interrupt) {cached plain : RenderState σ}
      (states : Corresponds cached plain) :
      SameOutcome (.error interrupt cached) (.error interrupt plain)

/-- A rendering with kept programs ends like one without, from corresponding states. -/
def Agrees (cached : Render σ α) (plain : Uncached σ α) : Prop :=
  ∀ first second, Corresponds first second → SameOutcome (cached first) (plain second)

/-- A rendering that neither reads the kept programs nor changes them. -/
def IgnoresPrograms (rendering : Render σ α) : Prop :=
  ∀ programs state, rendering { state with programs := programs } =
    Outcome.mapReached (fun reached => { reached with programs := programs }) (rendering state)

theorem agrees_of_ignores {rendering : Render σ α} (ignores : IgnoresPrograms rendering) :
    Agrees rendering (ofRender rendering) := by
  intro first second states
  have own : rendering first = Outcome.mapReached
      (fun reached => { reached with programs := first.programs }) (rendering first) :=
    ignores first.programs first
  have other : rendering second = Outcome.mapReached
      (fun reached => { reached with programs := second.programs }) (rendering first) := by
    rw [states.eq_with]
    exact ignores second.programs first
  change SameOutcome (rendering first) (rendering second)
  rw [other, own]
  cases rendering first with
  | ok result reached => exact .ok result ⟨states.coherent, rfl, rfl⟩
  | error interrupt reached => exact .error interrupt ⟨states.coherent, rfl, rfl⟩

theorem agrees_bind {cached : Render σ α} {plain : Uncached σ α} {next₁ : α → Render σ β}
    {next₂ : α → Uncached σ β} (first : Agrees cached plain)
    (second : ∀ result, Agrees (next₁ result) (next₂ result)) :
    Agrees (cached >>= next₁) (plain >>= next₂) := by
  intro left right states
  have same := first left right states
  change SameOutcome (EStateM.bind cached next₁ left) (EStateM.bind plain next₂ right)
  unfold EStateM.bind
  generalize cached left = outcome₁ at same ⊢
  generalize plain right = outcome₂ at same ⊢
  cases same with
  | ok result states => exact second result _ _ states
  | error interrupt states => exact .error interrupt states

theorem agrees_mapError (change : Error → Error) {cached : Render σ α} {plain : Uncached σ α}
    (agrees : Agrees cached plain) :
    Agrees (Rendering.mapError change cached) (Rendering.mapError change plain) := by
  intro left right states
  have same := agrees left right states
  change SameOutcome (Outcome.mapError change (cached left)) (Outcome.mapError change (plain right))
  generalize cached left = outcome₁ at same ⊢
  generalize plain right = outcome₂ at same ⊢
  cases same with
  | ok result states => exact .ok result states
  | error interrupt states => cases interrupt <;> exact .error _ states

theorem agrees_framed {body₁ : Nat → Render σ α} {body₂ : Nat → Uncached σ α}
    (bodies : ∀ base, Agrees (body₁ base) (body₂ base)) :
    Agrees (Rendering.framed body₁) (Rendering.framed body₂) := by
  intro left right states
  have same := bodies left.sections.depth left right states
  have depths : right.sections.depth = left.sections.depth :=
    congrArg Sections.depth states.sections
  change SameOutcome
    (Outcome.mapReached (RenderState.truncate left.sections.depth)
      (body₁ left.sections.depth left))
    (Outcome.mapReached (RenderState.truncate right.sections.depth)
      (body₂ right.sections.depth right))
  rw [depths]
  have truncate {cached plain : RenderState σ} (base : Nat) (states : Corresponds cached plain) :
      Corresponds (cached.truncate base) (plain.truncate base) :=
    ⟨states.coherent, states.stored, congrArg (Sections.truncate base) states.sections⟩
  generalize body₁ left.sections.depth left = outcome₁ at same ⊢
  generalize body₂ left.sections.depth right = outcome₂ at same ⊢
  cases same with
  | ok result states => exact .ok result (truncate _ states)
  | error interrupt states => exact .error interrupt (truncate _ states)

/-! ### Operations -/

theorem ignores_close (closing : Closing) (base : Nat) (missing : Error) :
    IgnoresPrograms (Rendering.close closing base missing : Render σ String) := by
  intro programs state
  change Render.close closing base missing _ =
    Outcome.mapReached _ (Render.close closing base missing state)
  unfold Render.close
  dsimp only
  cases if base < state.sections.depth then state.sections.close? closing else none <;> rfl

theorem ignores_write (base : Nat) (text : String) :
    IgnoresPrograms (Rendering.write base text : Render σ Bool) := by
  intro programs state
  change Render.write base text _ = Outcome.mapReached _ (Render.write base text state)
  unfold Render.write
  dsimp only
  cases if base < state.sections.depth then state.sections.write? text else none <;> rfl

theorem agrees_ofExcept (result : Except Error α) :
    Agrees (Rendering.ofExcept result : Render σ α) (Rendering.ofExcept result) := by
  cases result <;> exact agrees_of_ignores fun _ _ => rfl

/-- Without kept programs, the program of a view is what its fragment compiles to. -/
theorem programOf_eq (environment : Environment σ) (view : String) :
    (Rendering.programOf environment view : Uncached σ Program) =
      ofRender (Rendering.compiled environment view >>= Rendering.compileFragment) := by
  have fresh (fragment : String) :
      (Rendering.freshProgram view fragment : Uncached σ Program) =
        ofRender (Rendering.compileFragment fragment) := by
    unfold Rendering.freshProgram Rendering.compileFragment
    cases Program.compile fragment <;> rfl
  exact congrArg (EStateM.bind (Rendering.compiled environment view : Render σ String))
    (funext fresh)

theorem agrees_programOf (environment : Environment σ) (view : String) :
    Agrees (Rendering.programOf environment view) (Rendering.programOf environment view) := by
  intro first second states
  rw [programOf_eq]
  have asked : ((Rendering.compiled environment view : Render σ String) second) =
      Render.compiled environment view second := rfl
  rw [Render.compiled, states.stored] at asked
  rcases handed : environment.store.compiled view first.stored with ⟨cause | fragment, stored⟩
  · rw [handed] at asked
    have refused : (Rendering.compiled environment view : Render σ String) first =
        .error (.failed (Error.ofCause cause)) { first with stored := stored } := by
      change Render.compiled environment view first = _
      rw [Render.compiled, handed]
    rw [Rendering.programOf, Render.bind_of_error refused, ofRender, Render.bind_of_error asked]
    exact .error _ ⟨states.coherent, rfl, states.sections⟩
  · rw [handed] at asked
    obtain ⟨programs, coherent, same⟩ := states.coherent.programOf handed
    rw [same, ofRender, Render.bind_of_ok asked]
    exact agrees_ofExcept _ _ _ ⟨coherent, rfl, states.sections⟩

/-- Rendering without kept programs ends like rendering with them. -/
def relation (σ : Type) : Rendering.ViewRelation σ (Render σ) (Uncached σ) where
  Index := Nat
  left := id
  right := id
  Inner _ := True
  Same e₁ e₂ := e₁ = e₂
  Holds _ _ cached plain := Agrees cached plain
  same_unlocated _ _ := rfl
  same_refl _ := rfl
  pure _ result := @agrees_of_ignores _ _ (Pure.pure result) fun _ _ => rfl
  bind := agrees_bind
  fail same := same ▸ agrees_of_ignores fun _ _ => rfl
  exhaust _ := agrees_of_ignores fun _ _ => rfl
  mapError view := agrees_mapError (Error.inView view)
  programOf _ := agrees_programOf
  contains _ _ _ := agrees_of_ignores fun _ _ => rfl
  content _ _ := agrees_of_ignores fun _ _ => rfl
  start _ _ := agrees_of_ignores fun _ _ => rfl
  extend _ _ _ := agrees_of_ignores fun _ _ => rfl
  close closing same := same ▸ agrees_of_ignores (ignores_close closing _ _)
  write text _ := agrees_of_ignores (ignores_write _ text)
  unclosed _ := agrees_of_ignores fun _ _ => rfl
  framed bodies := agrees_framed fun base => bodies base trivial

end Uncached

def Outcome.ending {σ α : Type} : Outcome σ α → Except Interrupt α
  | .ok result _ => .ok result
  | .error interrupt _ => .error interrupt

/-- The program that the fragment compiles to that a store hands out, or the error of that. -/
def Environment.programAnew {σ : Type} (environment : Environment σ) (view : String) (stored : σ) :
    Except Interrupt Program :=
  match (environment.store.compiled view stored).1 with
  | .error cause => .error (.failed (Error.ofCause cause))
  | .ok fragment =>
      match Program.compile fragment with
      | .ok program => .ok program
      | .error error =>
          .error (.failed (Error.located (.malformed error.fault) fragment error.span))

theorem RenderState.Coherent.ending_programOf {σ : Type} {state : RenderState σ}
    (coherent : state.Coherent) (environment : Environment σ) (view : String) :
    Outcome.ending ((Rendering.programOf environment view : Render σ Program) state) =
      environment.programAnew view state.stored := by
  unfold Environment.programAnew
  rcases handed : environment.store.compiled view state.stored with ⟨cause | fragment, stored⟩
  · have refused : (Rendering.compiled environment view : Render σ String) state =
        .error (.failed (Error.ofCause cause)) { state with stored := stored } := by
      change Render.compiled environment view state = _
      rw [Render.compiled, handed]
    rw [Rendering.programOf, Render.bind_of_error refused]
    rfl
  · obtain ⟨programs, -, same⟩ := coherent.programOf handed
    rw [same, Rendering.compileFragment]
    dsimp only
    cases Program.compile fragment <;> rfl

/-! ## Histories -/

/-- What is asked of an environment. -/
inductive Request where
  | get (view : View) (fuel : Nat)
  | showEach (view : String) (collection : Value) (iterator : String) (empty : Option String)
      (fuel : Nat)
  /-- A view inside others, with the levels that are left for it. -/
  | nested (levels : Nat) (view : String) (parameters : Entries Value) (fuel : Nat)

def Request.rendering {σ : Type} {m : Type → Type} [Rendering σ m] (environment : Environment σ) :
    Request → m String
  | .get view fuel => view.render environment fuel
  | .showEach view collection iterator empty fuel =>
      environment.showEach fuel view collection iterator empty
  | .nested levels view parameters fuel => environment.renderAt fuel levels view parameters

/-- A relation between renderings holds of whatever is asked. -/
theorem Rendering.ViewRelation.request {σ : Type} {m n : Type → Type} [Rendering σ m]
    [Rendering σ n] (R : Rendering.ViewRelation σ m n) (i : R.Index)
    (environment : Environment σ) (request : Request) :
    R.Holds i (request.rendering environment) (request.rendering environment) := by
  have nested (fuel levels : Nat) (view : String) (parameters : Entries Value) :
      R.Holds i (environment.renderAt fuel levels view parameters)
        (environment.renderAt fuel levels view parameters) :=
    R.renderAt environment (Or.inl rfl) levels i view parameters
  cases request with
  | nested levels view parameters fuel =>
      rw [Request.rendering, Request.rendering]
      exact nested fuel levels view parameters
  | get view fuel =>
      rw [Request.rendering, Request.rendering, View.render, View.render]
      refine R.bind (Relation.ofExcept ?_) fun parameters => nested fuel _ view.name parameters
      cases view.data with
      | ok data => exact .ok data
      | error error => exact .error (R.same_refl error)
  | showEach view collection iterator empty fuel =>
      have contexts : R.Contexts i id ⟨environment, "", R.left i, environment.renderTop fuel⟩
          ⟨environment, "", R.right i, environment.renderTop fuel⟩ :=
        { environment := rfl
          left := rfl
          right := rfl
          errors := fun _ _ => R.same_refl _
          enter := nested fuel _ }
      rw [Request.rendering, Request.rendering, Environment.showEach, Environment.showEach]
      exact Relation.showEach contexts view collection iterator _

theorem Uncached.agrees_rendering {σ : Type} (environment : Environment σ) (request : Request) :
    Agrees (request.rendering environment) (request.rendering environment) :=
  (relation σ).request Nat.zero environment request

/-- What happens to an environment and its store. -/
inductive WorldEvent (σ : Type) where
  /-- Views are put into the store, replaced or removed. -/
  | change (alter : σ → σ)
  /-- Data is shared, functions and composers are added or the limit is set. -/
  | setUp (alter : Environment σ → Environment σ)
  | ask (request : Request) (sections : Sections)

/-- An environment, its store and the programs that it keeps. -/
structure World (σ : Type) where
  environment : Environment σ
  stored : σ
  programs : Entries Program

/-- How a request ended and the sections that it left. -/
abbrev Observation : Type :=
  Except Interrupt String × Sections

/-- What a request comes to in an environment that keeps programs. -/
def Request.cached {σ : Type} (request : Request) (environment : Environment σ) :
    RenderState σ → Outcome σ String :=
  (request.rendering environment : Render σ String)

/-- What a request comes to in an environment that compiles the fragments of views each time. -/
def Request.anew {σ : Type} (request : Request) (environment : Environment σ) :
    RenderState σ → Outcome σ String :=
  (request.rendering environment : Uncached σ String)

namespace World

variable {σ : Type}

/-- A world in which nothing has been rendered. -/
def initial (environment : Environment σ) (stored : σ) : World σ :=
  ⟨environment, stored, []⟩

/-- The state in which a rendering with given sections begins. -/
def state (sections : Sections) (world : World σ) : RenderState σ :=
  ⟨world.stored, world.programs, sections⟩

/-- What can be observed of an event, and the world afterwards. -/
def perform (answers : Request → Environment σ → RenderState σ → Outcome σ String)
    (world : World σ) : WorldEvent σ → Option Observation × World σ
  | .change alter => (none, { world with stored := alter world.stored })
  | .setUp alter => (none, { world with environment := alter world.environment })
  | .ask request sections =>
      let outcome := answers request world.environment (world.state sections)
      let reached := outcome.reached
      (some (outcome.ending, reached.sections),
        { world with stored := reached.stored, programs := reached.programs })

/-- What is observed of a number of events, and the world afterwards. A client chooses each event by
what was observed before. -/
def history (answers : Request → Environment σ → RenderState σ → Outcome σ String)
    (client : List (Option Observation) → WorldEvent σ) (world : World σ) :
    (count : Nat) → List (Option Observation) × World σ
  | 0 => ([], world)
  | count + 1 =>
      let (seen, reached) := world.history answers client count
      let (observed, next) := reached.perform answers (client seen)
      (seen ++ [observed], next)

/-- Worlds that differ in the programs that they keep at most; those in the first are the ones that
their sources compile to. -/
structure Matches (cached plain : World σ) : Prop where
  environment : plain.environment = cached.environment
  states (sections : Sections) :
    Uncached.Corresponds (cached.state sections) (plain.state sections)

namespace Matches

variable {cached plain : World σ}

theorem initial (environment : Environment σ) (stored : σ) :
    Matches (World.initial environment stored) (World.initial environment stored) where
  environment := rfl
  states sections := by
    refine ⟨?_, rfl, rfl⟩
    intro view program found
    cases found

theorem perform_ask (worlds : Matches cached plain) (request : Request) (sections : Sections) :
    (cached.perform Request.cached (.ask request sections)).1 =
        (plain.perform Request.anew (.ask request sections)).1 ∧
      Matches (cached.perform Request.cached (.ask request sections)).2
        (plain.perform Request.anew (.ask request sections)).2 := by
  have agrees := Uncached.agrees_rendering cached.environment request
  have same : Uncached.SameOutcome
      (request.cached cached.environment (cached.state sections))
      (request.anew cached.environment (plain.state sections)) :=
    agrees _ _ (worlds.states sections)
  simp only [perform, worlds.environment]
  generalize request.cached cached.environment (cached.state sections) = outcome₁ at same ⊢
  generalize request.anew cached.environment (plain.state sections) = outcome₂ at same ⊢
  cases same with
  | ok result states =>
      refine ⟨?_, rfl, fun sections => ⟨states.coherent, states.stored, rfl⟩⟩
      simp only [Outcome.ending, Outcome.reached, states.sections]
  | error interrupt states =>
      refine ⟨?_, rfl, fun sections => ⟨states.coherent, states.stored, rfl⟩⟩
      simp only [Outcome.ending, Outcome.reached, states.sections]

/-- An event shows the same in matching worlds and leaves matching worlds. -/
theorem perform (worlds : Matches cached plain) (event : WorldEvent σ) :
    (cached.perform Request.cached event).1 = (plain.perform Request.anew event).1 ∧
      Matches (cached.perform Request.cached event).2 (plain.perform Request.anew event).2 := by
  cases event with
  | change alter =>
      refine ⟨rfl, worlds.environment, fun sections => ?_⟩
      have states := worlds.states sections
      exact ⟨states.coherent, congrArg alter states.stored, rfl⟩
  | setUp alter =>
      exact ⟨rfl, congrArg alter worlds.environment, worlds.states⟩
  | ask request sections => exact worlds.perform_ask request sections

theorem history (worlds : Matches cached plain)
    (client : List (Option Observation) → WorldEvent σ) (count : Nat) :
    (cached.history Request.cached client count).1 =
        (plain.history Request.anew client count).1 ∧
      Matches (cached.history Request.cached client count).2
        (plain.history Request.anew client count).2 := by
  induction count with
  | zero => exact ⟨rfl, worlds⟩
  | succ count inductionHypothesis =>
      obtain ⟨seen, reached⟩ := inductionHypothesis
      obtain ⟨observed, next⟩ := reached.perform
        (client (cached.history Request.cached client count).1)
      simp only [World.history]
      rw [← seen, observed]
      exact ⟨rfl, next⟩

end Matches

/-- No client can tell whether programs are kept, by whatever changes and requests: what is asked
gives the same output or the same error, and leaves the same sections. Each program that is kept is
the one that its source compiles to, and the program of a view is what the fragment compiles to that
the store hands out at that moment, or the error of that. -/
theorem history_agrees (environment : Environment σ) (stored : σ)
    (client : List (Option Observation) → WorldEvent σ) (count : Nat) :
    let cached := (initial environment stored).history Request.cached client count
    let anew := (initial environment stored).history Request.anew client count
    let reached := cached.2
    cached.1 = anew.1 ∧
      (∀ view program, reached.programs.lookup view = some program →
        Program.compile program.source = .ok program) ∧
      ∀ view sections,
        Outcome.ending ((Rendering.programOf reached.environment view : Render σ Program)
            (reached.state sections)) =
          reached.environment.programAnew view reached.stored := by
  intro cached anew reached
  obtain ⟨observed, worlds⟩ := (Matches.initial environment stored).history client count
  refine ⟨observed, (worlds.states Sections.empty).coherent, fun view sections => ?_⟩
  exact (worlds.states sections).coherent.ending_programOf _ view

end World

end ViewTemplate
