import ViewTemplate.Proofs.Execution
import ViewTemplate.Proofs.Relation

/-!
The programs that are kept. Each is the one that its source compiles to, and rendering keeps it so
(`coherent_render`); so it makes no difference whether a program was kept.
-/

namespace ViewTemplate

open Fragment

section Fragments

variable {σ : Type} {m : Type → Type} [Rendering σ m]

/-- The program of a fragment. -/
def Rendering.compileFragment (fragment : String) : m Program :=
  Rendering.ofExcept <| (Program.compile fragment).mapError fun error =>
    Error.located (.malformed error.fault) fragment error.span

/-- Renders a fragment as a view is rendered that has this fragment. -/
def Environment.renderFragment (environment : Environment σ) (fuel levels : Nat)
    (view fragment : String) (parameters : Entries Value) : m String :=
  Rendering.mapError (Error.inView view) do
    let program ← Rendering.compileFragment fragment
    environment.renderProgram (environment.renderAt fuel levels) fuel program
      (environment.variablesFor view parameters)

end Fragments

theorem Environment.renderFragment_of_compile {σ : Type} {environment : Environment σ}
    {fuel levels : Nat} {view fragment output : String} {parameters : Entries Value}
    {program : Program} {state reached : RenderState σ}
    (compiled : Program.compile fragment = .ok program)
    (rendered : (environment.renderProgram (environment.renderAt fuel levels) fuel program
      (environment.variablesFor view parameters) : Render σ String) state = .ok output reached) :
    (environment.renderFragment fuel levels view fragment parameters : Render σ String) state =
      .ok output reached := by
  rw [Environment.renderFragment, Rendering.compileFragment, compiled]
  exact congrArg (Outcome.mapError (Error.inView view)) rendered

/-- The programs that were kept are the ones that their sources compile to. -/
def RenderState.Coherent {σ : Type} (state : RenderState σ) : Prop :=
  ∀ view program, state.programs.lookup view = some program →
    Program.compile program.source = .ok program

namespace RenderState.Coherent

variable {σ : Type} {state : RenderState σ} (coherent : state.Coherent)

include coherent

theorem keep (view : String) {program : Program}
    (compiled : Program.compile program.source = .ok program) :
    RenderState.Coherent { state with programs := Entries.put view program state.programs } := by
  intro other kept found
  rw [Entries.lookup_put] at found
  split at found
  · cases found
    exact compiled
  · exact coherent other kept found

/-- The program of a view is the one that its fragment compiles to, whether it was kept or not. -/
theorem programOf {environment : Environment σ} {view fragment : String} {stored : σ}
    (handed : environment.store.compiled view state.stored = (.ok fragment, stored)) :
    ∃ programs,
      RenderState.Coherent { state with stored := stored, programs := programs } ∧
        (Rendering.programOf environment view : Render σ Program) state =
          (Rendering.compileFragment fragment : Render σ Program)
            { state with stored := stored, programs := programs } := by
  have fresh : ∃ programs,
      RenderState.Coherent { state with stored := stored, programs := programs } ∧
        (Rendering.freshProgram view fragment : Render σ Program) { state with stored := stored } =
          (Rendering.compileFragment fragment : Render σ Program)
            { state with stored := stored, programs := programs } := by
    unfold Rendering.freshProgram Rendering.compileFragment
    cases compiled : Program.compile fragment with
    | ok program =>
        exact ⟨_, coherent.keep view (Program.source_of_compile compiled ▸ compiled), rfl⟩
    | error error => exact ⟨state.programs, coherent, rfl⟩
  have asked : (Rendering.compiled environment view : Render σ String) state =
      .ok fragment { state with stored := stored } := by
    change Render.compiled environment view state = _
    rw [Render.compiled, handed]
  have looked : (Rendering.kept? view : Render σ (Option Program)) { state with stored := stored } =
      .ok (state.programs.lookup view) { state with stored := stored } := rfl
  rw [Rendering.programOf, Render.bind_of_ok asked, Render.bind_of_ok looked]
  cases found : state.programs.lookup view with
  | none => exact fresh
  | some former =>
      dsimp only
      by_cases same : former.source = fragment
      · have again := coherent view former found
        rw [same] at again
        rw [if_pos same]
        refine ⟨state.programs, coherent, ?_⟩
        rw [Rendering.compileFragment, again]
        rfl
      · rw [if_neg same]
        exact fresh

/-- A view is rendered as its fragment is. -/
theorem renderAt {environment : Environment σ} {view fragment : String} {stored : σ}
    (handed : environment.store.compiled view state.stored = (.ok fragment, stored))
    (fuel levels : Nat) (parameters : Entries Value) :
    ∃ programs,
      RenderState.Coherent { state with stored := stored, programs := programs } ∧
        (environment.renderAt fuel (levels + 1) view parameters : Render σ String) state =
          (environment.renderFragment fuel levels view fragment parameters : Render σ String)
            { state with stored := stored, programs := programs } := by
  obtain ⟨programs, kept, same⟩ := coherent.programOf handed
  refine ⟨programs, kept, congrArg (Outcome.mapError (Error.inView view)) ?_⟩
  change EStateM.bind _ _ _ = EStateM.bind _ _ _
  rw [EStateM.bind, same, EStateM.bind]

end RenderState.Coherent

/-! ## Coherence of renderings -/

namespace Render

variable {σ α β : Type}

/-- A rendering leaves coherent states coherent, however it ends. -/
def KeepsCoherent (rendering : Render σ α) : Prop :=
  ∀ state, state.Coherent → (Outcome.reached (rendering state)).Coherent

theorem keepsCoherent_of_programs {rendering : Render σ α}
    (same : ∀ state, (Outcome.reached (rendering state)).programs = state.programs) :
    KeepsCoherent rendering := by
  intro state coherent view program found
  rw [same] at found
  exact coherent view program found

theorem KeepsCoherent.bind {rendering : Render σ α} {next : α → Render σ β}
    (first : KeepsCoherent rendering) (second : ∀ result, KeepsCoherent (next result)) :
    KeepsCoherent (rendering >>= next) := by
  intro state coherent
  have middle := first state coherent
  change (Outcome.reached (EStateM.bind rendering next state)).Coherent
  unfold EStateM.bind
  cases ended : rendering state with
  | ok result reached =>
      rw [ended] at middle
      exact second result reached middle
  | error interrupt reached =>
      rw [ended] at middle
      exact middle

theorem keepsCoherent_freshProgram (view fragment : String) :
    KeepsCoherent (Rendering.freshProgram view fragment : Render σ Program) := by
  unfold Rendering.freshProgram
  cases compiled : Program.compile fragment with
  | ok program =>
      intro state coherent
      exact coherent.keep view (Program.source_of_compile compiled ▸ compiled)
  | error error => exact keepsCoherent_of_programs fun _ => rfl

theorem keepsCoherent_compiled (environment : Environment σ) (view : String) :
    KeepsCoherent (Rendering.compiled environment view : Render σ String) := by
  refine keepsCoherent_of_programs fun state => ?_
  change (Outcome.reached (Render.compiled environment view state)).programs = _
  unfold Render.compiled
  split <;> rfl

theorem keepsCoherent_close (closing : Closing) (base : Nat) (missing : Error) :
    KeepsCoherent (Rendering.close closing base missing : Render σ String) := by
  refine keepsCoherent_of_programs fun state => ?_
  change (Outcome.reached (Render.close closing base missing state)).programs = _
  unfold Render.close
  split <;> rfl

theorem keepsCoherent_write (base : Nat) (text : String) :
    KeepsCoherent (Rendering.write base text : Render σ Bool) := by
  refine keepsCoherent_of_programs fun state => ?_
  change (Outcome.reached (Render.write base text state)).programs = _
  unfold Render.write
  split <;> rfl

theorem keepsCoherent_mapError (change : Error → Error) {rendering : Render σ α}
    (keeps : KeepsCoherent rendering) : KeepsCoherent (Rendering.mapError change rendering) := by
  intro state coherent
  have after := keeps state coherent
  change (Outcome.reached (Outcome.mapError change (rendering state))).Coherent
  cases ended : rendering state with
  | ok result reached =>
      rw [ended] at after
      exact after
  | error interrupt reached =>
      rw [ended] at after
      cases interrupt <;> exact after

theorem keepsCoherent_framed {body : Nat → Render σ α}
    (keeps : ∀ base, KeepsCoherent (body base)) : KeepsCoherent (Rendering.framed body) := by
  intro state coherent
  have after := keeps state.sections.depth state coherent
  change (Outcome.reached (Outcome.mapReached _ (body state.sections.depth state))).Coherent
  cases ended : body state.sections.depth state <;>
    · rw [ended] at after
      exact after

/-- Coherence is kept by all that renderings are made of. -/
def coherence (σ : Type) : Rendering.ViewRelation σ (Render σ) (Render σ) where
  Index := Nat
  left := id
  right := id
  Inner _ := True
  Same _ _ := True
  Holds _ _ rendering _ := KeepsCoherent rendering
  same_unlocated _ _ := trivial
  same_refl _ := trivial
  pure _ _ := keepsCoherent_of_programs fun _ => rfl
  bind := KeepsCoherent.bind
  fail _ := keepsCoherent_of_programs fun _ => rfl
  exhaust _ := keepsCoherent_of_programs fun _ => rfl
  mapError view := keepsCoherent_mapError (Error.inView view)
  programOf _ environment view :=
    Rendering.programOf_of_steps (fun rendering _ => KeepsCoherent rendering)
      (fun _ => keepsCoherent_of_programs fun _ => rfl) KeepsCoherent.bind
      (keepsCoherent_compiled environment view) (keepsCoherent_of_programs fun _ => rfl)
      (keepsCoherent_freshProgram view)
  contains _ _ _ := keepsCoherent_of_programs fun _ => rfl
  content _ _ := keepsCoherent_of_programs fun _ => rfl
  start _ _ := keepsCoherent_of_programs fun _ => rfl
  extend _ _ _ := keepsCoherent_of_programs fun _ => rfl
  close closing _ := keepsCoherent_close closing _ _
  write text _ := keepsCoherent_write _ text
  unclosed _ := keepsCoherent_of_programs fun _ => rfl
  framed bodies := keepsCoherent_framed fun base => bodies base trivial

/-- Rendering keeps the programs coherent, however it ends. -/
theorem coherent_render (view : View) (environment : Environment σ) (fuel : Nat)
    {state : RenderState σ} (coherent : state.Coherent) :
    (Outcome.reached ((view.render environment fuel : Render σ String) state)).Coherent := by
  have data : KeepsCoherent (Rendering.ofExcept view.data : Render σ (Entries Value)) := by
    cases view.data <;> exact keepsCoherent_of_programs fun _ => rfl
  have keeps : KeepsCoherent (view.render environment fuel : Render σ String) :=
    data.bind fun parameters =>
      (coherence σ).renderAt environment (Or.inl rfl) _ state.sections.depth view.name parameters
  exact keeps state coherent

end Render

end ViewTemplate
