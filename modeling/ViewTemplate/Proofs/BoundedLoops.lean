import ViewTemplate.Proofs.Coherence
import ViewTemplate.Proofs.Compilation
import ViewTemplate.Proofs.MoreSteps

/-!
Rendering ends when the only loops are over the elements of lists and maps. Views may then be inside
each other in any way: with enough steps for each program, a rendering ends, and with more steps it
ends in the same way (`finishes_renderAt`).
-/

namespace ViewTemplate

open Fragment

/-! ## Bounded statements -/

namespace Fragment

mutual

/-- Whether all loops in a statement are over the elements of lists and maps. -/
def Statement.isBounded : Statement → Bool
  | .action _ => true
  | .branch _ thenBranch elseBranch => areBounded thenBranch && isBoundedElse elseBranch
  | .each _ _ body => areBounded body
  | .count .. | .repeat .. => false

def areBounded : List Statement → Bool
  | [] => true
  | statement :: statements => statement.isBounded && areBounded statements

def isBoundedElse : Option (List Statement) → Bool
  | none => true
  | some elseBranch => areBounded elseBranch

end

/-- Whether all loops in a fragment are over the elements of lists and maps. A fragment that is not
well-formed has none. -/
def isBoundedFragment (fragment : String) : Bool :=
  match parse fragment.toList with
  | .ok statements => areBounded statements
  | .error _ => true

end Fragment

/-- The states of a store that asking it for views leads to. -/
inductive Store.Reaches {σ : Type} (store : Store σ) (start : σ) : σ → Prop
  | start : Reaches store start start
  | asked {stored : σ} (reaches : Reaches store start stored) (view : String) :
      Reaches store start (store.compiled view stored).2

/-- In all fragments that the store hands out loops are over the elements of lists and maps. -/
def Environment.IsBounded {σ : Type} (environment : Environment σ) (start : σ) : Prop :=
  ∀ stored view fragment, environment.store.Reaches start stored →
    (environment.store.compiled view stored).1 = .ok fragment → isBoundedFragment fragment = true

/-! ## Executing bounded statements -/

namespace Rendering.Relation

variable {σ : Type} {m n : Type → Type} [Rendering σ m] [Rendering σ n]
  {R : Rendering.Relation σ m n} {i : R.Index}

theorem executeEach (binding : LoopVariables) {round₁ : Page → m Page} {round₂ : Page → n Page}
    (rounds : ∀ page, R.Holds i (round₁ page) (round₂ page)) (elements : List (Value × Value))
    (page : Page) :
    R.Holds i (RenderContext.executeEach binding round₁ elements page)
      (RenderContext.executeEach binding round₂ elements page) := by
  induction elements generalizing page with
  | nil => exact R.pure i page
  | cons element others inductionHypothesis =>
      exact R.bind (rounds _) fun after => inductionHypothesis after

section Execution

variable {c₁ : RenderContext σ m} {c₂ : RenderContext σ n}

mutual

/-- A bounded statement is executed without counting rounds. -/
theorem execute (inner : R.Inner i) (contexts : R.Contexts i id c₁ c₂) (rounds : Nat) :
    ∀ statement : Statement, statement.isBounded = true → ∀ page,
      R.Holds i (c₁.execute rounds statement page) (c₂.execute rounds statement page)
  | .action action, _, page => by
      have performed := perform inner contexts page action
      rwa [Instruction.perform.inj (Instruction.mapSpans_id (.perform action))] at performed
  | .branch condition thenBranch elseBranch, bounded, page => by
      obtain ⟨thenBounded, elseBounded⟩ := Bool.and_eq_true_iff.1 bounded
      have chosen := evaluate contexts page.scope condition
      rw [Expression.mapSpans_id] at chosen
      refine R.bind chosen fun value => ?_
      cases value.isTruthy with
      | true => exact executeAll inner contexts rounds thenBranch thenBounded page
      | false => exact executeElse inner contexts rounds elseBranch elseBounded page
  | .each binding iterable body, bounded, page => by
      have elements := loopElements contexts page.scope iterable
      rw [Expression.mapSpans_id] at elements
      refine R.bind elements fun elements => ?_
      exact executeEach binding (executeAll inner contexts rounds body bounded) elements page

theorem executeAll (inner : R.Inner i) (contexts : R.Contexts i id c₁ c₂) (rounds : Nat) :
    ∀ statements : List Statement, areBounded statements = true → ∀ page,
      R.Holds i (c₁.executeAll rounds statements page) (c₂.executeAll rounds statements page)
  | [], _, page => R.pure i page
  | statement :: statements, bounded, page => by
      obtain ⟨first, others⟩ := Bool.and_eq_true_iff.1 bounded
      exact R.bind (execute inner contexts rounds statement first page) fun after =>
        executeAll inner contexts rounds statements others after

theorem executeElse (inner : R.Inner i) (contexts : R.Contexts i id c₁ c₂) (rounds : Nat) :
    ∀ elseBranch : Option (List Statement), isBoundedElse elseBranch = true → ∀ page,
      R.Holds i (c₁.executeElse rounds elseBranch page) (c₂.executeElse rounds elseBranch page)
  | none, _, page => R.pure i page
  | some elseBranch, bounded, page =>
      executeAll inner contexts rounds elseBranch bounded page

end

end Execution
end Rendering.Relation

/-! ## Renderings by their steps -/

/-- A rendering by the number of steps that each program may take. -/
def Staged (σ α : Type) : Type :=
  Nat → Render σ α

/-- With enough steps, and with any more, the rendering ends with the outcome. -/
structure Staged.EndsWith {σ α : Type} (rendering : Staged σ α) (state : RenderState σ)
    (outcome : Outcome σ α) : Prop where
  settled : Outcome.Settled outcome
  enough : ∃ enough, ∀ fuel, enough ≤ fuel → rendering fuel state = outcome

namespace Staged

variable {σ α β : Type}

instance : Monad (Staged σ) :=
  inferInstanceAs (Monad (ReaderT Nat (Render σ)))

/-- A rendering that takes the same course with any number of steps. -/
def lift (rendering : Render σ α) : Staged σ α := fun _ =>
  rendering

instance : Rendering σ (Staged σ) where
  fail error := lift (Rendering.fail error)
  exhaust := lift Rendering.exhaust
  mapError change rendering := fun fuel => Rendering.mapError change (rendering fuel)
  compiled environment view := lift (Rendering.compiled environment view)
  contains environment view := lift (Rendering.contains environment view)
  kept? view := lift (Rendering.kept? view)
  keep view program := lift (Rendering.keep view program)
  content name := lift (Rendering.content name)
  start name := lift (Rendering.start name)
  extend name text := lift (Rendering.extend name text)
  close closing base missing := lift (Rendering.close closing base missing)
  write base text := lift (Rendering.write base text)
  unclosed? base := lift (Rendering.unclosed? base)
  framed body := fun fuel => Rendering.framed fun base => body base fuel

section Endings

variable {rendering : Staged σ α} {next : α → Staged σ β} {state reached : RenderState σ}

theorem EndsWith.bind_of_ok {result : α} {outcome : Outcome σ β}
    (first : rendering.EndsWith state (.ok result reached))
    (second : (next result).EndsWith reached outcome) :
    (rendering >>= next).EndsWith state outcome := by
  obtain ⟨enough₁, ends₁⟩ := first.enough
  obtain ⟨enough₂, ends₂⟩ := second.enough
  refine ⟨second.settled, max enough₁ enough₂, fun fuel enough => ?_⟩
  have ended := ends₁ fuel (Nat.le_trans (Nat.le_max_left ..) enough)
  exact (Render.bind_of_ok ended fun result => next result fuel).trans
    (ends₂ fuel (Nat.le_trans (Nat.le_max_right ..) enough))

theorem EndsWith.bind_of_error {interrupt : Interrupt}
    (first : rendering.EndsWith state (.error interrupt reached)) :
    (rendering >>= next).EndsWith state (.error interrupt reached) := by
  obtain ⟨enough, ends⟩ := first.enough
  refine ⟨?_, enough, fun fuel le => Render.bind_of_error (ends fuel le) _⟩
  cases interrupt with
  | failed error => trivial
  | exhausted => exact first.settled.elim

end Endings
end Staged

/-! ## Renderings that finish -/

/-- What renderings keep of a state: its programs are coherent, and the state of its store is one
that asking for views leads to. -/
structure RenderState.IsReached {σ : Type} (store : Store σ) (start : σ)
    (state : RenderState σ) : Prop where
  coherent : state.Coherent
  stored : store.Reaches start state.stored

theorem RenderState.IsReached.of_same {σ : Type} {store : Store σ} {start : σ}
    {state after : RenderState σ} (reached : state.IsReached store start)
    (stored : after.stored = state.stored) (programs : after.programs = state.programs) :
    after.IsReached store start := by
  refine ⟨?_, stored ▸ reached.stored⟩
  intro view program found
  rw [programs] at found
  exact reached.coherent view program found

/-- A rendering has ended, with the store and the programs as they were before. -/
structure Outcome.LeavesViews {σ α : Type} (state : RenderState σ) (outcome : Outcome σ α) :
    Prop where
  settled : Outcome.Settled outcome
  stored : (Outcome.reached outcome).stored = state.stored
  programs : (Outcome.reached outcome).programs = state.programs

namespace Render

variable {σ α : Type}

def LeavesViews (rendering : Render σ α) : Prop :=
  ∀ state, Outcome.LeavesViews state (rendering state)

theorem leavesViews_fail (error : Error) :
    LeavesViews (Rendering.fail error : Render σ α) :=
  fun _ => ⟨trivial, rfl, rfl⟩

theorem leavesViews_close (closing : Closing) (base : Nat) (missing : Error) :
    LeavesViews (Rendering.close closing base missing : Render σ String) := by
  intro state
  change Outcome.LeavesViews state (Render.close closing base missing state)
  unfold Render.close
  split <;> exact ⟨trivial, rfl, rfl⟩

theorem leavesViews_write (base : Nat) (text : String) :
    LeavesViews (Rendering.write base text : Render σ Bool) := by
  intro state
  change Outcome.LeavesViews state (Render.write base text state)
  unfold Render.write
  split <;> exact ⟨trivial, rfl, rfl⟩

end Render

namespace Staged

section Finishing

variable {σ : Type} (store : Store σ) (start : σ)

/-- From all states that are reached the rendering ends, in one that is reached, and if it has a
result, that has a property. -/
def Finishes {α : Type} (rendering : Staged σ α) (Good : α → Prop) : Prop :=
  ∀ state, state.IsReached store start → ∃ outcome, rendering.EndsWith state outcome ∧
    (Outcome.reached outcome).IsReached store start ∧
      ∀ result reached, outcome = .ok result reached → Good result

variable {store start} {α β : Type} {Good : α → Prop} {Better : β → Prop}

theorem finishes_lift {rendering : Render σ α} (leaves : rendering.LeavesViews)
    (good : ∀ state result reached, rendering state = .ok result reached → Good result) :
    Finishes store start (lift rendering) Good := by
  intro state reached
  obtain ⟨settled, stored, programs⟩ := leaves state
  exact ⟨rendering state, ⟨settled, 0, fun _ _ => rfl⟩, reached.of_same stored programs,
    good state⟩

theorem finishes_leaving {rendering : Render σ α} (leaves : rendering.LeavesViews) :
    Finishes store start (lift rendering) fun _ => True :=
  finishes_lift leaves fun _ _ _ _ => trivial

theorem finishes_pure (result : α) (good : Good result) :
    Finishes store start (pure result) Good :=
  finishes_lift (fun _ => ⟨trivial, rfl, rfl⟩) fun _ _ _ same => by
    cases same
    exact good

theorem Finishes.bind {rendering : Staged σ α} {next : α → Staged σ β}
    (first : Finishes store start rendering Good)
    (second : ∀ result, Good result → Finishes store start (next result) Better) :
    Finishes store start (rendering >>= next) Better := by
  intro state reached
  obtain ⟨outcome, ends, kept, good⟩ := first state reached
  cases outcome with
  | ok result middle =>
      obtain ⟨last, endsLater, later⟩ := second result (good result middle rfl) middle kept
      exact ⟨last, ends.bind_of_ok endsLater, later⟩
  | error interrupt middle => exact ⟨_, ends.bind_of_error, kept, fun _ _ same => by cases same⟩

/-- Renderings one after the other that are written with their steps. -/
theorem Finishes.bind_steps {rendering : Nat → Render σ α} {next : Nat → α → Render σ β}
    (first : Finishes store start rendering Good)
    (second : ∀ result, Good result →
      Finishes store start (fun fuel => next fuel result) Better) :
    Finishes store start (fun fuel => rendering fuel >>= next fuel) Better :=
  first.bind second

theorem Finishes.mapError {rendering : Staged σ α} (change : Error → Error)
    (finishes : Finishes store start rendering Good) :
    Finishes store start (Rendering.mapError change rendering) Good := by
  intro state reached
  obtain ⟨outcome, ⟨settled, enough, ends⟩, kept, good⟩ := finishes state reached
  refine ⟨Outcome.mapError change outcome, ⟨(Outcome.settled_mapError _ _).2 settled, enough,
    fun fuel le => congrArg (Outcome.mapError change) (ends fuel le)⟩, ?_⟩
  rcases outcome with ⟨result, middle⟩ | ⟨error | _, middle⟩
  · exact ⟨kept, good⟩
  · exact ⟨kept, fun _ _ same => by cases same⟩
  · exact settled.elim

theorem Finishes.framed {body : Nat → Staged σ α}
    (bodies : ∀ base, Finishes store start (body base) Good) :
    Finishes store start (Rendering.framed body) Good := by
  intro state reached
  obtain ⟨outcome, ⟨settled, enough, ends⟩, kept, good⟩ :=
    bodies state.sections.depth state reached
  refine ⟨Outcome.mapReached (RenderState.truncate state.sections.depth) outcome,
    ⟨(Outcome.settled_mapReached _ _).2 settled, enough,
      fun fuel le => congrArg (Outcome.mapReached _) (ends fuel le)⟩, ?_⟩
  cases outcome with
  | ok result middle =>
      refine ⟨RenderState.IsReached.of_same kept rfl rfl, fun last _ same => ?_⟩
      cases same
      exact good result middle rfl
  | error interrupt middle =>
      exact ⟨RenderState.IsReached.of_same kept rfl rfl, fun _ _ same => by cases same⟩

variable (store start)

/-- Whatever code does besides running out of steps, it finishes. The index is the number of steps
that each program inside may take, and the number of open captures. -/
def finishing : Rendering.Relation σ (Staged σ) (Render σ) where
  Index := Nat × Nat
  left := Prod.snd
  right := Prod.snd
  Inner _ := True
  Same e₁ e₂ := e₁ = e₂
  Holds i _ staged plain :=
    staged i.1 = plain ∧ Finishes store start staged fun _ => True
  same_unlocated _ _ := rfl
  pure _ result := ⟨rfl, finishes_pure result trivial⟩
  bind first second :=
    ⟨by
      obtain ⟨rfl, -⟩ := first
      exact congrArg (_ >>= ·) (funext fun result => (second result).1),
    first.2.bind fun result _ => (second result).2⟩
  fail same := ⟨by rw [same]; rfl, finishes_leaving (Render.leavesViews_fail _)⟩
  contains _ _ _ := ⟨rfl, finishes_leaving fun _ => ⟨trivial, rfl, rfl⟩⟩
  content _ _ := ⟨rfl, finishes_leaving fun _ => ⟨trivial, rfl, rfl⟩⟩
  start _ _ := ⟨rfl, finishes_leaving fun _ => ⟨trivial, rfl, rfl⟩⟩
  extend _ _ _ := ⟨rfl, finishes_leaving fun _ => ⟨trivial, rfl, rfl⟩⟩
  close closing same :=
    ⟨by rw [same]; rfl, finishes_leaving (Render.leavesViews_close closing _ _)⟩
  write text _ := ⟨rfl, finishes_leaving (Render.leavesViews_write _ text)⟩
  unclosed _ := ⟨rfl, finishes_leaving fun _ => ⟨trivial, rfl, rfl⟩⟩

variable {store start}

/-! ## Views that finish -/

section Views

variable {environment : Environment σ}

/-- The program has been compiled from bounded statements. -/
def IsBoundedProgram (program : Program) : Prop :=
  ∃ statements, areBounded statements = true ∧ program.instructions = instructionsOf statements

theorem finishes_programOf (bounded : environment.IsBounded start) (view : String) :
    Finishes environment.store start (lift (Rendering.programOf environment view))
      IsBoundedProgram := by
  intro state reached
  have stored : environment.store.Reaches start (environment.store.compiled view state.stored).2 :=
    .asked reached.stored view
  obtain ⟨outcome, same, ended⟩ : ∃ outcome,
      (Rendering.programOf environment view : Render σ Program) state = outcome ∧
        Outcome.Settled outcome ∧ (Outcome.reached outcome).IsReached environment.store start ∧
          ∀ program after, outcome = .ok program after → IsBoundedProgram program := by
    cases handed : environment.store.compiled view state.stored with
    | mk answer after =>
        rw [handed] at stored
        cases answer with
        | error cause =>
            have asked : (Rendering.compiled environment view : Render σ String) state =
                .error (.failed (Error.ofCause cause)) { state with stored := after } := by
              change Render.compiled environment view state = _
              rw [Render.compiled, handed]
            exact ⟨_, Render.bind_of_error asked _, trivial, ⟨reached.coherent, stored⟩,
              fun _ _ same => by cases same⟩
        | ok fragment =>
            obtain ⟨programs, coherent, same⟩ := reached.coherent.programOf handed
            refine ⟨_, same, ?_⟩
            unfold Rendering.compileFragment
            cases compiled : Program.compile fragment with
            | error error => exact ⟨trivial, ⟨coherent, stored⟩, fun _ _ same => by cases same⟩
            | ok program =>
                obtain ⟨statements, parsed, rfl⟩ := exists_parse_of_compile compiled
                have isBounded := bounded state.stored view fragment reached.stored
                  (congrArg Prod.fst handed)
                rw [isBoundedFragment, parsed] at isBounded
                refine ⟨trivial, ⟨coherent, stored⟩, fun _ _ same => ?_⟩
                cases same
                exact ⟨statements, isBounded, rfl⟩
  exact ⟨outcome, ⟨ended.1, 0, fun _ _ => same⟩, ended.2⟩

/-- A program of bounded statements runs to its end if the views inside it finish. -/
theorem finishes_run {levels : Nat}
    (enters : ∀ view parameters, Finishes environment.store start
      (fun fuel => environment.renderAt fuel levels view parameters) fun _ => True)
    {program : Program} (bounded : IsBoundedProgram program) (base : Nat)
    (scope : Entries Value) :
    Finishes environment.store start
      (fun fuel =>
        RenderContext.run ⟨environment, program.source, base, environment.renderAt fuel levels⟩
          program.instructions fuel (RenderFrame.initial scope)) fun _ => True := by
  obtain ⟨statements, bounded, instructions⟩ := bounded
  rw [instructions]
  let plain (fuel : Nat) : RenderContext σ (Render σ) :=
    ⟨environment, program.source, base, environment.renderAt fuel levels⟩
  let staged : RenderContext σ (Staged σ) :=
    ⟨environment, program.source, base, fun view parameters fuel =>
      environment.renderAt fuel levels view parameters⟩
  have contexts (fuel : Nat) :
      (finishing environment.store start).Contexts (fuel, base) id staged (plain fuel) :=
    { environment := rfl
      left := rfl
      right := rfl
      errors := fun _ _ => rfl
      enter := fun view parameters => ⟨rfl, enters view parameters⟩ }
  have executed (fuel : Nat) := Rendering.Relation.executeAll trivial (contexts fuel) 0 statements
    bounded (Page.initial scope)
  intro state reached
  have finished : Finishes environment.store start
      (staged.executeAll 0 statements (Page.initial scope) >>= fun page =>
        pure ⟨(instructionsOf statements).size, [], page⟩) fun _ : RenderFrame => True :=
    (executed 0).2.bind fun page _ => finishes_pure _ trivial
  obtain ⟨outcome, ⟨settled, enough, ends⟩, kept, good⟩ := finished state reached
  have execution : Render.Ends
      (fun rounds => do
        let page ← (plain enough).executeAll rounds statements (Page.initial scope)
        return ⟨(instructionsOf statements).size, [], page⟩) state outcome := by
    refine ⟨settled, 0, Eq.trans ?_ (ends enough (Nat.le_refl enough))⟩
    exact congrFun (congrArg (· >>= _) (executed enough).1.symm) state
  obtain ⟨-, steps, ran⟩ :=
    ((plain enough).ends_run_iff statements (Page.initial scope) state outcome).2 execution
  change (plain enough).run _ steps (RenderFrame.initial scope) state = outcome at ran
  refine ⟨outcome, ⟨settled, max enough steps, fun fuel le => ?_⟩, kept, good⟩
  -- The steps that suffice were found for views that may take `enough` steps themselves.
  have agrees := Render.agrees_run environment (Nat.le_trans (Nat.le_max_left ..) le) levels
    program.source base (instructionsOf statements) (Nat.le_trans (Nat.le_max_right ..) le)
    (RenderFrame.initial scope)
  have ended : (plain fuel).run (instructionsOf statements) fuel (RenderFrame.initial scope) state =
      (plain enough).run (instructionsOf statements) steps (RenderFrame.initial scope) state :=
    agrees state (ran.symm ▸ settled)
  exact ended.trans ran

theorem finishes_renderProgram {levels : Nat}
    (enters : ∀ view parameters, Finishes environment.store start
      (fun fuel => environment.renderAt fuel levels view parameters) fun _ => True)
    {program : Program} (bounded : IsBoundedProgram program) (scope : Entries Value) :
    Finishes environment.store start
      (fun fuel => environment.renderProgram (environment.renderAt fuel levels) fuel program scope)
      fun _ => True := by
  have bodies (base : Nat) : Finishes environment.store start
      (fun fuel => RenderContext.runProgram
        ⟨environment, program.source, base, environment.renderAt fuel levels⟩ fuel program scope)
      fun _ => True := by
    have asked : Finishes environment.store start
        (lift (Rendering.unclosed? base)) fun _ : Option String => True :=
      finishes_leaving fun _ => ⟨trivial, rfl, rfl⟩
    refine (finishes_run enters bounded base scope).bind_steps fun frame _ => ?_
    refine asked.bind_steps fun unclosed _ => ?_
    cases unclosed with
    | some name => exact finishes_leaving (Render.leavesViews_fail _)
    | none => exact finishes_pure _ trivial
  exact Finishes.framed bodies

/-- Rendering a view ends with enough steps if all fragments are bounded, however views are inside
each other. -/
theorem finishes_renderAt (bounded : environment.IsBounded start) (levels : Nat) (view : String)
    (parameters : Entries Value) :
    Finishes environment.store start
      (fun fuel => environment.renderAt fuel levels view parameters) fun _ => True := by
  induction levels generalizing view parameters with
  | zero => exact finishes_leaving (Render.leavesViews_fail _)
  | succ levels inductionHypothesis =>
      refine Finishes.mapError (Error.inView view) ?_
      refine (finishes_programOf bounded view).bind fun program isBounded => ?_
      exact finishes_renderProgram inductionHypothesis isBounded _

/-- Rendering views one after the other ends if rendering each of them does. -/
theorem finishes_showEach {enter : Nat → String → Entries Value → Render σ String}
    (enters : ∀ view parameters,
      Finishes store start (fun fuel => enter fuel view parameters) fun _ => True)
    (environment : Environment σ) (view : String) (collection : Value) (iterator empty : String) :
    Finishes store start
      (fun fuel => RenderContext.showEach (enter fuel) view collection iterator empty)
      fun _ => True := by
  let staged : RenderContext σ (Staged σ) :=
    ⟨environment, "", 0, fun view parameters fuel => enter fuel view parameters⟩
  have contexts (fuel : Nat) :
      (finishing store start).Contexts (fuel, 0) id staged ⟨environment, "", 0, enter fuel⟩ :=
    { environment := rfl
      left := rfl
      right := rfl
      errors := fun _ _ => rfl
      enter := fun view parameters => ⟨rfl, enters view parameters⟩ }
  have shown (fuel : Nat) :=
    Rendering.Relation.showEach (contexts fuel) view collection iterator empty
  have same : RenderContext.showEach staged.enter view collection iterator empty =
      fun fuel => RenderContext.showEach (enter fuel) view collection iterator empty :=
    funext fun fuel => (shown fuel).1
  exact same ▸ (shown 0).2

theorem finishes_ofExcept {α : Type} (result : Except Error α) :
    Finishes store start (lift (Rendering.ofExcept result)) fun _ => True := by
  cases result with
  | ok result => exact finishes_pure result trivial
  | error error => exact finishes_leaving (Render.leavesViews_fail error)

end Views
end Finishing
end Staged
end ViewTemplate
