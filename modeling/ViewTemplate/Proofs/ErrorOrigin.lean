import Mathlib
import ViewTemplate.Proofs.Coherence
import ViewTemplate.Proofs.FixedClauses
import ViewTemplate.Proofs.Watched
import ViewTemplate.Store.Memory

/-!
Where errors come from. An error that points at bytes of a fragment was raised while that fragment
was compiled or carried out, and it names the view that the fragment belongs to; views further out
neither point an error at anything nor give it another name (`View.tellsOrigin_of_render`).
-/

namespace ViewTemplate

open Fragment

/-! ## Errors on their way -/

/-- An error that is raised inside views, of which the first is the innermost. If it points at a
fragment, it does so at bytes of the one that the store has handed out for the innermost view. -/
def Error.IsRaisedIn (views : List String) (answers : Answers) (error : Error) : Prop :=
  ∀ location, error.location = some location → error.view = none ∧
    ∃ view outer, views = view :: outer ∧ (view, .ok location.source) ∈ answers ∧
      location.span.IsIn location.source.toList

/-- An error that has come out of all views inside of `views`. The innermost view has named it,
unless it had a name, and nothing else has happened to it. -/
structure Raised.HasCome (views : List String) (answers : Answers) (raised : Raised) : Prop where
  named : ∃ inner, raised.views = inner ++ views ∧
    raised.error = { raised.origin with view := raised.origin.view.or inner.head? }
  origin : raised.origin.IsRaisedIn raised.views answers

section Errors

variable {views : List String} {answers answers' : Answers} {error : Error}

theorem Error.isRaisedIn_of_unlocated (unlocated : error.location = none) :
    error.IsRaisedIn views answers := by
  intro location located
  rw [unlocated] at located
  cases located

theorem Error.IsRaisedIn.mono (raised : error.IsRaisedIn views answers)
    (more : answers ⊆ answers') : error.IsRaisedIn views answers' := by
  intro location located
  obtain ⟨unnamed, view, outer, parts, handed, inside⟩ := raised location located
  exact ⟨unnamed, view, outer, parts, more handed, inside⟩

theorem Error.IsRaisedIn.hasCome (raised : error.IsRaisedIn views answers) :
    Raised.HasCome views answers ⟨error, error, views⟩ where
  named := ⟨[], rfl, by rw [List.head?_nil, Option.or_none]⟩
  origin := raised

/-- On its way out of a view an error gets the name of the view, unless it has one. -/
theorem Raised.HasCome.inView {name : String} {raised : Raised}
    (come : raised.HasCome (name :: views) answers) :
    Raised.HasCome views answers { raised with error := raised.error.inView name } where
  named := by
    obtain ⟨inner, parts, error⟩ := come.named
    refine ⟨inner ++ [name], by rw [List.append_assoc]; exact parts, ?_⟩
    rw [error, Error.inView, List.head?_append, List.head?_cons, Option.or_assoc]
  origin := come.origin

end Errors

/-! ## Renderings inside of views -/

/-- A watched rendering has kept the programs coherent, or its error is accounted for. -/
inductive WatchedOutcome.Accounted {σ α : Type} (views : List String) (before : Answers) :
    WatchedOutcome σ α → Prop where
  | ok {result : α} {reached : WatchedState σ} (coherent : reached.state.Coherent)
      (more : before ⊆ reached.answers) : Accounted views before (.ok result reached)
  | failed {raised : Raised} {reached : WatchedState σ}
      (come : raised.HasCome views reached.answers) :
      Accounted views before (.error (.failed raised) reached)
  | exhausted {reached : WatchedState σ} : Accounted views before (.error .exhausted reached)

theorem WatchedOutcome.Accounted.weaken {σ α : Type} {views : List String}
    {before between : Answers} {outcome : WatchedOutcome σ α}
    (accounted : Accounted views between outcome) (more : before ⊆ between) :
    Accounted views before outcome := by
  cases accounted with
  | ok coherent still => exact .ok coherent fun _ member => still (more member)
  | failed come => exact .failed come
  | exhausted => exact .exhausted

namespace Watched

variable {σ α β : Type} {views : List String} {answers answers' : Answers}

/-- Errors of a rendering inside of views are accounted for, if the store has given some answers
before. -/
def Accounts (answers : Answers) (views : List String)
    (rendering : Watched σ α) : Prop :=
  ∀ watched, watched.state.Coherent → answers ⊆ watched.answers →
    WatchedOutcome.Accounted views watched.answers (rendering views watched)

theorem Accounts.mono {rendering : Watched σ α} (accounts : Accounts answers views rendering)
    (more : answers ⊆ answers') : Accounts answers' views rendering :=
  fun watched coherent handed => accounts watched coherent fun _ member => handed (more member)

theorem accounts_pure (result : α) : Accounts answers views (pure result : Watched σ α) :=
  fun _ coherent _ => .ok coherent fun _ member => member

theorem accounts_lift {rendering : Render σ α} (keeps : Render.KeepsCoherent rendering)
    (raises : ∀ {state error reached}, rendering state = .error (.failed error) reached →
      error.IsRaisedIn views answers) : Accounts answers views (lift rendering) := by
  intro watched coherent handed
  have kept := keeps watched.state coherent
  unfold lift
  cases ended : rendering watched.state with
  | ok result reached =>
      rw [ended] at kept
      exact .ok kept fun _ member => member
  | error interrupt reached =>
      cases interrupt with
      | failed error => exact .failed ((raises ended).mono handed).hasCome
      | exhausted => exact .exhausted

theorem Accounts.bind {rendering : Watched σ α} {next : α → Watched σ β}
    (first : Accounts answers views rendering)
    (second : ∀ result, Accounts answers views (next result)) :
    Accounts answers views (rendering >>= next) := by
  intro watched coherent handed
  have ends := first watched coherent handed
  change WatchedOutcome.Accounted _ _
    (EStateM.bind (rendering views) (fun result => next result views) watched)
  unfold EStateM.bind
  generalize rendering views watched = outcome at ends ⊢
  cases ends with
  | @ok result reached coherent more =>
      have later := second result reached coherent fun _ member => more (handed member)
      exact later.weaken more
  | failed come => exact .failed come
  | exhausted => exact .exhausted

theorem accounts_mapError {view : String} {rendering : Watched σ α}
    (accounts : Accounts answers (view :: views) rendering) :
    Accounts answers views (Rendering.mapError (Error.inView view) rendering) := by
  intro watched coherent handed
  have ends := accounts watched coherent handed
  change WatchedOutcome.Accounted _ _
    (WatchedOutcome.mapError (Error.inView view) (rendering (view :: views) watched))
  generalize rendering (view :: views) watched = outcome at ends ⊢
  cases ends with
  | ok coherent more => exact .ok coherent more
  | failed come => exact .failed come.inView
  | exhausted => exact .exhausted

theorem accounts_framed {body : Nat → Watched σ α}
    (accounts : ∀ base, Accounts answers views (body base)) :
    Accounts answers views (Rendering.framed body) := by
  intro watched coherent handed
  have ends := accounts watched.state.sections.depth watched coherent handed
  change WatchedOutcome.Accounted _ _
    (WatchedOutcome.mapReached _ (body watched.state.sections.depth views watched))
  generalize body watched.state.sections.depth views watched = outcome at ends ⊢
  cases ends with
  | ok coherent more => exact .ok coherent more
  | failed come => exact .failed ⟨come.named, come.origin⟩
  | exhausted => exact .exhausted

/-! ### Operations -/

theorem accounts_fail {error : Error} (raised : error.IsRaisedIn views answers) :
    Accounts answers views (Rendering.fail error : Watched σ α) := by
  refine accounts_lift (Render.keepsCoherent_of_programs fun _ => rfl) fun fails => ?_
  cases fails
  exact raised

theorem accounts_exhaust : Accounts answers views (Rendering.exhaust : Watched σ α) :=
  accounts_lift (Render.keepsCoherent_of_programs fun _ => rfl) fun fails => by cases fails

theorem accounts_of_ok {rendering : Render σ α}
    (ends : ∀ state, ∃ result reached, rendering state = .ok result reached ∧
      reached.programs = state.programs) : Accounts answers views (lift rendering) := by
  refine accounts_lift (Render.keepsCoherent_of_programs fun state => ?_)
    fun {state _ _} fails => ?_
  · obtain ⟨result, reached, ended, same⟩ := ends state
    rw [ended]
    exact same
  · obtain ⟨result, reached, ended, -⟩ := ends state
    rw [ended] at fails
    cases fails

theorem accounts_close (closing : Closing) (base : Nat) {missing : Error}
    (raised : missing.IsRaisedIn views answers) :
    Accounts answers views (Rendering.close closing base missing : Watched σ String) := by
  refine accounts_lift (Render.keepsCoherent_close closing base missing) fun {state _ _} fails => ?_
  change Render.close closing base missing state = _ at fails
  unfold Render.close at fails
  split at fails
  next => cases fails
  next =>
    cases fails
    exact raised

theorem accounts_write (base : Nat) (text : String) :
    Accounts answers views (Rendering.write base text : Watched σ Bool) := by
  refine accounts_of_ok fun state => ?_
  change ∃ result reached, Render.write base text state = .ok result reached ∧ _
  unfold Render.write
  split <;> exact ⟨_, _, rfl, rfl⟩

/-! ## Code of a view -/

section Code

variable {view source : String} {outer : List String}

/-- Errors of the code of a view are accounted for as long as they point at its fragment. -/
def accountRelation (σ : Type) (view source : String) (outer : List String) :
    Rendering.Relation σ (Watched σ) (Watched σ) where
  Index := Nat
  left := id
  right := id
  Inner _ := True
  Same _ error := error.IsRaisedIn (view :: outer) [(view, .ok source)]
  Holds _ _ _ rendering := Accounts [(view, .ok source)] (view :: outer) rendering
  same_unlocated _ := Error.isRaisedIn_of_unlocated
  pure _ := accounts_pure
  bind := Accounts.bind
  fail raised := accounts_fail raised
  contains _ _ _ := accounts_of_ok fun _ => ⟨_, _, rfl, rfl⟩
  content _ _ := accounts_of_ok fun _ => ⟨_, _, rfl, rfl⟩
  start _ _ := accounts_of_ok fun _ => ⟨_, _, rfl, rfl⟩
  extend _ _ _ := accounts_of_ok fun _ => ⟨_, _, rfl, rfl⟩
  close closing raised := accounts_close closing _ raised
  write text _ := accounts_write _ text
  unclosed _ := accounts_of_ok fun _ => ⟨_, _, rfl, rfl⟩

/-- In the code of a view all spans point into its fragment. -/
theorem contexts (nonempty : source.toList ≠ []) {environment : Environment σ} {base : Nat}
    {enter : String → Entries Value → Watched σ String}
    (enters : ∀ name parameters, Accounts [] (view :: outer) (enter name parameters)) :
    (accountRelation σ view source outer).Contexts base (Span.clamp source.toList)
      ⟨environment, source, base, enter⟩ ⟨environment, source, base, enter⟩ where
  environment := rfl
  left := rfl
  right := rfl
  errors cause span := by
    intro location located
    cases located
    exact ⟨rfl, view, outer, rfl, List.mem_singleton_self _, Span.isIn_clamp nonempty span⟩
  enter name parameters := (enters name parameters).mono (List.nil_subset _)

theorem accounts_runProgram {program : Program} (compiled : Program.compile source = .ok program)
    {environment : Environment σ} {base : Nat} {enter : String → Entries Value → Watched σ String}
    (enters : ∀ name parameters, Accounts [] (view :: outer) (enter name parameters))
    (fuel : Nat) (scope : Entries Value) :
    Accounts [(view, .ok source)] (view :: outer)
      (RenderContext.runProgram ⟨environment, source, base, enter⟩ fuel program scope) := by
  by_cases nonempty : source.toList = []
  · -- Without a character there is no instruction, and nothing that could be pointed at.
    obtain ⟨statements, parsed, rfl⟩ := exists_parse_of_compile compiled
    rw [nonempty, parse_nil] at parsed
    cases parsed
    refine Accounts.bind ?_ fun frame => Accounts.bind ?_ fun unclosed => ?_
    · cases fuel with
      | zero => exact accounts_exhaust
      | succ fuel => exact accounts_pure _
    · exact accounts_of_ok fun _ => ⟨_, _, rfl, rfl⟩
    · cases unclosed with
      | some name => exact accounts_fail (Error.isRaisedIn_of_unlocated rfl)
      | none => exact accounts_pure _
  · have fixed : ∀ instruction ∈ program.instructions,
        instruction.mapSpans (Span.clamp source.toList) = instruction := fun instruction member =>
      mapSpans_of_compile (Span.keepsCovers_clamp nonempty) Span.clamp_of_isIn compiled member
    exact Rendering.Relation.runProgram trivial (contexts nonempty enters) fixed accounts_exhaust
      (Or.inl rfl) scope

end Code

/-! ## Views -/

/-- The program of a view is found, or there is an error that is accounted for. -/
inductive FindsProgram (view : String) (outer : List String)
    (before : Answers) : WatchedOutcome σ Program → Prop where
  | found {source : String} {program : Program} {reached : WatchedState σ}
      (compiled : Program.compile source = .ok program) (coherent : reached.state.Coherent)
      (handed : (view, .ok source) ∈ reached.answers) (more : before ⊆ reached.answers) :
      FindsProgram view outer before (.ok program reached)
  | failed {raised : Raised} {reached : WatchedState σ}
      (come : raised.HasCome (view :: outer) reached.answers) :
      FindsProgram view outer before (.error (.failed raised) reached)

theorem findsProgram_freshProgram {view fragment : String} {outer : List String}
    {before : Answers} {watched : WatchedState σ}
    (coherent : watched.state.Coherent) (handed : (view, .ok fragment) ∈ watched.answers)
    (more : before ⊆ watched.answers) :
    FindsProgram view outer before
      ((Rendering.freshProgram view fragment : Watched σ Program) (view :: outer) watched) := by
  unfold Rendering.freshProgram
  cases compiled : Program.compile fragment with
  | ok program =>
      have kept := coherent.keep view (Program.source_of_compile compiled ▸ compiled)
      exact .found compiled kept handed more
  | error error =>
      have raised : Error.IsRaisedIn (view :: outer) watched.answers
          (Error.located (.malformed error.fault) fragment error.span) := by
        intro location located
        cases located
        exact ⟨rfl, view, outer, rfl, handed, isIn_of_compile compiled⟩
      exact .failed raised.hasCome

theorem findsProgram_programOf (environment : Environment σ) (view : String) (outer : List String)
    {watched : WatchedState σ} (coherent : watched.state.Coherent) :
    FindsProgram view outer watched.answers
      ((Rendering.programOf environment view : Watched σ Program) (view :: outer) watched) := by
  rw [Rendering.programOf]
  rcases handed : environment.store.compiled view watched.state.stored with
    ⟨cause | fragment, stored⟩
  · rw [bind_of_error (compiled_of_error handed)]
    exact .failed (Error.isRaisedIn_of_unlocated rfl).hasCome
  · rw [bind_of_ok (compiled_of_ok handed)]
    have fresh := @findsProgram_freshProgram σ view fragment outer watched.answers
      ⟨{ watched.state with stored := stored }, (view, .ok fragment) :: watched.answers⟩
      coherent List.mem_cons_self (List.subset_cons_self _ _)
    have looked : (Rendering.kept? view : Watched σ (Option Program)) (view :: outer)
        ⟨{ watched.state with stored := stored }, (view, .ok fragment) :: watched.answers⟩ =
      .ok (watched.state.programs.lookup view)
        ⟨{ watched.state with stored := stored }, (view, .ok fragment) :: watched.answers⟩ := rfl
    rw [bind_of_ok looked]
    cases found : watched.state.programs.lookup view with
    | none => exact fresh
    | some former =>
        dsimp only
        by_cases same : former.source = fragment
        · rw [if_pos same]
          have again := coherent view former found
          rw [same] at again
          exact .found again coherent List.mem_cons_self (List.subset_cons_self _ _)
        · rw [if_neg same]
          exact fresh

/-- What a view does with its program is accounted for, and so is finding the program. -/
theorem accounts_programOf {environment : Environment σ} {view : String} {outer : List String}
    {next : Program → Watched σ α}
    (accounts : ∀ {source program}, Program.compile source = .ok program →
      Accounts [(view, .ok source)] (view :: outer) (next program)) :
    Accounts [] (view :: outer) (Rendering.programOf environment view >>= next) := by
  intro watched coherent _
  have finds := findsProgram_programOf environment view outer coherent
  change WatchedOutcome.Accounted _ _ (EStateM.bind _ (fun program => next program _) watched)
  unfold EStateM.bind
  generalize (Rendering.programOf environment view : Watched σ Program) _ watched = outcome
    at finds ⊢
  cases finds with
  | @found source program reached compiled coherent handed more =>
      have known : [(view, Except.ok source)] ⊆ reached.answers := by simpa using handed
      exact (accounts compiled reached coherent known).weaken more
  | failed come => exact .failed come

theorem accounts_renderAt (environment : Environment σ) (fuel levels : Nat) (views : List String)
    (view : String) (parameters : Entries Value) :
    Accounts [] views (environment.renderAt fuel levels view parameters) := by
  induction levels generalizing views view parameters with
  | zero => exact accounts_fail (Error.isRaisedIn_of_unlocated rfl)
  | succ levels inductionHypothesis =>
      refine accounts_mapError ?_
      refine accounts_programOf fun {source program} compiled => ?_
      refine accounts_framed fun base => ?_
      rw [Program.source_of_compile compiled]
      exact accounts_runProgram compiled (inductionHypothesis (view :: views)) fuel _

end Watched

/-! ## Views with data -/

/-- A view as it is made: named, and given data. -/
inductive View.IsBuilt : View → Prop where
  | ofName (name : String) : IsBuilt (.ofName name)
  | bind (name : String) (value : Value) {view : View} : view.IsBuilt →
      IsBuilt (view.bind name value)
  | withData (data : HostData) {view : View} : view.IsBuilt → IsBuilt (view.withData data)

theorem View.IsBuilt.exists_conversion {view : View} (built : view.IsBuilt) {error : Error}
    (failed : view.data = .error error) : ∃ fault, error = Error.ofCause (.conversion fault) := by
  induction built with
  | ofName name => cases failed
  | @bind name value view built inductionHypothesis =>
      rw [View.bind] at failed
      cases data : view.data with
      | ok entries =>
          rw [data] at failed
          cases failed
      | error former =>
          rw [data] at failed
          cases failed
          exact inductionHypothesis data
  | @withData data view built inductionHypothesis =>
      rw [View.withData] at failed
      dsimp only at failed
      split at failed
      next => cases failed
      next former _ below =>
        cases failed
        exact inductionHypothesis below
      next =>
        cases failed
        exact ⟨_, rfl⟩

namespace Watched

variable {σ : Type}

theorem accounts_render {view : View} (built : view.IsBuilt) (environment : Environment σ)
    (fuel : Nat) : Accounts [] [] (view.render environment fuel : Watched σ String) := by
  refine Accounts.bind ?_ fun data => accounts_renderAt environment fuel _ [] view.name data
  cases data : view.data with
  | ok entries => exact accounts_pure entries
  | error error =>
      obtain ⟨fault, rfl⟩ := built.exists_conversion data
      exact accounts_fail (Error.isRaisedIn_of_unlocated rfl)

end Watched

/-- For each view the store has given the same answer during a rendering as at the start. -/
def Store.Unchanged {σ : Type} (store : Store σ) (stored : σ)
    (answers : Answers) : Prop :=
  ∀ view answer, (view, answer) ∈ answers → (store.compiled view stored).1 = answer

/-- What an error at the end of a rendering tells about where it was raised. -/
structure Raised.TellsOrigin {σ : Type} (store : Store σ) (stored : σ)
    (answers : Answers) (raised : Raised) : Prop where
  /-- The innermost view has named it, unless it had a name; the views around that one have done
  nothing to it. -/
  named : raised.error = { raised.origin with view := raised.origin.view.or raised.views.head? }
  /-- If it points at a fragment, then at some bytes of the one that the store has handed out for
  the innermost view, and it names this view. -/
  located : ∀ location, raised.error.location = some location →
    ∃ view outer, raised.views = view :: outer ∧ raised.error.view = some view ∧
      (view, .ok location.source) ∈ answers ∧ location.span.IsIn location.source.toList
  /-- The fragment is the one of the view that it names. -/
  source : store.Unchanged stored answers → ∀ location, raised.error.location = some location →
    ∀ view, raised.error.view = some view → (store.compiled view stored).1 = .ok location.source

theorem Raised.HasCome.tellsOrigin {σ : Type} {store : Store σ} {stored : σ}
    {answers : Answers} {raised : Raised}
    (come : raised.HasCome [] answers) : raised.TellsOrigin store stored answers := by
  obtain ⟨inner, parts, error⟩ := come.named
  rw [List.append_nil] at parts
  have named : raised.error =
      { raised.origin with view := raised.origin.view.or raised.views.head? } := by
    rw [parts, error]
  have located : ∀ location, raised.error.location = some location →
      ∃ view outer, raised.views = view :: outer ∧ raised.error.view = some view ∧
        (view, .ok location.source) ∈ answers ∧ location.span.IsIn location.source.toList := by
    intro location pointed
    rw [named] at pointed
    obtain ⟨unnamed, view, outer, stack, handed, inside⟩ := come.origin location pointed
    refine ⟨view, outer, stack, ?_, handed, inside⟩
    rw [named, unnamed, stack]
    rfl
  refine ⟨named, located, fun unchanged location pointed view given => ?_⟩
  obtain ⟨other, outer, -, givenOther, handed, -⟩ := located location pointed
  obtain rfl : other = view := Option.some.inj (givenOther.symm.trans given)
  exact unchanged other _ handed

/-- Errors tell where they come from: rendering a view, and views inside it at any depth, ends with
an error that is the one which was raised, in the innermost view at that moment. -/
theorem View.tellsOrigin_of_render {σ : Type} {view : View} (built : view.IsBuilt)
    {environment : Environment σ} {fuel : Nat} {state reached : RenderState σ} {error : Error}
    (coherent : state.Coherent)
    (failed : (view.render environment fuel : Render σ String) state =
      .error (.failed error) reached) :
    ∃ raised answers,
      (view.render environment fuel : Watched σ String) [] ⟨state, []⟩ =
          .error (.failed raised) ⟨reached, answers⟩ ∧
        raised.error = error ∧ raised.TellsOrigin environment.store state.stored answers := by
  have plain := Watched.erases_render view environment fuel [] ⟨state, []⟩
  have ends := Watched.accounts_render built environment fuel ⟨state, []⟩ coherent
    (List.nil_subset _)
  rw [failed] at plain
  generalize (view.render environment fuel : Watched σ String) [] ⟨state, []⟩ = outcome
    at plain ends ⊢
  cases ends with
  | ok => cases plain
  | exhausted => cases plain
  | @failed raised reached come =>
      cases plain
      exact ⟨raised, reached.answers, rfl, rfl, come.tellsOrigin⟩

/-- The error that a rendering ends with, if there is one. -/
def Outcome.error? {σ α : Type} : Outcome σ α → Option Error
  | .error (.failed error) _ => some error
  | _ => none

theorem Outcome.exists_of_error? {σ α : Type} {outcome : Outcome σ α} {error : Error}
    (told : Outcome.error? outcome = some error) :
    ∃ reached, outcome = .error (.failed error) reached := by
  unfold Outcome.error? at told
  split at told
  next raised reached =>
    cases told
    exact ⟨reached, rfl⟩
  next => cases told

theorem View.tellsOrigin_of_render_nested :
    let views : MemoryViews :=
      ⟨[("inner", "é<% echo x; %>"), ("outer", "<% __env.make('inner'); %>")]⟩
    let error : Error :=
      ⟨.evaluation .unbound, some "inner", some ⟨"é<% echo x; %>", ⟨10, 11⟩⟩⟩
    ∃ reached raised answers,
      ((View.ofName "outer").render (Environment.ofStore .memory 0) 4 :
          Render MemoryViews String) ⟨views, [], .empty⟩ = .error (.failed error) reached ∧
        ((View.ofName "outer").render (Environment.ofStore .memory 0) 4 :
            Watched MemoryViews String) [] ⟨⟨views, [], .empty⟩, []⟩ =
          .error (.failed raised) ⟨reached, answers⟩ ∧
        raised.error = error ∧ raised.TellsOrigin .memory views answers := by
  intro views error
  have coherent : RenderState.Coherent ⟨views, [], .empty⟩ := fun _ _ found => nomatch found
  have ended : ∃ reached, ((View.ofName "outer").render (Environment.ofStore .memory 0) 4 :
      Render MemoryViews String) ⟨views, [], .empty⟩ = .error (.failed error) reached := by
    have told : Outcome.error? (((View.ofName "outer").render (Environment.ofStore .memory 0) 4 :
        Render MemoryViews String) ⟨views, [], .empty⟩) = some error := by cbv
    exact Outcome.exists_of_error? told
  obtain ⟨reached, failed⟩ := ended
  obtain ⟨raised, answers, watched, same, tells⟩ :=
    View.tellsOrigin_of_render (.ofName "outer") coherent failed
  exact ⟨reached, raised, answers, failed, watched, same, tells⟩

end ViewTemplate
