import ViewTemplate.Proofs.ElementLoops
import ViewTemplate.Proofs.IncludeTags
import ViewTemplate.Proofs.Layers
import ViewTemplate.Proofs.Rebinding
import ViewTemplate.Store.Memory

/-!
Precedence of data is the same however a view is entered. What the view is given lies on what all
views share, earlier parameters on later ones, and composers change the data last; the view around
keeps its variables. The main statement is `hasPrecedence_of_keepsOrder`.
-/

namespace ViewTemplate

open Directive Fragment Text

/-! ## Parameters -/

/-- What a view inside another may be given: a map, or none, which gives it nothing. -/
inductive IsParameters : Value → Entries Value → Prop
  | map {entries : Entries Value} : entries.Ascending → IsParameters (.map entries) entries
  | none : IsParameters .none []

theorem exists_mergeParameters {maps : List Value} {layers : List (Entries Value)}
    (parameters : List.Forall₂ IsParameters maps layers) :
    ∃ data, RenderContext.mergeParameters maps = .ok data ∧ IsLayered layers data := by
  induction parameters with
  | nil => exact ⟨[], rfl, .nil⟩
  | @cons value layer maps layers first _ inductionHypothesis =>
      obtain ⟨below, merged, layered⟩ := inductionHypothesis
      rw [RenderContext.mergeParameters, merged]
      cases first with
      | map ascending =>
          exact ⟨_, rfl, (IsLayered.single ascending).overlay layered⟩
      | none =>
          exact ⟨_, rfl, (IsLayered.single Entries.ascending_nil).overlay layered⟩

theorem isLayered_elementParameters (iterator : String) (key element : Value) :
    IsLayered [[(iterator, element)], [("key", key)]]
      (RenderContext.elementParameters iterator key element) :=
  (IsLayered.single (Entries.ascending_single "key" key)).put iterator element

/-! ## Views inside a view -/

namespace Environment

open Render

variable {σ : Type} {environment : Environment σ} {source : String} {base levels fuel : Nat}
  {state reached : RenderState σ} {view : String} {maps : List Value}
  {layers : List (Entries Value)}

theorem evaluate_make (ascending : environment.shared.Ascending) {scope : Entries Value}
    {name : Identifier} (named : name.name = "make") {arguments : List Expression}
    (given : (environment.contextAt source base (levels + 1) fuel).evaluateAll scope arguments
      state = .ok (.string view :: maps) reached)
    (few : maps.length ≤ 2) (parameters : List.Forall₂ IsParameters maps layers) (span : Span) :
    ∃ rendering, environment.Enters fuel levels view layers rendering ∧
      (environment.contextAt source base (levels + 1) fuel).evaluate scope
          (.method name arguments span) state =
        (rendering >>= fun output => pure (.string output)) reached := by
  obtain ⟨data, merged, layered⟩ := exists_mergeParameters parameters
  let context := environment.contextAt source base (levels + 1) fuel
  have method : EnvironmentMethod.ofName? name.name = some .make := by
    rw [named]
    decide
  have counted : 1 ≤ (Value.string view :: maps).length ∧
      (Value.string view :: maps).length ≤ 3 := by
    rw [List.length_cons]
    omega
  have made : context.callMethod span .make (.string view :: maps) =
      context.enter view data >>= fun output => (pure (.string output) : Render σ Value) := by
    change ((pure view : Render σ String) >>= fun view =>
      context.check span (RenderContext.mergeParameters maps) >>= fun parameters =>
        context.enter view parameters >>= fun output =>
          (pure (.string output) : Render σ Value)) = _
    rw [pure_bind, merged]
    exact pure_bind data _
  have called : context.callNamed name span (.string view :: maps) =
      context.enter view data >>= fun output => (pure (.string output) : Render σ Value) := by
    rw [RenderContext.callNamed, method, ← made]
    exact if_pos counted
  refine ⟨_, enters_renderAt ascending fuel levels view layered, ?_⟩
  rw [RenderContext.evaluate.eq_def]
  change (context.evaluateAll scope arguments >>= context.callNamed name span) state = _
  rw [bind_of_ok given, called]

/-- The variables in scope are the last argument of an inclusion. -/
theorem evaluateAll_scope (context : RenderContext σ (Render σ)) {scope : Entries Value}
    {given : List Expression} {values : List Value}
    (evaluated : context.evaluateAll scope given state = .ok values reached) {name : Identifier}
    (lists : name.name = scopeFunctionName) (span : Span) :
    context.evaluateAll scope (given ++ [.call name [] span]) state =
      .ok (values ++ [.map scope]) reached := by
  induction given generalizing state values with
  | nil =>
      cases evaluated
      have listed : context.evaluate scope (.call name [] span) = pure (.map scope) := by
        rw [RenderContext.evaluate.eq_def]
        simp only [RenderContext.path?, if_pos lists]
        rfl
      rw [List.nil_append, RenderContext.evaluateAll, listed, pure_bind]
      rfl
  | cons expression given inductionHypothesis =>
      rw [RenderContext.evaluateAll] at evaluated
      obtain ⟨value, middle, first, later⟩ := exists_ok_of_bind evaluated
      obtain ⟨others, last, given, ended⟩ := exists_ok_of_bind later
      cases ended
      rw [List.cons_append, RenderContext.evaluateAll, bind_of_ok first,
        bind_of_ok (inductionHypothesis given)]
      rfl

theorem perform_include (ascending : environment.shared.Ascending) {page : Page}
    (ordered : page.scope.Ascending) {arguments : List Expression} {call : Expression}
    (isInclusion : IsInclusion arguments call)
    (given : (environment.contextAt source base (levels + 1) fuel).evaluateAll page.scope arguments
      state = .ok (.string view :: maps) reached)
    (few : maps.length ≤ 1) (parameters : List.Forall₂ IsParameters maps layers) :
    ∃ rendering, environment.Enters fuel levels view (layers ++ [page.scope]) rendering ∧
      (environment.contextAt source base (levels + 1) fuel).perform page (.echo call) state =
        (rendering >>= fun output =>
          (environment.contextAt source base (levels + 1) fuel).emit output page) reached := by
  obtain ⟨name, scope, inner, span, makes, lists, rfl⟩ := isInclusion
  let context := environment.contextAt source base (levels + 1) fuel
  have whole := evaluateAll_scope context given lists inner
  have fewWhole : (maps ++ [Value.map page.scope]).length ≤ 2 := by
    rw [List.length_append]
    exact Nat.succ_le_succ few
  have parametersWhole : List.Forall₂ IsParameters (maps ++ [Value.map page.scope])
      (layers ++ [page.scope]) :=
    List.rel_append parameters (.cons (.map ordered) .nil)
  obtain ⟨rendering, enters, evaluated⟩ :=
    evaluate_make ascending makes whole fewWhole parametersWhole span
  refine ⟨rendering, enters, ?_⟩
  change (context.evaluate page.scope _ >>= fun value =>
    context.check _ value.render >>= fun text => context.emit text page) state = _
  cases ended : rendering reached with
  | ok output last =>
      rw [bind_of_ok ended] at evaluated
      rw [bind_of_ok evaluated, bind_of_ok ended]
      rfl
  | error interrupt last =>
      rw [bind_of_error ended] at evaluated
      rw [bind_of_error evaluated, bind_of_error ended]

/-! ## Precedence -/

/-- What rendering a view does that is named and given data by links. If all links supply data, the
view begins with it, the last on top. If not, rendering ends with the error of the first link that
supplies none, and the state is the one in which it began. -/
inductive RendersLinked (environment : Environment σ) (fuel : Nat) (name : String) :
    List DataLink → Prop
  | entered {links : List DataLink} {layers : List (Entries Value)} :
      List.Forall₂ DataLink.Supplies links layers →
        environment.Enters fuel environment.maxDepth name layers.reverse
          ((View.linked name links).render environment fuel) →
            RendersLinked environment fuel name links
  | refused {before after : List DataLink} {link : DataLink} {layers : List (Entries Value)}
      {fault : HostData.Fault} :
      List.Forall₂ DataLink.Supplies before layers → link.Refuses fault →
        (∀ state, ((View.linked name (before ++ link :: after)).render environment fuel :
            Render σ String) state =
          .error (.failed (Error.ofCause (.conversion fault))) state) →
            RendersLinked environment fuel name (before ++ link :: after)

theorem rendersLinked (ascending : environment.shared.Ascending) (fuel : Nat) (name : String)
    (links : List DataLink) : environment.RendersLinked fuel name links := by
  rcases DataLink.supply_or_refuse links with
    ⟨layers, supplied⟩ | ⟨before, link, after, layers, fault, rfl, supplied, refuses⟩
  · exact .entered supplied (View.enters_linked ascending fuel name supplied)
  · exact .refused supplied refuses
      (View.render_linked_of_refuses environment fuel name supplied refuses after)

/-- A call on the environment makes a view: evaluating it is evaluating its arguments and then
entering the view with them. -/
def Makes (environment : Environment σ) (name : Identifier) (arguments : List Expression) : Prop :=
  ∀ {source base levels fuel scope state reached view maps layers},
    let context := environment.contextAt source base (levels + 1) fuel
    context.evaluateAll scope arguments state = .ok (.string view :: maps) reached →
      maps.length ≤ 2 → List.Forall₂ IsParameters maps layers → ∀ span,
        ∃ rendering, environment.Enters fuel levels view layers rendering ∧
          context.evaluate scope (.method name arguments span) state =
            (rendering >>= fun output => pure (.string output)) reached

/-- Echoing a call includes a view: it is evaluating the arguments, entering the view with them and,
below them, with the variables in scope, and writing its output to the page. -/
def Includes (environment : Environment σ) (arguments : List Expression) (call : Expression) :
    Prop :=
  ∀ {source base levels fuel} {page : Page} {state reached view maps layers},
    let context := environment.contextAt source base (levels + 1) fuel
    page.scope.Ascending →
      context.evaluateAll page.scope arguments state = .ok (.string view :: maps) reached →
        maps.length ≤ 1 → List.Forall₂ IsParameters maps layers →
          ∃ rendering,
            environment.Enters fuel levels view (layers ++ [page.scope]) rendering ∧
              context.perform page (.echo call) state =
                (rendering >>= fun output => context.emit output page) reached

/-- Whatever views are entered in it, the code of a view binds no variables but its own. -/
structure KeepsVariables (context : RenderContext σ (Render σ)) : Prop where
  unbound {action : Action} {page after : Page} {state reached : RenderState σ} :
    action.binds = [] → context.perform page action state = .ok after reached →
      after.scope = page.scope
  perform {action : Action} {page after : Page} {state reached : RenderState σ} :
    context.perform page action state = .ok after reached →
      Rebinds action.binds page.scope after.scope
  run {instructions : Array Instruction} {bound : List String} {fuel : Nat}
    {scope : Entries Value} {last : RenderFrame} {state reached : RenderState σ} :
    (∀ instruction ∈ instructions, instruction.binds ⊆ bound) →
      context.run instructions fuel (RenderFrame.initial scope) state = .ok last reached →
        Rebinds bound scope last.page.scope
  /-- All other variables keep their values. -/
  others {instructions : Array Instruction} {bound : List String} {fuel : Nat}
    {scope : Entries Value} {last : RenderFrame} {state reached : RenderState σ} {name : String} :
    (∀ instruction ∈ instructions, instruction.binds ⊆ bound) →
      context.run instructions fuel (RenderFrame.initial scope) state = .ok last reached →
        name ∉ bound → last.page.scope.lookup name = scope.lookup name
  ascending {instructions : Array Instruction} {fuel : Nat} {scope : Entries Value}
    {last : RenderFrame} {state reached : RenderState σ} :
    context.run instructions fuel (RenderFrame.initial scope) state = .ok last reached →
      scope.Ascending → last.page.scope.Ascending

/-- What is shared is in order, and composers keep the order of what they are given. -/
structure KeepsOrder (environment : Environment σ) : Prop where
  shared : environment.shared.Ascending
  compose : ∀ composer ∈ environment.composers, ∀ view data, data.Ascending →
    (composer.compose view data).Ascending

theorem keepsVariables (context : RenderContext σ (Render σ)) : KeepsVariables context where
  unbound {action page after state reached} binds performed := by
    have rebinds := RenderContext.rebinds_perform (List.Subset.refl action.binds) performed
    rw [binds] at rebinds
    exact rebinds.eq_of_nil
  perform {action page after state reached} performed :=
    RenderContext.rebinds_perform (List.Subset.refl action.binds) performed
  run {instructions bound fuel scope last state reached} within ran :=
    RenderContext.rebinds_run within (RenderFrame.loopsWithin_initial bound scope) ran
  others within ran free := RenderContext.lookup_of_run within ran free
  ascending ran ascending := RenderContext.ascending_of_run ran ascending

section KeepsOrder

variable (ordered : environment.KeepsOrder)

theorem keepsOrder_ofStore (store : Store σ) (now : Int64) : (ofStore store now).KeepsOrder :=
  ⟨Entries.ascending_nil, List.forall_mem_nil _⟩

include ordered

theorem KeepsOrder.share (name : String) (value : Value) :
    (environment.share name value).KeepsOrder :=
  ⟨Entries.ascending_put name value ordered.shared, ordered.compose⟩

theorem KeepsOrder.addFunction (name : String) (function : HostFunction) :
    (environment.addFunction name function).KeepsOrder :=
  ⟨ordered.shared, ordered.compose⟩

theorem KeepsOrder.addComposer (composer : Composer)
    (keeps : ∀ view data, data.Ascending → (composer.compose view data).Ascending) :
    (environment.addComposer composer).KeepsOrder :=
  ⟨ordered.shared,
    List.forall_mem_append.2 ⟨ordered.compose, List.forall_mem_singleton.2 keeps⟩⟩

end KeepsOrder

/-- The precedence of data, for all ways to enter a view. -/
structure HasPrecedence (environment : Environment σ) : Prop where
  linked (fuel : Nat) (name : String) (links : List DataLink) :
    environment.RendersLinked fuel name links
  made {name : Identifier} : name.name = "make" → ∀ arguments, environment.Makes name arguments
  /-- Wherever a view is included, the code of the inclusion is refused or includes the view. -/
  included {text arguments raw behind : List Char} :
    recognize? text = some (.directive .include (some arguments) raw, behind) →
      (Piece.directive .include (some arguments) raw).lowered = .code (includeCode arguments) ∧
        ∀ offset rest,
          (∃ error, clausesFrom offset (includeCode arguments ++ rest) = ⟨[], .failed error⟩) ∨
            ∃ given call span, IsInclusion given call ∧ environment.Includes given call ∧
              clausesFrom offset (includeCode arguments ++ rest) =
                (clausesFrom (offset + byteLength (includeCode arguments)) rest).cons
                  ⟨.action (.echo call), span⟩
  /-- In general, a view that is entered with parameters begins with them on top. -/
  entered (fuel levels : Nat) (view : String) {layers : List (Entries Value)}
    {parameters : Entries Value} : IsLayered layers parameters →
      environment.Enters fuel levels view layers
        (environment.renderAt fuel (levels + 1) view parameters)
  element (fuel levels : Nat) (view iterator : String) (key element : Value) :
    environment.Enters fuel levels view [[(iterator, element)], [("key", key)]]
      (environment.renderAt fuel (levels + 1) view
        (RenderContext.elementParameters iterator key element))
  ascending {view : String} {layers : List (Entries Value)} {scope : Entries Value} :
    environment.BeginsWith view layers scope → scope.Ascending
  keeps (source : String) (base levels fuel : Nat) :
    KeepsVariables (environment.contextAt source base levels fuel)

/-- Data has the same precedence however a view is entered. -/
theorem hasPrecedence_of_keepsOrder (ordered : environment.KeepsOrder) :
    environment.HasPrecedence where
  linked := rendersLinked ordered.shared
  made makes _ := by
    intro source base levels fuel scope state reached view maps layers context given few parameters
    exact evaluate_make ordered.shared makes given few parameters
  included recognized := by
    refine ⟨lowered_include _ _, fun offset rest => ?_⟩
    rcases clausesFrom_include recognized offset rest with
      refused | ⟨given, call, span, isInclusion, clauses⟩
    · exact .inl refused
    · refine .inr ⟨given, call, span, isInclusion, ?_, clauses⟩
      intro source base levels fuel page state reached view maps layers context scope evaluated few
        parameters
      exact perform_include ordered.shared scope isInclusion evaluated few parameters
  entered fuel levels view := enters_renderAt ordered.shared fuel levels view
  element fuel levels view iterator key element :=
    enters_renderAt ordered.shared fuel levels view
      (isLayered_elementParameters iterator key element)
  ascending := by
    rintro view layers scope ⟨data, layered, composes⟩
    exact composes.ascending (fun composer member => ordered.compose composer member view)
      layered.ascending
  keeps _ _ _ _ := keepsVariables _

/-- An environment that shares a title, and in which a composer tells all views their names. -/
def titled : Environment MemoryViews :=
  ((ofStore Store.memory 0).share "title" (.string "Shop")).addComposer
    ⟨"*", fun view data => Entries.put "view" (.string view) data⟩

theorem hasPrecedence_titled : titled.KeepsOrder ∧ titled.HasPrecedence := by
  have ordered : titled.KeepsOrder :=
    ((keepsOrder_ofStore Store.memory 0).share "title" (.string "Shop")).addComposer _
      fun view _ => Entries.ascending_put "view" (Value.string view)
  exact ⟨ordered, hasPrecedence_of_keepsOrder ordered⟩

end Environment

end ViewTemplate
