import Mathlib
import ViewTemplate.Proofs.BoundedLoops
import ViewTemplate.Proofs.Nesting
import ViewTemplate.Store.Memory

/-!
Rendering without loops on a condition ends, even of views that are inside themselves: each view is
rendered at the depth that the programs around it make, and what is too deep is refused
(`staysWithin_render`).
-/

namespace ViewTemplate

open Fragment

variable {σ : Type}

/-! ## Renderings that no view is around -/

/-- Renders a view as `View.render` does, and notes each view with its depth. -/
def View.renderNested (view : View) (environment : Environment σ) (fuel : Nat) :
    Nested σ String := do
  let data ← Rendering.ofExcept view.data
  environment.renderNested fuel (environment.maxDepth + 1) view.name data

/-- Renders a view for each element of a collection as `Environment.showEach` does, and notes each
view with its depth. -/
def Environment.showEachNested (environment : Environment σ) (fuel : Nat) (view : String)
    (collection : Value) (iterator : String) (empty : Option String) : Nested σ String :=
  RenderContext.showEach (environment.renderNested fuel (environment.maxDepth + 1)) view collection
    iterator (empty.getD RenderContext.verbatimMark)

/-- From a state on, a rendering ends if each program may take enough steps, and with any number of
steps it carries out programs only as deep inside each other as the environment allows. -/
structure StaysWithin (environment : Environment σ) (state : RenderState σ)
    (rendering : Nat → Render σ String) (nested : Nat → Nested σ String) : Prop where
  ends : ∃ outcome, Staged.EndsWith rendering state outcome
  same (fuel : Nat) : NestedOutcome.plain (nested fuel 0 ⟨state, []⟩) = rendering fuel state
  depths (fuel : Nat) :
    ∀ event ∈ NestedOutcome.events (nested fuel 0 ⟨state, []⟩), event.KeepsDepth environment

theorem staysWithin_of_keepsDepth {environment : Environment σ} {state : RenderState σ}
    (coherent : state.Coherent) {rendering : Staged σ String} {nested : Nat → Nested σ String}
    (finishes : Staged.Finishes environment.store state.stored rendering fun _ => True)
    (keeps : ∀ fuel, Nested.KeepsDepth environment 0 (nested fuel) (rendering fuel)) :
    StaysWithin environment state rendering nested := by
  obtain ⟨outcome, ends, -⟩ := finishes state ⟨coherent, .start⟩
  have noted (fuel : Nat) := keeps fuel ⟨state, []⟩ fun _ none => by cases none
  exact ⟨⟨outcome, ends⟩, fun fuel => (noted fuel).1, fun fuel => (noted fuel).2⟩

section Tops

variable (environment : Environment σ) (state : RenderState σ)

/-- If no view loops on a condition, every rendering ends, with a result or an error, however views
are inside each other, and it keeps to the depth that the environment allows. -/
theorem staysWithin_render (coherent : state.Coherent)
    (bounded : environment.IsBounded state.stored) :
    (∀ view : View, StaysWithin environment state (fun fuel => view.render environment fuel)
      fun fuel => view.renderNested environment fuel) ∧
    ∀ view collection iterator empty, StaysWithin environment state
      (fun fuel => environment.showEach fuel view collection iterator empty)
      fun fuel => environment.showEachNested fuel view collection iterator empty := by
  have finishes (view : String) (parameters : Entries Value) :
      Staged.Finishes environment.store state.stored
        (fun fuel => environment.renderTop fuel view parameters) fun _ => True :=
    Staged.finishes_renderAt bounded _ view parameters
  have keeps (fuel : Nat) (view : String) (parameters : Entries Value) :
      Nested.KeepsDepth environment 0
        (environment.renderNested fuel (environment.maxDepth + 1) view parameters)
        (environment.renderTop fuel view parameters) :=
    Nested.keepsDepth_renderNested environment fuel _ view parameters (Nat.zero_add _)
  refine ⟨fun view => staysWithin_of_keepsDepth coherent ?_ fun fuel => ?_,
    fun view collection iterator empty => staysWithin_of_keepsDepth coherent ?_ fun fuel => ?_⟩
  · exact (Staged.finishes_ofExcept view.data).bind fun parameters _ =>
      finishes view.name parameters
  · exact (Nested.keepsDepth_ofExcept view.data).bind fun parameters =>
      keeps fuel view.name parameters
  · exact Staged.finishes_showEach finishes environment view collection iterator _
  · exact Rendering.Relation.showEach (Nested.contexts environment (keeps fuel) "" 0) view
      collection iterator _

end Tops

/-! ## A view inside itself -/

namespace Store

/-- Asking for views changes nothing in memory. -/
theorem Reaches.eq_of_memory {start stored : MemoryViews}
    (reaches : Reaches .memory start stored) : stored = start := by
  induction reaches with
  | start => rfl
  | asked _ view inductionHypothesis => exact inductionHypothesis

end Store

/-- Renders itself for each element of a list. -/
def selfIncluding : MemoryViews :=
  MemoryViews.insertFragment "self"
    "<% foreach ([1] as x): %><% echo __env.make('self'); %><% endforeach; %>" .empty

theorem staysWithin_render_selfIncluding :
    let environment := Environment.ofStore .memory 0
    let state : RenderState MemoryViews := ⟨selfIncluding, [], .empty⟩
    state.Coherent ∧ environment.IsBounded selfIncluding ∧
      StaysWithin environment state (fun fuel => (View.ofName "self").render environment fuel)
        fun fuel => (View.ofName "self").renderNested environment fuel := by
  intro environment state
  have coherent : state.Coherent := fun _ _ none => by cases none
  have bounded : environment.IsBounded selfIncluding := by
    intro stored view fragment reaches handed
    rw [reaches.eq_of_memory] at handed
    by_cases same : view = "self"
    · subst same
      cases handed
      cbv
    · have absent : (environment.store.compiled view selfIncluding).1 =
          .error (.viewNotFound view) := by
        change MemoryViews.compiled view selfIncluding = _
        simp [MemoryViews.compiled, selfIncluding, MemoryViews.insertFragment, MemoryViews.empty,
          Entries.lookup_put, same]
      rw [absent] at handed
      cases handed
  exact ⟨coherent, bounded,
    (staysWithin_render environment state coherent bounded).1 (View.ofName "self")⟩

end ViewTemplate
