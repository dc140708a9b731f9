import ViewTemplate.Proofs.Traced

/-!
Rendering and the captures around it. However a rendering ends, the captures that were open before
it are open after it with the texts that they had, and sections only have the contents that
completed operations gave them (`leavesCaptures_renderAt_and_render`).
-/

namespace ViewTemplate

/-- A rendering does not disturb the captures that it finds. The notes of its traced form explain
the sections that it reaches; of what they tell, only contents given to sections reach the table. -/
structure LeavesCaptures {σ : Type} (traced : Traced σ String) (plain : Render σ String)
    (state : RenderState σ) : Prop where
  outcome : (traced state).2 = plain state
  captures : (Outcome.reached (plain state)).sections.captures = state.sections.captures
  replayed :
    state.sections.replay? (traced state).1 = some (Outcome.reached (plain state)).sections
  table :
    (Outcome.reached (plain state)).sections.table =
      (state.sections.extendAll
        ((traced state).1.filterMap SectionEvent.finalized?)).table
  has (name : String) :
    state.sections.has name = true →
      (Outcome.reached (plain state)).sections.has name = true

theorem LeavesCaptures.of_follows {σ : Type} {traced : Traced σ String}
    {plain : Render σ String} (follows : Traced.Follows Traced.around traced plain)
    (state : RenderState σ) : LeavesCaptures traced plain state := by
  obtain ⟨outcome, replayed, captures⟩ := follows state
  have table := Sections.table_of_replay? replayed
  refine ⟨outcome, captures, replayed, table, fun name has => ?_⟩
  have extended := Sections.has_extendAll
    ((traced state).1.filterMap SectionEvent.finalized?) has
  simp only [Sections.has, Sections.content?, table] at extended ⊢
  exact extended

/-- No rendering disturbs the captures that it finds: neither of a view at any depth, nor of a view
with data. -/
theorem leavesCaptures_renderAt_and_render {σ : Type} (environment : Environment σ)
    (fuel : Nat) (state : RenderState σ) :
    (∀ levels view parameters,
      LeavesCaptures (environment.renderAt fuel levels view parameters)
        (environment.renderAt fuel levels view parameters) state) ∧
      ∀ view : View,
        LeavesCaptures (view.render environment fuel) (view.render environment fuel) state :=
  ⟨fun levels view parameters =>
    .of_follows (Traced.follows_renderAt environment fuel levels view parameters) state,
    fun view => .of_follows (Traced.follows_render view environment fuel) state⟩

end ViewTemplate
