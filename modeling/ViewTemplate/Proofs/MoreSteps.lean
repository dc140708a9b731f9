import ViewTemplate.Proofs.Execution
import ViewTemplate.Proofs.Relation

/-!
More steps than a rendering needs make no difference: where fewer steps suffice, it ends in the same
way (`agrees_renderAt`).
-/

namespace ViewTemplate

open Fragment

namespace Outcome

variable {σ α : Type} (outcome : Outcome σ α)

@[simp]
theorem settled_mapError (change : Error → Error) :
    Settled (mapError change outcome) ↔ Settled outcome := by
  rcases outcome with ⟨result, reached⟩ | ⟨error | _, reached⟩ <;> rfl

@[simp]
theorem settled_mapReached (change : RenderState σ → RenderState σ) :
    Settled (mapReached change outcome) ↔ Settled outcome := by
  rcases outcome with ⟨result, reached⟩ | ⟨error | _, reached⟩ <;> rfl

end Outcome

namespace Render

variable {σ α β : Type}

/-- Where the steps of the first rendering suffice the second one does the same. -/
def Agrees (few more : Render σ α) : Prop :=
  ∀ state, Outcome.Settled (few state) → more state = few state

theorem Agrees.refl (rendering : Render σ α) : Agrees rendering rendering :=
  fun _ _ => rfl

theorem agrees_exhaust (more : Render σ α) : Agrees Rendering.exhaust more :=
  fun _ settled => settled.elim

theorem Agrees.bind {few more : Render σ α} {next₁ next₂ : α → Render σ β}
    (first : Agrees few more) (second : ∀ result, Agrees (next₁ result) (next₂ result)) :
    Agrees (few >>= next₁) (more >>= next₂) := by
  intro state settled
  have same := first state (settled_of_bind settled)
  cases ended : few state with
  | ok result reached =>
      rw [bind_of_ok ended] at settled ⊢
      rw [bind_of_ok (same.trans ended)]
      exact second result reached settled
  | error interrupt reached =>
      rw [bind_of_error ended, bind_of_error (same.trans ended)]

theorem Agrees.mapError {few more : Render σ α} (change : Error → Error)
    (agrees : Agrees few more) :
    Agrees (Rendering.mapError change few) (Rendering.mapError change more) := by
  intro state settled
  exact congrArg (Outcome.mapError change)
    (agrees state ((Outcome.settled_mapError _ change).1 settled))

theorem Agrees.framed {few more : Nat → Render σ α}
    (bodies : ∀ base, Agrees (few base) (more base)) :
    Agrees (Rendering.framed few) (Rendering.framed more) := by
  intro state settled
  exact congrArg (Outcome.mapReached _)
    (bodies state.sections.depth state ((Outcome.settled_mapReached _ _).1 settled))

/-- Agreement is kept by all that renderings are made of. -/
def agreement (σ : Type) : Rendering.ViewRelation σ (Render σ) (Render σ) where
  Index := Nat
  left := id
  right := id
  Inner _ := True
  Same e₁ e₂ := e₁ = e₂
  Holds _ _ few more := Agrees few more
  same_unlocated _ _ := rfl
  same_refl _ := rfl
  pure _ _ := Agrees.refl _
  bind := Agrees.bind
  fail same := same ▸ Agrees.refl _
  exhaust _ := agrees_exhaust _
  mapError view := Agrees.mapError (Error.inView view)
  programOf _ _ _ := Agrees.refl _
  contains _ _ _ := Agrees.refl _
  content _ _ := Agrees.refl _
  start _ _ := Agrees.refl _
  extend _ _ _ := Agrees.refl _
  close _ same := same ▸ Agrees.refl _
  write _ _ := Agrees.refl _
  unclosed _ := Agrees.refl _
  framed bodies := Agrees.framed fun base => bodies base trivial

section Views

variable (environment : Environment σ) {fewer fuel : Nat} (enough : fewer ≤ fuel)

include enough

/-- A rendering that ends goes on in the same way when more steps are allowed. -/
theorem agrees_renderAt (levels : Nat) (view : String) (parameters : Entries Value) :
    Agrees (environment.renderAt fewer levels view parameters)
      (environment.renderAt fuel levels view parameters) :=
  (agreement σ).renderAt environment (.inr ⟨enough, agrees_exhaust⟩) levels Nat.zero view parameters

theorem agrees_run (levels : Nat) (source : String) (base : Nat) (instructions : Array Instruction)
    {few more : Nat} (steps : few ≤ more) (frame : RenderFrame) :
    Agrees
      (RenderContext.run ⟨environment, source, base, environment.renderAt fewer levels⟩
        instructions few frame)
      (RenderContext.run ⟨environment, source, base, environment.renderAt fuel levels⟩
        instructions more frame) := by
  have contexts : (agreement σ).Contexts base id
      ⟨environment, source, base, environment.renderAt fewer levels⟩
      ⟨environment, source, base, environment.renderAt fuel levels⟩ :=
    { environment := rfl
      left := rfl
      right := rfl
      errors := fun _ _ => rfl
      enter := agrees_renderAt environment enough levels }
  exact Rendering.Relation.run trivial contexts (fun instruction _ => instruction.mapSpans_id)
    (agrees_exhaust _) (.inr ⟨steps, agrees_exhaust⟩) frame

end Views
end Render

end ViewTemplate
