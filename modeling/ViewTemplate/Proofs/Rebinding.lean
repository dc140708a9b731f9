import ViewTemplate.Proofs.Execution

/-!
Which variables the code of a view binds: the targets of its own assignments and the variables of
its own loops. Whatever else it does, rendering other views included, the other variables keep their
values (`lookup_of_run`).
-/

namespace ViewTemplate

open Fragment

/-! ## Bound names -/

namespace Fragment

def LoopVariables.names : LoopVariables → List String
  | .item target => [target.name]
  | .entry key value => [key.name, value.name]

def Action.binds : Action → List String
  | .assign assignment => [assignment.target.name]
  | .raw _ | .echo _ | .evaluate _ => []

/-- The names that an instruction binds, or lets the instructions behind it bind. -/
def Instruction.binds : Instruction → List String
  | .perform action => action.binds
  | .startLoop binding _ => binding.names
  | .jump _ | .jumpUnless _ _ | .nextElement _ => []

end Fragment

/-- Variables that come from others by binding some of these names, any number of times. -/
inductive Rebinds (bound : List String) (scope : Entries Value) : Entries Value → Prop
  | refl : Rebinds bound scope scope
  | put {name : String} {middle : Entries Value} (value : Value) :
      name ∈ bound → Rebinds bound scope middle →
        Rebinds bound scope (Entries.put name value middle)

namespace Rebinds

variable {bound : List String} {scope middle last : Entries Value}

theorem trans (first : Rebinds bound scope middle) (second : Rebinds bound middle last) :
    Rebinds bound scope last := by
  induction second with
  | refl => exact first
  | put value isBound _ inductionHypothesis => exact .put value isBound inductionHypothesis

theorem eq_of_nil (rebinds : Rebinds [] scope last) : last = scope := by
  cases rebinds with
  | refl => rfl
  | put value isBound => cases isBound

/-- All other variables keep their values. -/
theorem lookup_eq (rebinds : Rebinds bound scope last) {name : String} (free : name ∉ bound) :
    last.lookup name = scope.lookup name := by
  induction rebinds with
  | refl => rfl
  | @put other middle value isBound _ inductionHypothesis =>
      have different : name ≠ other := fun same => free (same ▸ isBound)
      rw [Entries.lookup_put, if_neg different, inductionHypothesis]

theorem ascending (rebinds : Rebinds bound scope last) (ascending : scope.Ascending) :
    last.Ascending := by
  induction rebinds with
  | refl => exact ascending
  | put value _ _ inductionHypothesis => exact Entries.ascending_put _ value inductionHypothesis

end Rebinds

/-! ## Runs -/

/-- The loops that are running bind only these names. -/
def RenderFrame.LoopsWithin (bound : List String) (frame : RenderFrame) : Prop :=
  ∀ loop ∈ frame.loops, loop.binding.names ⊆ bound

theorem RenderFrame.loopsWithin_initial (bound : List String) (scope : Entries Value) :
    (RenderFrame.initial scope).LoopsWithin bound :=
  List.forall_mem_nil _

theorem Page.rebinds_bindElement {bound : List String} {binding : LoopVariables}
    (within : binding.names ⊆ bound) (key element : Value) (page : Page) :
    Rebinds bound page.scope (page.bindElement binding key element).scope := by
  cases binding with
  | item target => exact .put element (within List.mem_cons_self) .refl
  | entry keyName valueName =>
      have keyBound : keyName.name ∈ bound := within (by simp [LoopVariables.names])
      have valueBound : valueName.name ∈ bound := within (by simp [LoopVariables.names])
      exact .put element valueBound (.put key keyBound .refl)

namespace RenderContext

open Render

variable {σ : Type} {context : RenderContext σ (Render σ)} {bound : List String}

theorem scope_of_emit {text : String} {page after : Page} {state reached : RenderState σ}
    (emitted : context.emit text page state = .ok after reached) : after.scope = page.scope := by
  obtain ⟨captured, _, -, ended⟩ := exists_ok_of_bind emitted
  cases captured <;> cases ended <;> rfl

theorem rebinds_perform {action : Action} (within : action.binds ⊆ bound) {page after : Page}
    {state reached : RenderState σ}
    (performed : context.perform page action state = .ok after reached) :
    Rebinds bound page.scope after.scope := by
  cases action with
  | raw text => exact scope_of_emit performed ▸ .refl
  | echo expression =>
      obtain ⟨value, _, -, rendered⟩ := exists_ok_of_bind performed
      obtain ⟨text, _, -, emitted⟩ := exists_ok_of_bind rendered
      exact scope_of_emit emitted ▸ .refl
  | evaluate expression =>
      obtain ⟨value, _, -, ended⟩ := exists_ok_of_bind performed
      cases ended
      exact .refl
  | assign assignment =>
      obtain ⟨value, _, -, ended⟩ := exists_ok_of_bind performed
      cases ended
      exact .put value (within (.head _)) .refl

/-- A step binds only names of its instruction and of the loops that are running. -/
theorem rebinds_step {instruction : Instruction} (within : instruction.binds ⊆ bound)
    {frame next : RenderFrame} (loops : frame.LoopsWithin bound) {state reached : RenderState σ}
    (stepped : context.step frame instruction state = .ok next reached) :
    Rebinds bound frame.page.scope next.page.scope ∧ next.LoopsWithin bound := by
  cases instruction with
  | perform action =>
      obtain ⟨page, _, performed, ended⟩ := exists_ok_of_bind stepped
      cases ended
      exact ⟨rebinds_perform within performed, loops⟩
  | jump target =>
      cases stepped
      exact ⟨.refl, loops⟩
  | jumpUnless condition target =>
      obtain ⟨value, _, -, ended⟩ := exists_ok_of_bind stepped
      cases ended
      split
      · exact ⟨.refl, loops⟩
      · exact ⟨.refl, loops⟩
  | startLoop binding iterable =>
      obtain ⟨elements, _, -, ended⟩ := exists_ok_of_bind stepped
      cases ended
      exact ⟨.refl, List.forall_mem_cons.2 ⟨within, loops⟩⟩
  | nextElement target =>
      obtain ⟨position, running, page⟩ := frame
      cases running with
      | nil =>
          cases stepped
          exact ⟨.refl, loops⟩
      | cons loop outer =>
          obtain ⟨binding, remaining⟩ := loop
          obtain ⟨inner, others⟩ := List.forall_mem_cons.1 loops
          cases remaining with
          | nil =>
              cases stepped
              exact ⟨.refl, others⟩
          | cons entry remaining =>
              cases stepped
              exact ⟨Page.rebinds_bindElement inner entry.1 entry.2 page,
                List.forall_mem_cons.2 ⟨inner, others⟩⟩

/-- A run binds only names of its instructions and of the loops that are running. -/
theorem rebinds_run {instructions : Array Instruction}
    (within : ∀ instruction ∈ instructions, instruction.binds ⊆ bound) {fuel : Nat}
    {frame last : RenderFrame} (loops : frame.LoopsWithin bound) {state reached : RenderState σ}
    (ran : context.run instructions fuel frame state = .ok last reached) :
    Rebinds bound frame.page.scope last.page.scope := by
  induction fuel generalizing frame state with
  | zero => cases ran
  | succ fuel inductionHypothesis =>
      cases here : instructions[frame.position]? with
      | none =>
          rw [run, here] at ran
          cases ran
          exact .refl
      | some instruction =>
          rw [run_succ here] at ran
          obtain ⟨next, middle, stepped, later⟩ := exists_ok_of_bind ran
          have isOwn : instruction ∈ instructions := Array.mem_of_getElem? here
          obtain ⟨rebinds, loopsNext⟩ := rebinds_step (within instruction isOwn) loops stepped
          exact rebinds.trans (inductionHypothesis loopsNext later)

/-- All variables that a run does not bind keep their values. -/
theorem lookup_of_run {instructions : Array Instruction}
    (within : ∀ instruction ∈ instructions, instruction.binds ⊆ bound) {fuel : Nat}
    {scope : Entries Value} {last : RenderFrame} {state reached : RenderState σ}
    (ran : context.run instructions fuel (RenderFrame.initial scope) state = .ok last reached)
    {name : String} (free : name ∉ bound) : last.page.scope.lookup name = scope.lookup name := by
  have rebinds := rebinds_run within (RenderFrame.loopsWithin_initial bound scope) ran
  exact rebinds.lookup_eq free

/-- Variables that are in order when a run begins are in order when it ends. -/
theorem ascending_of_run {instructions : Array Instruction} {fuel : Nat} {scope : Entries Value}
    {last : RenderFrame} {state reached : RenderState σ}
    (ran : context.run instructions fuel (RenderFrame.initial scope) state = .ok last reached)
    (ascending : scope.Ascending) : last.page.scope.Ascending := by
  have within : ∀ instruction ∈ instructions,
      instruction.binds ⊆ instructions.toList.flatMap Instruction.binds := by
    intro instruction member name isBound
    exact List.mem_flatMap.2 ⟨instruction, member.val, isBound⟩
  have rebinds := rebinds_run within (RenderFrame.loopsWithin_initial _ scope) ran
  exact rebinds.ascending ascending

end RenderContext

end ViewTemplate
