import ViewTemplate.Proofs.Exchange

/-!
A view for each element, and the text that all of them give. Putting out the text of each view right
away and putting out the texts of all of them at the end comes to the same, because no view can see
what was put out before it (`alike_executeEach`).
-/

namespace ViewTemplate

open Fragment

variable {σ α β : Type}

/-! ## Endings of the same kind -/

/-- Endings that cannot be told apart from outside of a view that began with `base` captures: both
without an error, with the same output and in the same state; or both with the same error, when
leaving the view gives the same state. -/
inductive Outcome.Alike (base : Nat) (output : α → String) : Outcome σ α → Outcome σ α → Prop
  | ok {first second : α} (reached : RenderState σ) :
      output first = output second → Alike base output (.ok first reached) (.ok second reached)
  | error (interrupt : Interrupt) {first second : RenderState σ} :
      first.truncate base = second.truncate base →
        Alike base output (.error interrupt first) (.error interrupt second)

namespace Outcome.Alike

variable {base : Nat} {output : α → String} {first second third : Outcome σ α}

theorem symm (alike : Alike base output first second) : Alike base output second first := by
  cases alike with
  | ok reached same => exact .ok reached same.symm
  | error interrupt same => exact .error interrupt same.symm

theorem trans (left : Alike base output first second) (right : Alike base output second third) :
    Alike base output first third := by
  cases left with
  | ok reached same =>
      cases right with
      | ok _ other => exact .ok reached (same.trans other)
  | error interrupt same =>
      cases right with
      | error _ other => exact .error interrupt (same.trans other)

end Outcome.Alike

/-! ## Renderings that see no text -/

namespace SeesNoText

theorem pure (result : α) : SeesNoText (pure result : Render σ α) :=
  ⟨fun _ => rfl, fun _ _ _ => rfl⟩

theorem bind {rendering : Render σ α} {next : α → Render σ β} (first : SeesNoText rendering)
    (second : ∀ result, SeesNoText (next result)) : SeesNoText (rendering >>= next) := by
  refine ⟨fun state => ?_, fun state others sameLength => ?_⟩
  · have captures := first.captures state
    cases ended : rendering state with
    | ok result reached =>
        rw [ended] at captures
        rw [Render.bind_of_ok ended]
        exact ((second result).captures reached).trans captures
    | error interrupt reached =>
        rw [ended] at captures
        rw [Render.bind_of_error ended]
        exact captures
  · have captures := first.captures state
    have exchanged := first.exchanged state others sameLength
    cases ended : rendering state with
    | ok result reached =>
        rw [ended] at captures exchanged
        rw [Render.bind_of_ok ended, Render.bind_of_ok exchanged]
        exact (second result).exchanged reached others
          ((congrArg List.length captures).trans sameLength)
    | error interrupt reached =>
        rw [ended] at exchanged
        rw [Render.bind_of_error ended, Render.bind_of_error exchanged]
        rfl

theorem enterEach {enter : String → Entries Value → Render σ String}
    (sees : ∀ view parameters, SeesNoText (enter view parameters)) (view iterator : String)
    (elements : List (Value × Value)) :
    SeesNoText (RenderContext.enterEach enter view iterator elements) := by
  induction elements with
  | nil => exact pure ""
  | cons entry others inductionHypothesis =>
      exact (sees view _).bind fun output => inductionHypothesis.bind fun rest => pure _

end SeesNoText

/-! ## Output -/

/-- Captures with text added to the innermost one unless it is among the first `base`. -/
def Capture.extended (base : Nat) (text : String) : List Capture → List Capture
  | [] => []
  | capture :: outer =>
      if base ≤ outer.length then ⟨capture.name, capture.text ++ text⟩ :: outer
      else capture :: outer

namespace Capture

variable (base : Nat) (text : String) (captures : List Capture)

theorem length_extended : (extended base text captures).length = captures.length := by
  cases captures with
  | nil => rfl
  | cons capture outer =>
      rw [extended]
      split <;> rfl

theorem extended_empty : extended base "" captures = captures := by
  cases captures with
  | nil => rfl
  | cons capture outer => simp [extended]

theorem extended_append (more : String) :
    extended base (text ++ more) captures = extended base more (extended base text captures) := by
  cases captures with
  | nil => rfl
  | cons capture outer =>
      by_cases beyond : base ≤ outer.length
      · simp [extended, beyond, String.append_assoc]
      · simp [extended, beyond]

theorem drop_extended :
    (extended base text captures).drop (captures.length - base) =
      captures.drop (captures.length - base) := by
  cases captures with
  | nil => rfl
  | cons capture outer =>
      by_cases beyond : base ≤ outer.length
      · obtain ⟨dropped, count⟩ : ∃ dropped, (capture :: outer).length - base = dropped + 1 :=
          ⟨outer.length - base, by rw [List.length_cons]; omega⟩
        rw [extended, if_pos beyond, count, List.drop_succ_cons, List.drop_succ_cons]
      · rw [extended, if_neg beyond]

end Capture

/-- The state after output of a view that began with `base` captures. -/
def RenderState.written (base : Nat) (text : String) (state : RenderState σ) : RenderState σ :=
  state.withCaptures (Capture.extended base text state.sections.captures)

/-- Whether output of a view that began with `base` captures goes to a capture. -/
def RenderState.isCapturing (base : Nat) (state : RenderState σ) : Bool :=
  decide (base < state.sections.captures.length)

namespace RenderState

variable (base : Nat) (text : String) (state : RenderState σ)

theorem written_empty : state.written base "" = state := by
  rw [written, Capture.extended_empty]
  rfl

theorem written_written (more : String) :
    (state.written base text).written base more = state.written base (text ++ more) := by
  rw [written, written, written, Capture.extended_append]
  rfl

theorem truncate_written : (state.written base text).truncate base = state.truncate base := by
  have dropped := Capture.drop_extended base text state.sections.captures
  have depth : (state.written base text).sections.depth = state.sections.captures.length :=
    Capture.length_extended ..
  rw [truncate, Sections.truncate, depth]
  exact congrArg (fun captures => state.withCaptures captures) dropped

theorem isCapturing_written : (state.written base text).isCapturing base = state.isCapturing base :=
  congrArg (fun length => decide (base < length)) (Capture.length_extended ..)

end RenderState

/-- A rendering that sees no text ends in the same way after output. -/
theorem SeesNoText.written {rendering : Render σ α} (sees : SeesNoText rendering) (base : Nat)
    (text : String) (state : RenderState σ) :
    rendering (state.written base text) =
      Outcome.mapReached (RenderState.written base text) (rendering state) := by
  have captures := sees.captures state
  refine (sees.exchanged state _ (Capture.length_extended ..).symm).trans ?_
  cases ended : rendering state with
  | ok result reached =>
      rw [ended] at captures
      exact congrArg (fun captures => EStateM.Result.ok result
        (reached.withCaptures (Capture.extended base text captures))) captures.symm
  | error interrupt reached =>
      rw [ended] at captures
      exact congrArg (fun captures => EStateM.Result.error interrupt
        (reached.withCaptures (Capture.extended base text captures))) captures.symm

/-- The page after output that went to a capture or not. -/
def Page.emitted (captured : Bool) (text : String) (page : Page) : Page :=
  if captured then page else { page with output := page.output ++ text }

theorem Page.output_emitted (captured : Bool) (text : String) (page : Page) :
    (page.emitted captured text).output =
      if captured then page.output else page.output ++ text := by
  cases captured <;> rfl

theorem Render.write_eq (base : Nat) (text : String) (state : RenderState σ) :
    Render.write base text state = .ok (state.isCapturing base) (state.written base text) := by
  obtain ⟨stored, programs, captures, table⟩ := state
  cases captures with
  | nil => rfl
  | cons capture outer =>
      by_cases beyond : base ≤ outer.length
      · simp [Render.write, Sections.depth, Sections.write?, RenderState.isCapturing,
          RenderState.written, RenderState.withCaptures, Capture.extended, beyond,
          Nat.lt_succ_of_le beyond]
      · have outside : ¬ base < (capture :: outer).length :=
          fun within => beyond (Nat.le_of_lt_succ within)
        simp only [Render.write, Sections.depth, RenderState.isCapturing, RenderState.written,
          RenderState.withCaptures, Capture.extended, beyond, outside, if_false, decide_false]

/-! ## One view after the other -/

namespace RenderContext

variable (context : RenderContext σ (Render σ))

theorem emit_eq (text : String) (page : Page) (state : RenderState σ) :
    context.emit text page state =
      .ok (page.emitted (state.isCapturing context.base) text)
        (state.written context.base text) :=
  Render.bind_of_ok (Render.write_eq context.base text state) _

/-- Text that is put out before a rendering may as well be put out behind it, together with the text
that it gives. -/
theorem alike_emit {rendering : Render σ String} (sees : SeesNoText rendering) (text : String)
    {first second : Page} (same : first.output = second.output) (state : RenderState σ) :
    Outcome.Alike context.base Page.output
      ((rendering >>= fun rest =>
        context.emit rest (first.emitted (state.isCapturing context.base) text))
          (state.written context.base text))
      ((rendering >>= fun rest => context.emit (text ++ rest) second) state) := by
  have captures := sees.captures state
  have written := sees.written context.base text state
  cases ended : rendering state with
  | error interrupt reached =>
      rw [ended] at written
      rw [Render.bind_of_error written, Render.bind_of_error ended]
      exact .error interrupt (reached.truncate_written context.base text)
  | ok rest reached =>
      rw [ended] at captures written
      have capturing : state.isCapturing context.base = reached.isCapturing context.base := by
        rw [RenderState.isCapturing, ← captures]
        rfl
      rw [Render.bind_of_ok written, Render.bind_of_ok ended, emit_eq, emit_eq,
        RenderState.isCapturing_written, RenderState.written_written, capturing]
      refine .ok _ ?_
      cases reached.isCapturing context.base with
      | false => simp only [Page.output_emitted, same, String.append_assoc, Bool.false_eq_true,
          if_false]
      | true => simp only [Page.output_emitted, same, if_true]

/-- Goes through the elements and puts out the view of each, or puts out all views at the end. -/
theorem alike_executeEach
    (sees : ∀ view parameters, SeesNoText (context.enter view parameters))
    {binding : LoopVariables} {round : Page → Render σ Page} {view iterator : String}
    (rounds : ∀ (key element : Value) (page : Page), round (page.inRound binding key element) =
      context.enter view (elementParameters iterator key element) >>= fun output =>
        context.emit output (page.inRound binding key element))
    (elements : List (Value × Value)) (page : Page) (state : RenderState σ) :
    Outcome.Alike context.base Page.output (executeEach binding round elements page state)
      ((enterEach context.enter view iterator elements >>= fun output =>
        context.emit output page) state) := by
  induction elements generalizing page state with
  | nil =>
      change Outcome.Alike _ _ (.ok page state) (context.emit "" page state)
      rw [emit_eq, RenderState.written_empty]
      refine .ok state ?_
      rw [Page.output_emitted, String.append_empty, ite_self]
  | cons entry others inductionHypothesis =>
      obtain ⟨key, element⟩ := entry
      have left : executeEach binding round ((key, element) :: others) page =
          context.enter view (elementParameters iterator key element) >>= fun output =>
            context.emit output (page.inRound binding key element) >>= fun after =>
              executeEach binding round others after := by
        rw [executeEach, rounds, bind_assoc]
      have right : (enterEach context.enter view iterator ((key, element) :: others) >>=
            fun output => context.emit output page) =
          context.enter view (elementParameters iterator key element) >>= fun output =>
            enterEach context.enter view iterator others >>= fun rest =>
              context.emit (output ++ rest) page := by
        simp only [enterEach, bind_assoc, pure_bind]
      have sameOutput : (page.inRound binding key element).output = page.output := by
        cases binding <;> rfl
      rw [left, right]
      cases ended : context.enter view (elementParameters iterator key element) state with
      | error interrupt reached =>
          rw [Render.bind_of_error ended, Render.bind_of_error ended]
          exact .error interrupt rfl
      | ok output reached =>
          rw [Render.bind_of_ok ended, Render.bind_of_ok ended,
            Render.bind_of_ok (context.emit_eq output _ reached)]
          exact (inductionHypothesis _ _).trans
            (context.alike_emit (SeesNoText.enterEach sees view iterator others) output sameOutput
              reached)

end RenderContext

end ViewTemplate
