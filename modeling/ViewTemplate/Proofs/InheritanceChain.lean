import ViewTemplate.Proofs.Inheritance

/-!
Rendering chains of views that extend each other.
-/

namespace ViewTemplate

open Fragment

/-! ## Effects of actions -/

namespace RenderContext

variable {σ : Type} {context : RenderContext σ (Render σ)} {page : Page} {state : RenderState σ}

theorem emit_captured {capture : Capture} {outer : List Capture}
    (opened : state.sections.captures = capture :: outer) (inside : context.base ≤ outer.length)
    (text : String) :
    context.emit text page state =
      .ok page { state with
        sections := ⟨⟨capture.name, capture.text ++ text⟩ :: outer, state.sections.table⟩ } := by
  have within : context.base < state.sections.depth := by
    rw [Sections.depth, opened]
    exact Nat.lt_succ_of_le inside
  have written : (Rendering.write context.base text : Render σ Bool) state =
      .ok true { state with
        sections := ⟨⟨capture.name, capture.text ++ text⟩ :: outer, state.sections.table⟩ } := by
    change Render.write context.base text state = _
    rw [Render.write, if_pos within, Sections.write?, opened]
  rw [emit, Render.bind_of_ok written]
  rfl

theorem emit_outside (outside : state.sections.depth ≤ context.base) (text : String) :
    context.emit text page state = .ok { page with output := page.output ++ text } state := by
  have written : (Rendering.write context.base text : Render σ Bool) state = .ok false state := by
    change Render.write context.base text state = _
    rw [Render.write, if_neg (Nat.not_lt.2 outside)]
  rw [emit, Render.bind_of_ok written]
  rfl

section Closing

variable {capture : Capture} {outer : List Capture}
  (opened : state.sections.captures = capture :: outer) (inside : context.base ≤ outer.length)
  (missing : Error)

include opened inside

theorem close_of_close? {closing : Closing} {text : String} {sections : Sections}
    (closes : state.sections.close? closing = some (text, sections)) :
    (Rendering.close closing context.base missing : Render σ String) state =
      .ok text { state with sections := sections } := by
  have within : context.base < state.sections.depth := by
    rw [Sections.depth, opened]
    exact Nat.lt_succ_of_le inside
  change Render.close closing context.base missing state = _
  rw [Render.close, if_pos within, closes]

theorem close_stop :
    (Rendering.close .stop context.base missing : Render σ String) state =
      .ok capture.name { state with
        sections :=
          (⟨outer, state.sections.table⟩ : Sections).extend capture.name capture.text } := by
  refine close_of_close? opened inside missing ?_
  rw [Sections.close?, Sections.stop?, opened]

theorem close_yield :
    (Rendering.close .yield context.base missing : Render σ String) state =
      .ok
        (((⟨outer, state.sections.table⟩ : Sections).extend capture.name capture.text).content
          capture.name)
        { state with
          sections :=
            (⟨outer, state.sections.table⟩ : Sections).extend capture.name capture.text } := by
  refine close_of_close? opened inside missing ?_
  rw [Sections.close?, Sections.yieldSection?, Sections.stop?, opened]
  rfl

end Closing

/-! ## Views -/

section Views

variable {sectionName : String} {start : Expression} (isStart : StartsSection sectionName start)
  (content : String)

include isStart

/-- The content of a section is gathered in a capture of its own. -/
theorem foldlM_gather (based : context.base = state.sections.depth) (others : List Action) :
    (.evaluate start :: (rawActions content.toList ++ others)).foldlM context.perform page state =
      others.foldlM context.perform page { state with
        sections :=
          ⟨⟨sectionName, content⟩ :: state.sections.captures, state.sections.table⟩ } := by
  have started : context.perform page (.evaluate start) state =
      .ok page { state with sections := state.sections.start sectionName } := by
    rw [context.perform_startSection page isStart]
    rfl
  have inside : context.base ≤ state.sections.captures.length := Nat.le_of_eq based
  rw [List.foldlM_cons, Render.bind_of_ok started, rawActions]
  split
  next empty =>
    rw [String.toList_eq_nil_iff.1 empty]
    rfl
  next =>
    have opened : ({ state with sections := state.sections.start sectionName } :
        RenderState σ).sections.captures = ⟨sectionName, ""⟩ :: state.sections.captures := rfl
    have gathered : context.emit content page
        { state with sections := state.sections.start sectionName } =
      .ok page { state with
        sections :=
          ⟨⟨sectionName, "" ++ content⟩ :: state.sections.captures, state.sections.table⟩ } :=
      emit_captured opened inside content
    rw [String.empty_append] at gathered
    rw [List.singleton_append, List.foldlM_cons, String.ofList_toList]
    exact Render.bind_of_ok gathered _

/-- A view that extends another gives its content to the section, and then renders the other. -/
theorem foldlM_extendingActions (based : context.base = state.sections.depth)
    {stop make : Expression} {parent output : String} (isStop : ClosesSection "stop_section" stop)
    (isMake : MakesView parent make) {reached : RenderState σ}
    (entered : context.enter parent (Entries.overlay [] page.scope)
      { state with sections := state.sections.extend sectionName content } = .ok output reached)
    (kept : reached.sections.captures = state.sections.captures) :
    (extendingActions start stop make content.toList).foldlM context.perform page state =
      .ok { page with output := page.output ++ "\n" ++ output } reached := by
  have inside : context.base ≤ state.sections.captures.length := Nat.le_of_eq based
  rw [extendingActions, foldlM_gather isStart content based]
  obtain ⟨span, stopping⟩ := context.perform_stopSection page isStop
  have stopped : context.perform page (.evaluate stop) { state with
      sections := ⟨⟨sectionName, content⟩ :: state.sections.captures, state.sections.table⟩ } =
      .ok page { state with sections := state.sections.extend sectionName content } := by
    rw [stopping, Render.bind_of_ok (close_stop rfl inside _)]
    rfl
  have atBase : ({ state with sections := state.sections.extend sectionName content } :
      RenderState σ).sections.depth ≤ context.base := Nat.le_of_eq based.symm
  have broken : context.perform page (.raw "\n")
      { state with sections := state.sections.extend sectionName content } =
      .ok { page with output := page.output ++ "\n" }
        { state with sections := state.sections.extend sectionName content } :=
    emit_outside atBase "\n"
  have made : context.perform { page with output := page.output ++ "\n" } (.echo make)
      { state with sections := state.sections.extend sectionName content } =
      .ok { page with output := page.output ++ "\n" ++ output } reached := by
    have outside : reached.sections.depth ≤ context.base := by
      rw [Sections.depth, kept]
      exact Nat.le_of_eq based.symm
    rw [context.perform_make _ isMake, Render.bind_of_ok entered]
    exact emit_outside outside output
  rw [List.foldlM_cons, Render.bind_of_ok stopped, List.foldlM_cons, Render.bind_of_ok broken,
    List.foldlM_cons, Render.bind_of_ok made]
  rfl

/-- A view that shows its section outputs the content that the section has then. -/
theorem foldlM_showingActions (based : context.base = state.sections.depth)
    {yield : Expression} (isYield : ClosesSection "yield_section" yield) :
    (showingActions start yield content.toList).foldlM context.perform page state =
      .ok
        { page with
          output := page.output ++
            (state.sections.extend sectionName content).content sectionName }
        { state with sections := state.sections.extend sectionName content } := by
  have inside : context.base ≤ state.sections.captures.length := Nat.le_of_eq based
  rw [showingActions, foldlM_gather isStart content based]
  obtain ⟨span, yielding⟩ := context.perform_yieldSection page isYield
  have atBase : ({ state with sections := state.sections.extend sectionName content } :
      RenderState σ).sections.depth ≤ context.base := Nat.le_of_eq based.symm
  have yielded : context.perform page (.echo yield) { state with
      sections := ⟨⟨sectionName, content⟩ :: state.sections.captures, state.sections.table⟩ } =
      .ok
        { page with
          output := page.output ++
            (state.sections.extend sectionName content).content sectionName }
        { state with sections := state.sections.extend sectionName content } := by
    rw [yielding, Render.bind_of_ok (close_yield rfl inside _)]
    exact emit_outside atBase _
  rw [List.foldlM_cons, Render.bind_of_ok yielded]
  rfl

end Views

end RenderContext

end ViewTemplate
