import Mathlib
import ViewTemplate.Proofs.Coherence
import ViewTemplate.Proofs.Compilation
import ViewTemplate.Proofs.DisplacedPrograms
import ViewTemplate.Proofs.InheritanceChain
import ViewTemplate.Proofs.Underlay

/-!
Capturing what a fragment outputs. A fragment between the start of a section and the output of that
section renders to the same text as alone, and leaves the text in the section as well
(`renderFragment_capturedFragment`).
-/

namespace ViewTemplate

open Fragment Underlay

/-! ## Enclosed frames -/

def LoopState.mapSpans (move : Span → Span) (loop : LoopState) : LoopState :=
  ⟨loop.binding.mapSpans move, loop.remaining⟩

/-- The page of a fragment whose output goes to a capture. -/
def Page.silent (page : Page) : Page :=
  ⟨page.scope, ""⟩

/-- The frame of a fragment that is enclosed by two actions and whose output goes to a capture. -/
def RenderFrame.enclosed (move : Span → Span) (frame : RenderFrame) : RenderFrame :=
  ⟨frame.position + 1, frame.loops.map (LoopState.mapSpans move), frame.page.silent⟩

theorem Page.silent_bindElement (move : Span → Span) (binding : LoopVariables)
    (key element : Value) (page : Page) :
    page.silent.bindElement (binding.mapSpans move) key element =
      (page.bindElement binding key element).silent := by
  cases binding <;> rfl

theorem Page.output_bindElement (binding : LoopVariables) (key element : Value) (page : Page) :
    (page.bindElement binding key element).output = page.output := by
  cases binding <;> rfl

/-! ## Redirected output -/

/-- Successful renderings that do not begin a section are repeated with their output in a capture
for it, which holds `output` when they begin. -/
def Redirects {σ α β : Type} (name : String) (outer : List Capture) (output : String)
    (outputThen : α → String) (silence : α → β) (traced : Traced σ α) (plain : Render σ β) : Prop :=
  ∀ (state : RenderState σ) (opened : List Capture), state.Above name outer opened →
    ∀ (events : List SectionEvent) (result : α) (reached : RenderState σ),
      traced state = (events, .ok result reached) →
        (∀ event ∈ events, ¬ event.Begins name) →
          ∃ openedThen, reached.Above name outer openedThen ∧
            plain (state.withCaptures (opened ++ ⟨name, output⟩ :: outer)) =
              .ok (silence result)
                (reached.withCaptures (openedThen ++ ⟨name, outputThen result⟩ :: outer))

section Redirecting

variable {σ α β γ δ : Type} {name : String} {outer : List Capture} {output : String}
  {outputThen : α → String} {silence : α → β} {outputLast : γ → String} {silenceLast : γ → δ}

theorem redirects_pure {result : α} {silent : β} (same : outputThen result = output)
    (silenced : silent = silence result) :
    Redirects name outer output outputThen silence (pure result : Traced σ α) (pure silent) := by
  intro state opened above events other reached ended quiet
  cases ended
  subst same silenced
  exact ⟨opened, above, rfl⟩

theorem Redirects.bind {traced : Traced σ α} {plain : Render σ β} {next₁ : α → Traced σ γ}
    {next₂ : β → Render σ δ}
    (first : Redirects name outer output outputThen silence traced plain)
    (second : ∀ result, Redirects name outer (outputThen result) outputLast silenceLast
      (next₁ result) (next₂ (silence result))) :
    Redirects name outer output outputLast silenceLast (traced >>= next₁) (plain >>= next₂) := by
  intro state opened above events result reached ended quiet
  obtain ⟨before, middle, between, after, firstEnded, secondEnded, rfl⟩ :=
    Traced.exists_ok_of_bind ended
  obtain ⟨openedBetween, aboveBetween, same⟩ := first state opened above before middle between
    firstEnded fun event member => quiet event (List.mem_append_left _ member)
  obtain ⟨openedThen, aboveThen, sameThen⟩ := second middle between openedBetween aboveBetween
    after result reached secondEnded fun event member =>
      quiet event (List.mem_append_right _ member)
  exact ⟨openedThen, aboveThen, (Render.bind_of_ok same next₂).trans sameThen⟩

/-- What is repeated above any capture leaves the output as it is. -/
theorem Repeats.redirects {traced : Traced σ γ} {plain : Render σ γ} {next₁ : γ → Traced σ α}
    {next₂ : γ → Render σ β} (first : Repeats name outer traced plain)
    (second : ∀ result,
      Redirects name outer output outputThen silence (next₁ result) (next₂ result)) :
    Redirects name outer output outputThen silence (traced >>= next₁) (plain >>= next₂) := by
  have unchanged : Redirects name outer output (fun _ => output) id traced plain := by
    intro state opened above events result reached ended quiet
    obtain ⟨openedThen, aboveThen, same⟩ :=
      first state opened above events result reached ended quiet
    exact ⟨openedThen, aboveThen, same output⟩
  exact unchanged.bind second

end Redirecting

/-! ## Runs -/

section Running

variable {σ : Type} {name : String} {outer : List Capture} {move : Span → Span}
  {c₁ : RenderContext σ (Traced σ)} {c₂ : RenderContext σ (Render σ)}
  (contexts : (relation σ name outer).Contexts none move c₁ c₂)

include contexts

/-- Whether it goes to a capture of the fragment or to its page, output ends up in the same place
above the further capture. -/
theorem redirects_emit (text : String) (page : Page) :
    Redirects name outer page.output Page.output Page.silent (c₁.emit text page)
      (c₂.emit text page.silent) := by
  intro state opened above events result reached ended quiet
  have base₁ : c₁.base = outer.length := contexts.left
  have base₂ : c₂.base = outer.length := contexts.right
  obtain ⟨before, captured, between, after, written, returned, rfl⟩ :=
    Traced.exists_ok_of_bind ended
  cases returned
  have outcome : Render.write c₁.base text state = .ok captured reached :=
    congrArg Prod.snd written
  obtain ⟨stored, programs, captures, table⟩ := state
  obtain rfl : captures = opened ++ outer := above.captures
  unfold Render.write at outcome
  cases opened with
  | nil =>
      have outside : ¬ c₁.base < (⟨outer, table⟩ : Sections).depth :=
        Nat.not_lt.2 (Nat.le_of_eq base₁.symm)
      rw [List.nil_append, if_neg outside] at outcome
      cases outcome
      have redirected : (RenderState.withCaptures (⟨name, page.output⟩ :: outer)
          (⟨stored, programs, ⟨outer, table⟩⟩ : RenderState σ)).sections.captures =
            ⟨name, page.output⟩ :: outer := rfl
      exact ⟨[], above, RenderContext.emit_captured redirected (Nat.le_of_eq base₂) text⟩
  | cons capture others =>
      have inside : c₁.base < (⟨capture :: others ++ outer, table⟩ : Sections).depth := by
        rw [base₁, Sections.depth, List.length_append, List.length_cons]
        omega
      rw [if_pos inside] at outcome
      cases outcome
      obtain ⟨different, fresh⟩ := List.forall_mem_cons.1 above.fresh
      refine ⟨⟨capture.name, capture.text ++ text⟩ :: others,
        ⟨rfl, List.forall_mem_cons.2 ⟨different, fresh⟩, above.without⟩, ?_⟩
      have beyond : c₂.base ≤ (others ++ ⟨name, page.output⟩ :: outer).length := by
        rw [base₂, List.length_append, List.length_cons]
        omega
      exact RenderContext.emit_captured rfl beyond text

theorem redirects_perform (page : Page) (action : Action) :
    Redirects name outer page.output Page.output Page.silent (c₁.perform page action)
      (c₂.perform page.silent (action.mapSpans move)) := by
  cases action with
  | raw text => exact redirects_emit contexts text page
  | echo expression =>
      have value := Rendering.Relation.evaluate contexts page.scope expression
      refine Repeats.redirects value fun result => ?_
      have text := Rendering.Relation.check contexts expression.span result.render
      rw [← Expression.span_mapSpans move] at text
      exact Repeats.redirects text fun written => redirects_emit contexts written page
  | evaluate expression =>
      have value := Rendering.Relation.evaluate contexts page.scope expression
      exact Repeats.redirects value fun _ => redirects_pure rfl rfl
  | assign assignment =>
      have value := Rendering.Relation.assigned contexts page.scope assignment
      exact Repeats.redirects value fun _ => redirects_pure rfl rfl

theorem redirects_step (frame : RenderFrame) (instruction : Instruction) :
    Redirects name outer frame.page.output (fun next => next.page.output)
      (RenderFrame.enclosed move) (c₁.step frame instruction)
      (c₂.step (frame.enclosed move) (instruction.displaced move 1)) := by
  cases instruction with
  | perform action =>
      exact (redirects_perform contexts frame.page action).bind fun _ => redirects_pure rfl rfl
  | jump target => exact redirects_pure rfl rfl
  | jumpUnless condition target =>
      have value := Rendering.Relation.evaluate contexts frame.page.scope condition
      refine Repeats.redirects value fun result => ?_
      cases result.isTruthy with
      | true => exact redirects_pure rfl rfl
      | false => exact redirects_pure rfl rfl
  | startLoop binding iterable =>
      have elements := Rendering.Relation.loopElements contexts frame.page.scope iterable
      exact Repeats.redirects elements fun _ => redirects_pure rfl rfl
  | nextElement target =>
      obtain ⟨position, loops, page⟩ := frame
      match loops with
      | [] => exact redirects_pure rfl rfl
      | ⟨_, []⟩ :: _ => exact redirects_pure rfl rfl
      | ⟨binding, (key, element) :: _⟩ :: _ =>
          refine redirects_pure (Page.output_bindElement binding key element page) ?_
          exact congrArg (RenderFrame.mk (position + 1 + 1) _)
            (Page.silent_bindElement move binding key element page)

/-- The run of a fragment is a part of the run of the same fragment between two actions, with its
output in the capture instead of the page. -/
theorem exists_steps_of_run {code₁ code₂ : Array Instruction}
    (enclosed : ∀ (position : Nat) (instruction : Instruction),
      code₁[position]? = some instruction →
        code₂[position + 1]? = some (instruction.displaced move 1))
    {fuel : Nat} {frame last : RenderFrame} {state reached : RenderState σ}
    {opened : List Capture} (above : state.Above name outer opened)
    {events : List SectionEvent}
    (ended : c₁.run code₁ fuel frame state = (events, .ok last reached))
    (quiet : ∀ event ∈ events, ¬ event.Begins name) :
    ∃ steps openedThen, steps < fuel ∧ reached.Above name outer openedThen ∧
      ∀ more, c₂.run code₂ (steps + more) (frame.enclosed move)
          (state.withCaptures (opened ++ ⟨name, frame.page.output⟩ :: outer)) =
        c₂.run code₂ more (last.enclosed move)
          (reached.withCaptures (openedThen ++ ⟨name, last.page.output⟩ :: outer)) := by
  induction fuel generalizing frame state opened events with
  | zero => cases ended
  | succ fuel inductionHypothesis =>
      rw [RenderContext.run] at ended
      cases here : code₁[frame.position]? with
      | none =>
          rw [here] at ended
          cases ended
          refine ⟨0, opened, Nat.succ_pos fuel, above, fun more => ?_⟩
          rw [Nat.zero_add]
      | some instruction =>
          rw [here] at ended
          obtain ⟨before, next, between, after, stepped, ranOn, rfl⟩ :=
            Traced.exists_ok_of_bind ended
          obtain ⟨openedBetween, aboveBetween, sameStep⟩ :=
            redirects_step contexts frame instruction state opened above before next between stepped
              fun event member => quiet event (List.mem_append_left _ member)
          obtain ⟨steps, openedThen, fewer, aboveThen, sameRun⟩ :=
            inductionHypothesis aboveBetween ranOn fun event member =>
              quiet event (List.mem_append_right _ member)
          refine ⟨steps + 1, openedThen, Nat.succ_lt_succ fewer, aboveThen, fun more => ?_⟩
          rw [Nat.add_right_comm, RenderContext.run_succ (enclosed frame.position instruction here),
            Render.bind_of_ok sameStep, sameRun]

end Running

/-! ## Programs -/

/-- Where the instructions of statements stand between those of two actions. -/
theorem getElem?_between {move : Span → Span} {statements : List Statement}
    (opening closing : Action) :
    let code := instructionsOf
      (.action opening :: (statements.map (Statement.mapSpans move) ++ [.action closing]))
    code[0]? = some (.perform opening) ∧
      (∀ (position : Nat) (instruction : Instruction),
        (instructionsOf statements)[position]? = some instruction →
          code[position + 1]? = some (instruction.displaced move 1)) ∧
        code[(instructionsOf statements).size + 1]? = some (.perform closing) ∧
          code[(instructionsOf statements).size + 2]? = none := by
  intro code
  have whole : code.toList = .perform opening ::
      ((instructionsOf statements).toList.map (Instruction.displaced move 1) ++
        [.perform closing]) := by
    rw [toList_instructionsOf, toList_instructionsOf, layoutAll_between]
  simp only [← Array.getElem?_toList, whole, ← Array.length_toList]
  refine ⟨rfl, fun position instruction here => ?_, ?_, ?_⟩
  · have inside := (List.getElem?_eq_some_iff.1 here).1
    rw [List.getElem?_cons_succ, List.getElem?_append_left (by simpa using inside),
      List.getElem?_map, here]
    rfl
  · simp
  · simp

namespace RenderContext

variable {σ : Type}

/-- A run of a whole program that succeeds ends behind the last instruction, without loops. -/
theorem eq_of_run_eq_ok (context : RenderContext σ (Render σ)) {statements : List Statement}
    {fuel : Nat} {scope : Entries Value} {frame : RenderFrame} {state reached : RenderState σ}
    (ran : context.run (instructionsOf statements) fuel (RenderFrame.initial scope) state =
      .ok frame reached) : frame = ⟨(instructionsOf statements).size, [], frame.page⟩ := by
  obtain ⟨_, rounds, executed⟩ :=
    (context.ends_run_iff statements (Page.initial scope) state (.ok frame reached)).1
      ⟨trivial, fuel, ran⟩
  obtain ⟨page, between, _, same⟩ := Render.exists_ok_of_bind executed
  cases same
  rfl

end RenderContext

/-- A program that succeeds is run to its end, and leaves no capture open. -/
theorem Traced.exists_run_of_renderProgram {σ : Type} {environment : Environment σ}
    {enter : String → Entries Value → Traced σ String} {fuel : Nat} {program : Program}
    {scope : Entries Value} {state reached : RenderState σ} {events : List SectionEvent}
    {output : String}
    (ended : environment.renderProgram enter fuel program scope state =
      (events, .ok output reached)) :
    ∃ ranEvents frame last,
      (⟨environment, program.source, state.sections.depth, enter⟩ :
            RenderContext σ (Traced σ)).run program.instructions fuel (RenderFrame.initial scope)
          state = (ranEvents, .ok frame last) ∧
        frame.page.output = output ∧ last.sections.captureAt? state.sections.depth = none ∧
          reached = last.truncate state.sections.depth ∧ ranEvents ⊆ events := by
  obtain ⟨inside, last, succeeded, same, rfl⟩ := Traced.exists_ok_of_framed ended
  obtain ⟨before, frame, between, after, ran, rest, rfl⟩ := Traced.exists_ok_of_bind succeeded
  obtain ⟨asking, unclosed, middle, finishing, asked, finished, rfl⟩ :=
    Traced.exists_ok_of_bind rest
  have within : before ⊆ before ++ (asking ++ finishing) ++ [.left state.sections.depth] :=
    List.subset_append_of_subset_left _ (List.subset_append_left before _)
  cases asked
  cases left : between.sections.captureAt? state.sections.depth with
  | some capture =>
      rw [left] at finished
      cases finished
  | none =>
      rw [left] at finished
      cases finished
      exact ⟨before, frame, last, ran, rfl, left, same, within⟩

theorem RenderState.Above.eq_nil {σ : Type} {name : String} {outer opened : List Capture}
    {state : RenderState σ} (above : state.Above name outer opened)
    (closed : state.sections.captureAt? outer.length = none) : opened = [] := by
  rw [Sections.captureAt?, above.captures, List.reverse_append,
    List.getElem?_append_right (by simp), List.length_reverse, Nat.sub_self,
    List.getElem?_eq_none_iff] at closed
  exact List.reverse_eq_nil_iff.1 (List.length_eq_zero_iff.1 (Nat.le_zero.1 closed))

section Programs

variable {σ : Type} {environment : Environment σ} {name : String} {fuel more levels : Nat}

theorem Underlay.contexts (outer : List Capture) (move : Span → Span) (source wrapped : String)
    (enough : fuel ≤ more) :
    (relation σ name outer).Contexts none move
      ⟨environment, source, outer.length, environment.renderAt fuel levels⟩
      ⟨environment, wrapped, outer.length, environment.renderAt more levels⟩ where
  environment := rfl
  left := rfl
  right := rfl
  errors _ _ := trivial
  enter :=
    (relation σ name outer).renderAt environment
      (Or.inr ⟨enough, fun _ => repeats_of_error fun _ => ⟨_, rfl⟩⟩) levels none

/-- What the further capture holds is output when it is closed. -/
theorem RenderContext.perform_yieldCapture {context : RenderContext σ (Render σ)}
    {outer : List Capture} (base : context.base = outer.length) {yield : Expression}
    (isYield : ClosesSection "yield_section" yield) {state : RenderState σ}
    (without : state.sections.content? name = none) (text : String) (page : Page) :
    context.perform page (.echo yield) (state.withCaptures (⟨name, text⟩ :: outer)) =
      .ok { page with output := page.output ++ text } { state with
        sections := ⟨outer, Entries.put name text state.sections.table⟩ } := by
  obtain ⟨span, yielding⟩ := context.perform_yieldSection page isYield
  have none : (⟨outer, state.sections.table⟩ : Sections).content? name = none := without
  have extended := Sections.extend_of_content?_eq_none none text
  have content : (⟨outer, Entries.put name text state.sections.table⟩ : Sections).content name =
      text := by
    rw [Sections.content, Sections.content?, Entries.lookup_put, if_pos rfl]
    rfl
  have closed : (Rendering.close .yield context.base (context.errorAt span .sectionUnderflow) :
      Render σ String) (state.withCaptures (⟨name, text⟩ :: outer)) =
        .ok text { state with
          sections := ⟨outer, Entries.put name text state.sections.table⟩ } := by
    rw [RenderContext.close_yield rfl (Nat.le_of_eq base)]
    change EStateM.Result.ok (((⟨outer, state.sections.table⟩ : Sections).extend name text).content
      name) { state with
        sections := (⟨outer, state.sections.table⟩ : Sections).extend name text } = _
    rw [extended, content]
  have outside : ({ state with
      sections := ⟨outer, Entries.put name text state.sections.table⟩ } :
        RenderState σ).sections.depth ≤ context.base := Nat.le_of_eq base.symm
  rw [yielding, Render.bind_of_ok closed]
  exact RenderContext.emit_outside outside text

/-- Between the start of a section and the output of the section the run of a fragment leaves on the
page what it leaves there alone. -/
theorem exists_run_between {outer : List Capture} {move : Span → Span}
    {c₁ : RenderContext σ (Traced σ)} {c₂ : RenderContext σ (Render σ)}
    (contexts : (relation σ name outer).Contexts none move c₁ c₂) {statements : List Statement}
    {start yield : Expression} (isStart : StartsSection name start)
    (isYield : ClosesSection "yield_section" yield) {scope : Entries Value} {frame : RenderFrame}
    {state reached : RenderState σ} {events : List SectionEvent}
    (ran : c₁.run (instructionsOf statements) fuel (RenderFrame.initial scope) state =
      (events, .ok frame reached))
    (quiet : ∀ event ∈ events, ¬ event.Begins name) (outside : state.sections.captures = outer)
    (without : state.sections.content? name = none)
    (behind : frame.position = (instructionsOf statements).size)
    (closed : reached.sections.captureAt? outer.length = none) (enough : fuel + 2 ≤ more) :
    ∃ last, last.page.output = frame.page.output ∧ reached.sections.captures = outer ∧
      c₂.run (instructionsOf (.action (.evaluate start) ::
          (statements.map (Statement.mapSpans move) ++ [.action (.echo yield)]))) more
          (RenderFrame.initial scope) state =
        .ok last { reached with
          sections := ⟨outer, Entries.put name frame.page.output reached.sections.table⟩ } := by
  obtain ⟨first, inside, ending, ended⟩ := getElem?_between (.evaluate start) (.echo yield)
  generalize instructionsOf (.action (.evaluate start) ::
    (statements.map (Statement.mapSpans move) ++ [.action (.echo yield)])) = code
      at first inside ending ended ⊢
  have above : state.Above name outer [] := ⟨outside, nofun, without⟩
  obtain ⟨steps, opened, fewer, aboveThen, same⟩ :=
    exists_steps_of_run contexts inside above ran quiet
  obtain rfl := aboveThen.eq_nil closed
  obtain ⟨left, rfl⟩ : ∃ left, more = steps + (left + 1 + 1) + 1 := ⟨more - steps - 3, by omega⟩
  have started : c₂.step (RenderFrame.initial scope) (.perform (.evaluate start)) state =
      .ok (RenderFrame.enclosed move (RenderFrame.initial scope))
        (state.withCaptures (⟨name, ""⟩ :: outer)) := by
    subst outside
    change (c₂.perform _ _ >>= _) state = _
    rw [c₂.perform_startSection _ isStart]
    rfl
  have base : c₂.base = outer.length := contexts.right
  have yielded := RenderContext.perform_yieldCapture base isYield aboveThen.without
    frame.page.output frame.page.silent
  let last : RenderFrame :=
    ⟨frame.position + 1 + 1, frame.loops.map (LoopState.mapSpans move),
      ⟨frame.page.scope, "" ++ frame.page.output⟩⟩
  have stepped : c₂.step (frame.enclosed move) (.perform (.echo yield))
      (reached.withCaptures (⟨name, frame.page.output⟩ :: outer)) =
        .ok last { reached with
          sections := ⟨outer, Entries.put name frame.page.output reached.sections.table⟩ } := by
    exact Render.bind_of_ok yielded _
  have here : code[(frame.enclosed move).position]? = some (.perform (.echo yield)) := by
    rw [RenderFrame.enclosed, behind, ending]
  have ends : code[last.position]? = none := by
    change code[frame.position + 1 + 1]? = none
    rw [behind, ended]
  refine ⟨last, String.empty_append, aboveThen.captures, ?_⟩
  rw [RenderContext.run_succ first, Render.bind_of_ok started]
  refine (same (left + 1 + 1)).trans ?_
  rw [RenderContext.run_succ here]
  refine (Render.bind_of_ok stepped _).trans ?_
  rw [RenderContext.run, ends]
  rfl

/-- Between the start of a section and the output of the section the program of a fragment outputs
what it outputs alone. -/
theorem Environment.renderProgram_between {statements : List Statement} {start yield : Expression}
    (isStart : StartsSection name start) (isYield : ClosesSection "yield_section" yield)
    (move : Span → Span) {source : String} (wrapped : String) {scope : Entries Value}
    {state reached : RenderState σ} {events : List SectionEvent} {output : String}
    (alone : (environment.renderProgram (environment.renderAt fuel levels) fuel
      ⟨source, instructionsOf statements⟩ scope : Traced σ String) state =
        (events, .ok output reached))
    (quiet : ∀ event ∈ events, ¬ event.Begins name)
    (without : state.sections.content? name = none) (enough : fuel + 2 ≤ more) :
    (environment.renderProgram (environment.renderAt more levels) more
        ⟨wrapped, instructionsOf (.action (.evaluate start) ::
          (statements.map (Statement.mapSpans move) ++ [.action (.echo yield)]))⟩ scope :
        Render σ String) state =
      .ok output { reached with
        sections := { reached.sections with
          table := Entries.put name output reached.sections.table } } := by
  obtain ⟨before, frame, between, ran, rfl, closed, rfl, within⟩ :=
    Traced.exists_run_of_renderProgram alone
  have same : ∀ instruction ∈ instructionsOf statements, instruction.mapSpans id = instruction :=
    fun instruction _ => instruction.mapSpans_id
  have plain := Rendering.Relation.run trivial
    (Traced.contexts environment fuel levels source state.sections.depth) same
    ((Traced.relation σ).exhaust _) (Or.inl (Eq.refl fuel)) (RenderFrame.initial scope)
  have ranPlain := (plain state).1.symm.trans (congrArg Prod.snd ran)
  have behind := RenderContext.eq_of_run_eq_ok _ ranPlain
  obtain ⟨last, same, captures, ranBetween⟩ := exists_run_between
    (Underlay.contexts state.sections.captures move source wrapped (Nat.le_of_add_right_le enough))
    isStart isYield ran (fun event member => quiet event (within member)) rfl without
    (congrArg RenderFrame.position behind) closed enough
  rw [Environment.renderProgram_of_run ranBetween rfl, RenderState.truncate_depth captures, same,
    ← captures]

end Programs

/-! ## Fragments -/

/-- A fragment between the start of a section and the output of the section. -/
def capturedFragment (name fragment : String) : String :=
  "<% __env.start_section(" ++ String.ofList (literalText name.toList) ++ "); %>" ++ fragment ++
    "<% echo __env.yield_section(); %>"

theorem toList_capturedFragment (name fragment : String) :
    (capturedFragment name fragment).toList =
      tagOf (startLexemes name.toList) ++ (fragment.toList ++ tagOf yieldLexemes) := by
  have starts : "<% __env.start_section(".toList ++ (literalText name.toList ++ "); %>".toList) =
      tagOf (startLexemes name.toList) := by
    simp [tagOf, codeOf, startLexemes, callLexemes, space, punctuation, nameLexeme,
      environmentName, beginTag, endTag]
  have yields : "<% echo __env.yield_section(); %>".toList = tagOf yieldLexemes := by
    simp [tagOf, codeOf, yieldLexemes, echoLexemes, callLexemes, space, punctuation, nameLexeme,
      environmentName, Keyword.word, beginTag, endTag]
  rw [← starts, ← yields]
  unfold capturedFragment
  simp only [String.toList_append, String.toList_ofList, List.append_assoc]

theorem exists_compile_capturedFragment (name : String) {fragment : String} {program : Program}
    (compiled : Program.compile fragment = .ok program) :
    ∃ statements start yield move, program = ⟨fragment, instructionsOf statements⟩ ∧
      StartsSection name start ∧ ClosesSection "yield_section" yield ∧
        Program.compile (capturedFragment name fragment) =
          .ok ⟨capturedFragment name fragment, instructionsOf (.action (.evaluate start) ::
            (statements.map (Statement.mapSpans move) ++ [.action (.echo yield)]))⟩ := by
  obtain ⟨statements, parsed, rfl⟩ := exists_parse_of_compile compiled
  obtain ⟨_, _, distance, ⟨start, rfl, isStart⟩, ⟨yield, rfl, isYield⟩, parsedBetween⟩ :=
    exists_parse_between (lexes_startLexemes _ name.toList) (readsAs_startLexemes name)
      (lexes_yieldLexemes []) (readsAs_echo_callLexemes "yield_section" readsAsArguments_nil)
      parsed
  refine ⟨statements, start, yield, Span.later distance, rfl, isStart, isYield, ?_⟩
  rw [Program.compile, toList_capturedFragment, parsedBetween]
  rfl

theorem Traced.follows_renderFragment {σ : Type} (environment : Environment σ)
    (fuel levels : Nat) (view fragment : String) (parameters : Entries Value) :
    Follows around (environment.renderFragment fuel levels view fragment parameters)
      (environment.renderFragment fuel levels view fragment parameters) :=
  follows_mapError _ <| follows_bind (follows_ofExcept _) fun program =>
    follows_renderProgram environment fuel levels program _

theorem Traced.exists_of_renderFragment {σ : Type} {environment : Environment σ}
    {fuel levels : Nat} {view fragment output : String} {parameters : Entries Value}
    {state reached : RenderState σ}
    (succeeded : ((environment.renderFragment fuel levels view fragment parameters :
      Traced σ String) state).2 = .ok output reached) :
    ∃ program, Program.compile fragment = .ok program ∧
      (environment.renderProgram (environment.renderAt fuel levels) fuel program
          (environment.variablesFor view parameters) : Traced σ String) state =
        (((environment.renderFragment fuel levels view fragment parameters : Traced σ String)
          state).1, .ok output reached) := by
  have rendered := Outcome.eq_ok_of_mapError succeeded
  cases compiled : Program.compile fragment with
  | error error =>
      rw [Rendering.compileFragment, compiled] at rendered
      cases rendered
  | ok program =>
      refine ⟨program, rfl, ?_⟩
      rw [Rendering.compileFragment, compiled] at rendered
      rw [Environment.renderFragment, Rendering.compileFragment, compiled]
      exact Prod.ext rfl rendered

/-- Capturing is transparent: a fragment that renders alone, and does not begin a section that is
without content, renders to the same output between the start and the output of that section, and
the section has the output as its content then. -/
theorem renderFragment_capturedFragment {σ : Type} {environment : Environment σ}
    {fuel more levels : Nat} {view name fragment output : String} {parameters : Entries Value}
    {state reached : RenderState σ}
    (alone : (environment.renderFragment fuel levels view fragment parameters :
      Render σ String) state = .ok output reached)
    (quiet : ∀ event ∈ ((environment.renderFragment fuel levels view fragment parameters :
      Traced σ String) state).1, ¬ event.Begins name)
    (without : state.sections.has name = false) (enough : fuel + 2 ≤ more) :
    (environment.renderFragment more levels view (capturedFragment name fragment) parameters :
        Render σ String) state =
      .ok output { reached with
        sections := { reached.sections with
          table := Entries.put name output reached.sections.table } } := by
  have none : state.sections.content? name = none :=
    Option.not_isSome_iff_eq_none.1 (Bool.eq_false_iff.1 without)
  have traced := (Traced.follows_renderFragment environment fuel levels view fragment parameters
    state).1.trans alone
  obtain ⟨program, compiled, rendered⟩ := Traced.exists_of_renderFragment traced
  obtain ⟨statements, start, yield, move, rfl, isStart, isYield, compiledBetween⟩ :=
    exists_compile_capturedFragment name compiled
  refine Environment.renderFragment_of_compile compiledBetween ?_
  exact Environment.renderProgram_between isStart isYield move _ rendered quiet none enough

theorem renderFragment_capturedFragment_of_inject :
    ((Environment.ofStore .memory 0).renderFragment 5 0 "page"
        (capturedFragment "main" "a<% __env.inject('side', 'b'); %>") [] :
          Render MemoryViews String) ⟨.empty, [], .empty⟩ =
      .ok "a" ⟨.empty, [], ⟨[], Entries.put "main" "a" [("side", "b")]⟩⟩ := by
  have traced : ((Environment.ofStore .memory 0).renderFragment 3 0 "page"
      "a<% __env.inject('side', 'b'); %>" [] : Traced MemoryViews String) ⟨.empty, [], .empty⟩ =
        ([.extended "side" "b", .left 0], .ok "a" ⟨.empty, [], ⟨[], [("side", "b")]⟩⟩) := by
    cbv
  have plain := (Traced.follows_renderFragment (Environment.ofStore .memory 0) 3 0 "page"
    "a<% __env.inject('side', 'b'); %>" [] ⟨.empty, [], .empty⟩).1
  rw [traced] at plain
  refine renderFragment_capturedFragment plain.symm ?_ rfl (Nat.le_refl 5)
  rw [traced]
  simp [SectionEvent.Begins]

end ViewTemplate
