import ViewTemplate.Proofs.Spans
import ViewTemplate.Render.View

/-!
Relations between renderings. Rendering is written once for every monad with its operations, so a
relation that holds of the operations and is kept by their composition holds of whole renderings:
of evaluation (`Relation.evaluate`), of running a program (`Relation.run`) and of rendering a view
with all views inside it (`ViewRelation.renderAt`).
-/

namespace ViewTemplate

open Fragment

/-- What is kept by composition holds of finding the program of a view if it holds of the steps. -/
theorem Rendering.programOf_of_steps {σ : Type} {m n : Type → Type} [Rendering σ m]
    [Rendering σ n] (Holds : {α : Type} → m α → n α → Prop)
    (pure : ∀ program : Program, Holds (pure program) (pure program))
    (bind : ∀ {α β : Type} {x : m α} {y : n α} {f : α → m β} {g : α → n β},
      Holds x y → (∀ result, Holds (f result) (g result)) → Holds (x >>= f) (y >>= g))
    {environment : Environment σ} {view : String}
    (compiled : Holds (Rendering.compiled environment view : m String)
      (Rendering.compiled environment view))
    (kept : Holds (Rendering.kept? view : m (Option Program)) (Rendering.kept? view))
    (fresh : ∀ fragment, Holds (Rendering.freshProgram view fragment : m Program)
      (Rendering.freshProgram view fragment)) :
    Holds (Rendering.programOf environment view : m Program)
      (Rendering.programOf environment view) := by
  refine bind compiled fun fragment => ?_
  refine bind kept fun program? => ?_
  cases program? with
  | none => exact fresh fragment
  | some program =>
      by_cases same : program.source = fragment
      · simp only [same, if_true]
        exact pure program
      · simp only [same, if_false]
        exact fresh fragment

/-- A relation between renderings of two kinds that the operations of code keep. An index says in
which view the code is carried out; `left` and `right` give the numbers of captures that were open
when that view began. Whether the relation holds of running out of steps is left open. -/
structure Rendering.Relation (σ : Type) (m n : Type → Type)
    [Rendering σ m] [Rendering σ n] where
  Index : Type
  left : Index → Nat
  right : Index → Nat
  /-- Whether the output of the view is written alike on both sides. -/
  Inner : Index → Prop
  /-- Which errors may take each other's place. -/
  Same : Error → Error → Prop
  Holds : Index → {α : Type} → m α → n α → Prop
  same_unlocated (error : Error) : error.location = none → Same error error
  pure {α : Type} (i : Index) (result : α) : Holds i (pure result) (pure result)
  bind {α β : Type} {i : Index} {x : m α} {y : n α} {f : α → m β} {g : α → n β} :
    Holds i x y → (∀ result, Holds i (f result) (g result)) → Holds i (x >>= f) (y >>= g)
  fail {α : Type} {i : Index} {e₁ e₂ : Error} :
    Same e₁ e₂ → Holds i (Rendering.fail e₁ : m α) (Rendering.fail e₂)
  contains (i : Index) (environment : Environment σ) (view : String) :
    Holds i (Rendering.contains environment view) (Rendering.contains environment view)
  content (i : Index) (name : String) :
    Holds i (Rendering.content name) (Rendering.content name)
  start (i : Index) (name : String) :
    Holds i (Rendering.start name) (Rendering.start name)
  extend (i : Index) (name text : String) :
    Holds i (Rendering.extend name text) (Rendering.extend name text)
  close {i : Index} {e₁ e₂ : Error} (closing : Closing) :
    Same e₁ e₂ →
      Holds i (Rendering.close closing (left i) e₁) (Rendering.close closing (right i) e₂)
  write {i : Index} (text : String) :
    Inner i → Holds i (Rendering.write (left i) text) (Rendering.write (right i) text)
  unclosed {i : Index} :
    Inner i → Holds i (Rendering.unclosed? (left i)) (Rendering.unclosed? (right i))

/-- A relation that running out of steps and entering and leaving views keep too. -/
structure Rendering.ViewRelation (σ : Type) (m n : Type → Type)
    [Rendering σ m] [Rendering σ n] extends Rendering.Relation σ m n where
  same_refl (error : Error) : Same error error
  exhaust {α : Type} (i : Index) :
    Holds i (Rendering.exhaust : m α) Rendering.exhaust
  mapError {α : Type} {i : Index} {x : m α} {y : n α} (view : String) :
    Holds i x y →
      Holds i (Rendering.mapError (Error.inView view) x)
        (Rendering.mapError (Error.inView view) y)
  programOf (i : Index) (environment : Environment σ) (view : String) :
    Holds i (Rendering.programOf environment view) (Rendering.programOf environment view)
  framed {α : Type} {i : Index} {f : Nat → m α} {g : Nat → n α} :
    (∀ j, Inner j → Holds j (f (left j)) (g (right j))) →
      Holds i (Rendering.framed f) (Rendering.framed g)

namespace Rendering.Relation

variable {σ : Type} {m n : Type → Type} [Rendering σ m] [Rendering σ n]
  (R : Rendering.Relation σ m n)

/-! ## Contexts -/

/-- Contexts of the same code, on the right at moved bytes. -/
structure Contexts (i : R.Index) (move : Span → Span)
    (c₁ : RenderContext σ m) (c₂ : RenderContext σ n) : Prop where
  environment : c₁.environment = c₂.environment
  left : c₁.base = R.left i
  right : c₂.base = R.right i
  errors (cause : Cause) (span : Span) :
    R.Same (c₁.errorAt span cause) (c₂.errorAt (move span) cause)
  enter (view : String) (parameters : Entries Value) :
    R.Holds i (c₁.enter view parameters) (c₂.enter view parameters)

/-- Results of computations that may fail: equal ones, or errors in each other's place. -/
inductive SameResult {α : Type} : Except Error α → Except Error α → Prop
  | ok (result : α) : SameResult (.ok result) (.ok result)
  | error {e₁ e₂ : Error} : R.Same e₁ e₂ → SameResult (.error e₁) (.error e₂)

variable {R}

theorem ofExcept {α : Type} {i : R.Index} {r₁ r₂ : Except Error α}
    (same : R.SameResult r₁ r₂) :
    R.Holds i (Rendering.ofExcept r₁ : m α) (Rendering.ofExcept r₂) := by
  cases same with
  | ok result => exact R.pure i result
  | error errors => exact R.fail errors

theorem startSection (i : R.Index) (name : String) (text? : Option String) :
    R.Holds i (RenderContext.startSection name text? : m Unit)
      (RenderContext.startSection name text?) := by
  cases text? with
  | none => exact R.start i name
  | some text => exact R.extend i name text

section Evaluation

variable {i : R.Index} {move : Span → Span}
  {c₁ : RenderContext σ m} {c₂ : RenderContext σ n}
  (contexts : R.Contexts i move c₁ c₂)

include contexts

theorem locate {α : Type} (span : Span) (computation : Except Fault α) :
    R.SameResult (c₁.locate span computation) (c₂.locate (move span) computation) := by
  cases computation with
  | ok result => exact .ok result
  | error fault => exact .error (contexts.errors _ span)

theorem check {α : Type} (span : Span) (computation : Except Fault α) :
    R.Holds i (c₁.check span computation) (c₂.check (move span) computation) :=
  ofExcept (locate contexts span computation)

theorem failAt {α : Type} (span : Span) (fault : Fault) :
    R.Holds i (c₁.failAt span fault : m α) (c₂.failAt (move span) fault) :=
  R.fail (contexts.errors _ span)

/-! ## Paths -/

theorem lookup (scope : Entries Value) (identifier : Identifier) :
    R.SameResult (c₁.lookup scope identifier)
      (c₂.lookup scope (identifier.mapSpan move)) := by
  unfold RenderContext.lookup
  rw [Identifier.name_mapSpan]
  cases scope.lookup identifier.name with
  | some value => exact .ok value
  | none => exact .error (contexts.errors _ identifier.span)

theorem member (target : Value) (key : MemberKey) :
    R.SameResult (c₁.member target key) (c₂.member target (key.mapSpan move)) := by
  cases key with
  | field identifier => exact locate contexts identifier.span _
  | position index span => exact locate contexts span _

/-- A moved expression is a path if the expression is one, with the same value. -/
theorem path (scope : Entries Value) :
    ∀ expression : Expression,
      (c₁.path? scope expression = none ∧
          c₂.path? scope (expression.mapSpans move) = none) ∨
        ∃ r₁ r₂, c₁.path? scope expression = some r₁ ∧
          c₂.path? scope (expression.mapSpans move) = some r₂ ∧ R.SameResult r₁ r₂
  | .variable identifier =>
      Or.inr ⟨_, _, rfl, rfl, lookup contexts scope identifier⟩
  | .member target key span => by
      rcases path scope target with ⟨none₁, none₂⟩ | ⟨r₁, r₂, some₁, some₂, same⟩
      · left
        simp only [Expression.mapSpans, RenderContext.path?, none₁, none₂, and_self]
      · right
        simp only [Expression.mapSpans, RenderContext.path?, some₁, some₂]
        cases same with
        | ok value => exact ⟨_, _, rfl, rfl, member contexts value key⟩
        | error errors => exact ⟨_, _, rfl, rfl, .error errors⟩
  | .literal .. | .list .. | .map .. | .index .. | .call .. | .method .. | .unary ..
  | .binary .. => Or.inl ⟨rfl, rfl⟩

/-! ## Methods -/

theorem enterEach (view iterator : String) (elements : List (Value × Value)) :
    R.Holds i (RenderContext.enterEach c₁.enter view iterator elements)
      (RenderContext.enterEach c₂.enter view iterator elements) := by
  induction elements with
  | nil => exact R.pure i ""
  | cons entry others inductionHypothesis =>
      refine R.bind (contexts.enter view _) fun output => ?_
      exact R.bind inductionHypothesis fun rest => R.pure i (output ++ rest)

theorem showEach (view : String) (collection : Value) (iterator empty : String) :
    R.Holds i (RenderContext.showEach c₁.enter view collection iterator empty)
      (RenderContext.showEach c₂.enter view collection iterator empty) := by
  unfold RenderContext.showEach
  match RenderContext.elements? collection with
  | none => exact R.fail (R.same_unlocated _ rfl)
  | some (first :: others) => exact enterEach contexts view iterator (first :: others)
  | some [] =>
      match Text.stripInitial? RenderContext.verbatimMark.toList empty.toList with
      | some text => exact R.pure i _
      | none => exact contexts.enter empty []

theorem closeCapture (span : Span) (closing : Closing) :
    R.Holds i (c₁.closeCapture span closing) (c₂.closeCapture (move span) closing) := by
  unfold RenderContext.closeCapture
  rw [contexts.left, contexts.right]
  exact R.bind (R.close closing (contexts.errors _ span)) fun text => R.pure i _

theorem callMethod (span : Span) (method : EnvironmentMethod) (arguments : List Value) :
    R.Holds i (c₁.callMethod span method arguments)
      (c₂.callMethod (move span) method arguments) := by
  cases method with
  | make =>
      refine R.bind (check contexts span _) fun view => ?_
      refine R.bind (check contexts span _) fun parameters => ?_
      exact R.bind (contexts.enter view parameters) fun output => R.pure i _
  | showEach =>
      refine R.bind (check contexts span _) fun view => ?_
      refine R.bind (check contexts span _) fun iterator => ?_
      refine R.bind (check contexts span _) fun empty => ?_
      exact R.bind (showEach contexts view _ iterator _) fun output => R.pure i _
  | yield =>
      refine R.bind (check contexts span _) fun name => ?_
      exact R.bind (R.content i name) fun content => R.pure i _
  | yieldSection => exact closeCapture contexts span .yield
  | startSection =>
      refine R.bind (check contexts span _) fun name => ?_
      refine R.bind (check contexts span _) fun text? => ?_
      exact R.bind (startSection i name text?) fun _ => R.pure i _
  | inject =>
      refine R.bind (check contexts span _) fun name => ?_
      refine R.bind (check contexts span _) fun text => ?_
      exact R.bind (R.extend i name text) fun _ => R.pure i _
  | stopSection => exact closeCapture contexts span .stop
  | «exists» =>
      refine R.bind (check contexts span _) fun view => ?_
      rw [contexts.environment]
      exact R.bind (R.contains i _ view) fun found => R.pure i _

theorem callNamed (name : Identifier) (span : Span) (arguments : List Value) :
    R.Holds i (c₁.callNamed name span arguments)
      (c₂.callNamed (name.mapSpan move) (move span) arguments) := by
  unfold RenderContext.callNamed
  rw [Identifier.name_mapSpan]
  cases EnvironmentMethod.ofName? name.name with
  | none => exact failAt contexts name.span _
  | some method =>
      by_cases fits : method.arity.1 ≤ arguments.length ∧ arguments.length ≤ method.arity.2
      · simp only [fits, and_self, if_true]
        exact callMethod contexts span method arguments
      · simp only [fits, if_false]
        exact failAt contexts span _

end Evaluation

/-! ## Expressions -/

section Expressions

variable {i : R.Index} {move : Span → Span}
  {c₁ : RenderContext σ m} {c₂ : RenderContext σ n}

mutual

theorem evaluate (contexts : R.Contexts i move c₁ c₂) (scope : Entries Value) :
    ∀ expression : Expression,
      R.Holds i (c₁.evaluate scope expression)
        (c₂.evaluate scope (expression.mapSpans move)) := by
  intro expression
  rcases path contexts scope expression with ⟨none₁, none₂⟩ | ⟨r₁, r₂, some₁, some₂, same⟩
  · rw [RenderContext.evaluate.eq_def, RenderContext.evaluate.eq_def, none₁, none₂]
    match expression with
    | .literal literal span => exact R.pure i literal.value
    | .variable identifier => exact ofExcept (lookup contexts scope identifier)
    | .list items span =>
        exact R.bind (evaluateAll contexts scope items) fun values => R.pure i _
    | .map entries span =>
        exact R.bind (evaluateEntries contexts scope entries) fun pairs => R.pure i _
    | .member target key span =>
        exact R.bind (evaluate contexts scope target) fun value =>
          ofExcept (member contexts value key)
    | .index target selector span =>
        refine R.bind (evaluate contexts scope target) fun value => ?_
        exact R.bind (evaluate contexts scope selector) fun selected =>
          check contexts span _
    | .call function arguments span =>
        simp only [Expression.mapSpans, Identifier.mapSpan]
        split
        · cases arguments with
          | nil => exact R.pure i _
          | cons argument arguments => exact failAt contexts span _
        · rw [contexts.environment]
          split
          · exact failAt contexts function.span _
          · exact R.bind (evaluateAll contexts scope arguments) fun values =>
              check contexts span _
    | .method name arguments span =>
        exact R.bind (evaluateAll contexts scope arguments) fun values =>
          callNamed contexts name span values
    | .unary operator operand span =>
        exact R.bind (evaluate contexts scope operand) fun value => check contexts span _
    | .binary operator left right span =>
        have lefts := evaluate contexts scope left
        have rights := evaluate contexts scope right
        have joined : R.Holds i (do
            let leftValue ← c₁.evaluate scope left
            let rightValue ← c₁.evaluate scope right
            c₁.check span (Value.applyBinary operator leftValue rightValue))
            (do
              let leftValue ← c₂.evaluate scope (left.mapSpans move)
              let rightValue ← c₂.evaluate scope (right.mapSpans move)
              c₂.check (move span) (Value.applyBinary operator leftValue rightValue)) :=
          R.bind lefts fun leftValue => R.bind rights fun rightValue =>
            check contexts span _
        cases operator with
        | and =>
            refine R.bind lefts fun leftValue => ?_
            cases leftValue.isTruthy with
            | true => exact R.bind rights fun rightValue => R.pure i _
            | false => exact R.pure i _
        | or =>
            refine R.bind lefts fun leftValue => ?_
            cases leftValue.isTruthy with
            | true => exact R.pure i _
            | false => exact R.bind rights fun rightValue => R.pure i _
        | _ => exact joined
  · rw [RenderContext.evaluate.eq_def, RenderContext.evaluate.eq_def, some₁, some₂]
    exact ofExcept same

theorem evaluateAll (contexts : R.Contexts i move c₁ c₂) (scope : Entries Value) :
    ∀ expressions : List Expression,
      R.Holds i (c₁.evaluateAll scope expressions)
        (c₂.evaluateAll scope (mapSpansAll move expressions))
  | [] => R.pure i []
  | expression :: expressions => by
      refine R.bind (evaluate contexts scope expression) fun value => ?_
      exact R.bind (evaluateAll contexts scope expressions) fun values => R.pure i _

theorem evaluateEntries (contexts : R.Contexts i move c₁ c₂) (scope : Entries Value) :
    ∀ entries : List (Expression × Expression),
      R.Holds i (c₁.evaluateEntries scope entries)
        (c₂.evaluateEntries scope (mapSpansEntries move entries))
  | [] => R.pure i []
  | (key, expression) :: entries => by
      refine R.bind (evaluate contexts scope key) fun keyValue => ?_
      have keyed := check contexts key.span (RenderContext.keyText keyValue)
      rw [← Expression.span_mapSpans move key] at keyed
      refine R.bind keyed fun name => ?_
      refine R.bind (evaluate contexts scope expression) fun value => ?_
      exact R.bind (evaluateEntries contexts scope entries) fun pairs => R.pure i _

end

/-! ## Statements -/

variable (contexts : R.Contexts i move c₁ c₂)

include contexts

theorem adjusted (scope : Entries Value) (assignment : Assignment) (operator : BinaryOperator)
    (amount : Value) :
    R.SameResult (c₁.adjusted scope assignment operator amount)
      (c₂.adjusted scope (assignment.mapSpans move) operator amount) := by
  unfold RenderContext.adjusted
  have looked := lookup contexts scope assignment.target
  cases looked₁ : c₁.lookup scope assignment.target with
  | ok value =>
      rw [looked₁] at looked
      cases looked₂ : c₂.lookup scope (assignment.target.mapSpan move) with
      | ok _ =>
          rw [looked₂] at looked
          cases looked
          simp only [Assignment.mapSpans, looked₂]
          exact locate contexts assignment.span _
      | error _ =>
          rw [looked₂] at looked
          cases looked
  | error error =>
      rw [looked₁] at looked
      cases looked₂ : c₂.lookup scope (assignment.target.mapSpan move) with
      | ok _ =>
          rw [looked₂] at looked
          cases looked
      | error _ =>
          rw [looked₂] at looked
          cases looked with
          | error errors =>
              simp only [Assignment.mapSpans, looked₂]
              exact .error errors

theorem assigned (scope : Entries Value) (assignment : Assignment) :
    R.Holds i (c₁.assigned scope assignment)
      (c₂.assigned scope (assignment.mapSpans move)) := by
  obtain ⟨target, action, span⟩ := assignment
  cases action with
  | set value => exact evaluate contexts scope value
  | add value =>
      exact R.bind (evaluate contexts scope value) fun amount =>
        ofExcept (adjusted contexts scope ⟨target, .add value, span⟩ .add amount)
  | subtract value =>
      exact R.bind (evaluate contexts scope value) fun amount =>
        ofExcept (adjusted contexts scope ⟨target, .subtract value, span⟩ .subtract amount)
  | increment =>
      exact ofExcept (adjusted contexts scope ⟨target, .increment, span⟩ .add _)
  | decrement =>
      exact ofExcept (adjusted contexts scope ⟨target, .decrement, span⟩ .subtract _)

theorem loopElements (scope : Entries Value) (iterable : Expression) :
    R.Holds i (c₁.loopElements scope iterable)
      (c₂.loopElements scope (iterable.mapSpans move)) := by
  unfold RenderContext.loopElements
  rw [Expression.span_mapSpans]
  refine R.bind (evaluate contexts scope iterable) fun value => ?_
  split
  · exact failAt contexts iterable.span _
  · exact R.pure i _
  · exact failAt contexts iterable.span _

end Expressions

/-! ## Programs -/

section Programs

variable {i : R.Index} (inner : R.Inner i) {move : Span → Span}
  {c₁ : RenderContext σ m} {c₂ : RenderContext σ n}
  (contexts : R.Contexts i move c₁ c₂)

include inner contexts

theorem emit (text : String) (page : Page) :
    R.Holds i (c₁.emit text page) (c₂.emit text page) := by
  unfold RenderContext.emit
  rw [contexts.left, contexts.right]
  exact R.bind (R.write text inner) fun captured => R.pure i _

theorem perform (page : Page) (action : Action) :
    R.Holds i (c₁.perform page action) (c₂.perform page (action.mapSpans move)) := by
  cases action with
  | raw text => exact emit inner contexts text page
  | echo expression =>
      refine R.bind (evaluate contexts page.scope expression) fun value => ?_
      rw [Expression.span_mapSpans]
      exact R.bind (check contexts expression.span _) fun text =>
        emit inner contexts text page
  | evaluate expression =>
      exact R.bind (evaluate contexts page.scope expression) fun _ => R.pure i page
  | assign assignment =>
      exact R.bind (assigned contexts page.scope assignment) fun value => R.pure i _

theorem step (frame : RenderFrame) {instruction : Instruction}
    (fixed : instruction.mapSpans move = instruction) :
    R.Holds i (c₁.step frame instruction) (c₂.step frame instruction) := by
  cases instruction with
  | perform action =>
      have performed := perform inner contexts frame.page action
      rw [Instruction.perform.inj fixed] at performed
      exact R.bind performed fun page => R.pure i _
  | jump target => exact R.pure i _
  | jumpUnless condition target =>
      have values := evaluate contexts frame.page.scope condition
      rw [(Instruction.jumpUnless.inj fixed).1] at values
      exact R.bind values fun value => R.pure i _
  | startLoop binding iterable =>
      have elements := loopElements contexts frame.page.scope iterable
      rw [(Instruction.startLoop.inj fixed).2] at elements
      exact R.bind elements fun elements => R.pure i _
  | nextElement target =>
      obtain ⟨position, loops, page⟩ := frame
      match loops with
      | [] => exact R.pure i _
      | ⟨_, []⟩ :: _ => exact R.pure i _
      | ⟨_, (_, _) :: _⟩ :: _ => exact R.pure i _

/-- Of two runs of one program the left one may be allowed fewer steps, if a rendering that is out
of steps is related to everything. -/
theorem run {instructions : Array Instruction}
    (fixed : ∀ instruction ∈ instructions, instruction.mapSpans move = instruction)
    (exhausts : R.Holds i (Rendering.exhaust : m RenderFrame) Rendering.exhaust)
    {fewer fuel : Nat}
    (steps : fewer = fuel ∨ fewer ≤ fuel ∧
      ∀ {i : R.Index} {α : Type} (y : n α), R.Holds i Rendering.exhaust y)
    (frame : RenderFrame) :
    R.Holds i (c₁.run instructions fewer frame) (c₂.run instructions fuel frame) := by
  induction fewer generalizing fuel frame with
  | zero =>
      rcases steps with rfl | ⟨_, exhausted⟩
      · exact exhausts
      · exact exhausted _
  | succ fewer inductionHypothesis =>
      obtain ⟨fuel, rfl⟩ : ∃ less, fuel = less + 1 := ⟨fuel - 1, by omega⟩
      have stepsLeft : fewer = fuel ∨ fewer ≤ fuel ∧
          ∀ {i : R.Index} {α : Type} (y : n α), R.Holds i Rendering.exhaust y := by
        rcases steps with same | ⟨le, exhausted⟩
        · exact Or.inl (Nat.succ.inj same)
        · exact Or.inr ⟨Nat.le_of_succ_le_succ le, exhausted⟩
      unfold RenderContext.run
      cases found : instructions[frame.position]? with
      | none => exact R.pure i frame
      | some instruction =>
          have member : instruction ∈ instructions := Array.mem_of_getElem? found
          exact R.bind (step inner contexts frame (fixed instruction member)) fun next =>
            inductionHypothesis stepsLeft next

theorem runProgram {program : Program}
    (fixed : ∀ instruction ∈ program.instructions, instruction.mapSpans move = instruction)
    (exhausts : R.Holds i (Rendering.exhaust : m RenderFrame) Rendering.exhaust)
    {fewer fuel : Nat}
    (steps : fewer = fuel ∨ fewer ≤ fuel ∧
      ∀ {i : R.Index} {α : Type} (y : n α), R.Holds i Rendering.exhaust y)
    (scope : Entries Value) :
    R.Holds i (c₁.runProgram fewer program scope) (c₂.runProgram fuel program scope) := by
  unfold RenderContext.runProgram
  rw [contexts.left, contexts.right]
  refine R.bind (run inner contexts fixed exhausts steps _) fun frame => ?_
  refine R.bind (R.unclosed inner) fun unclosed => ?_
  cases unclosed with
  | some name => exact R.fail (R.same_unlocated _ rfl)
  | none => exact R.pure i _

end Programs

end Rendering.Relation

/-! ## Views -/

namespace Rendering.ViewRelation

variable {σ : Type} {m n : Type → Type} [Rendering σ m] [Rendering σ n]
  (R : Rendering.ViewRelation σ m n)

theorem renderProgram (i : R.Index) (environment : Environment σ)
    {enter₁ : String → Entries Value → m String} {enter₂ : String → Entries Value → n String}
    (enter : ∀ j view parameters, R.Holds j (enter₁ view parameters) (enter₂ view parameters))
    (program : Program) {fewer fuel : Nat}
    (steps : fewer = fuel ∨ fewer ≤ fuel ∧
      ∀ {i : R.Index} {α : Type} (y : n α), R.Holds i Rendering.exhaust y)
    (scope : Entries Value) :
    R.Holds i (environment.renderProgram enter₁ fewer program scope)
      (environment.renderProgram enter₂ fuel program scope) := by
  refine R.framed fun j inner => ?_
  have contexts : R.toRelation.Contexts j id
      ⟨environment, program.source, R.left j, enter₁⟩
      ⟨environment, program.source, R.right j, enter₂⟩ :=
    { environment := rfl
      left := rfl
      right := rfl
      errors := fun _ _ => R.same_refl _
      enter := enter j }
  exact Relation.runProgram inner contexts (fun instruction _ => instruction.mapSpans_id)
    (R.exhaust j) steps scope

/-- Rendering a view keeps the relation, whatever views it renders inside. -/
theorem renderAt (environment : Environment σ) {fewer fuel : Nat}
    (steps : fewer = fuel ∨ fewer ≤ fuel ∧
      ∀ {i : R.Index} {α : Type} (y : n α), R.Holds i Rendering.exhaust y)
    (levels : Nat) (i : R.Index) (view : String) (parameters : Entries Value) :
    R.Holds i (environment.renderAt fewer levels view parameters)
      (environment.renderAt fuel levels view parameters) := by
  induction levels generalizing i view parameters with
  | zero => exact R.fail (R.same_refl _)
  | succ levels inductionHypothesis =>
      refine R.mapError view ?_
      refine R.bind (R.programOf i environment view) fun program => ?_
      exact R.renderProgram i environment inductionHypothesis program steps _

end Rendering.ViewRelation

end ViewTemplate
