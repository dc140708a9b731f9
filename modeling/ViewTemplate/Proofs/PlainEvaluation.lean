import ViewTemplate.Proofs.Execution

/-!
Paths as a shortcut of evaluation. Looking up a variable with the members behind it by its path
gives what evaluating the variable and then taking one member after the other gives, wherever the
path stands in an expression (`evaluate_eq_evaluatePlainly`).
-/

namespace ViewTemplate

open Fragment

namespace RenderContext

/-! ## Evaluation with any shortcut -/

section Shortcuts

variable {σ : Type} {m : Type → Type} [Rendering σ m] (context : RenderContext σ m)

mutual

/-- Evaluation that asks a shortcut for the result of an expression before it looks at its parts,
and that evaluates the variables for which the shortcut has none by `atVariable`. -/
def evaluateBy (shortcut : Expression → Option (Except Error Value))
    (atVariable : Identifier → m Value) (scope : Entries Value) (expression : Expression) :
    m Value :=
  match shortcut expression with
  | some result => Rendering.ofExcept result
  | none =>
      match expression with
      | .literal literal _ => return literal.value
      | .variable identifier => atVariable identifier
      | .list items _ => do
          let values ← evaluateAllBy shortcut atVariable scope items
          return .list values
      | .map entries _ => do
          let pairs ← evaluateEntriesBy shortcut atVariable scope entries
          return Value.ofPairs pairs
      | .member target key _ => do
          let value ← evaluateBy shortcut atVariable scope target
          Rendering.ofExcept (context.member value key)
      | .index target selector span => do
          let value ← evaluateBy shortcut atVariable scope target
          let selected ← evaluateBy shortcut atVariable scope selector
          context.check span (value.index selected)
      | .call function arguments span =>
          if function.name = scopeFunctionName then
            if arguments.isEmpty then return .map scope
            else context.failAt span .scopeTakesNoArguments
          else
            match context.environment.functions.lookup function.name with
            | none => context.failAt function.span .unknownFunction
            | some apply => do
                let values ← evaluateAllBy shortcut atVariable scope arguments
                context.check span (apply values)
      | .method name arguments span => do
          let values ← evaluateAllBy shortcut atVariable scope arguments
          context.callNamed name span values
      | .unary operator operand span => do
          let value ← evaluateBy shortcut atVariable scope operand
          context.check span (Value.applyUnary operator value)
      | .binary operator left right span =>
          match operator with
          | .and => do
              let leftValue ← evaluateBy shortcut atVariable scope left
              if leftValue.isTruthy then
                let rightValue ← evaluateBy shortcut atVariable scope right
                return .bool rightValue.isTruthy
              else return .bool false
          | .or => do
              let leftValue ← evaluateBy shortcut atVariable scope left
              if leftValue.isTruthy then return .bool true
              else
                let rightValue ← evaluateBy shortcut atVariable scope right
                return .bool rightValue.isTruthy
          | operator => do
              let leftValue ← evaluateBy shortcut atVariable scope left
              let rightValue ← evaluateBy shortcut atVariable scope right
              context.check span (Value.applyBinary operator leftValue rightValue)

def evaluateAllBy (shortcut : Expression → Option (Except Error Value))
    (atVariable : Identifier → m Value) (scope : Entries Value) :
    List Expression → m (List Value)
  | [] => return []
  | expression :: expressions => do
      let value ← evaluateBy shortcut atVariable scope expression
      let values ← evaluateAllBy shortcut atVariable scope expressions
      return value :: values

def evaluateEntriesBy (shortcut : Expression → Option (Except Error Value))
    (atVariable : Identifier → m Value) (scope : Entries Value) :
    List (Expression × Expression) → m (List (String × Value))
  | [] => return []
  | (key, expression) :: entries => do
      let keyValue ← evaluateBy shortcut atVariable scope key
      let name ← context.check key.span (keyText keyValue)
      let value ← evaluateBy shortcut atVariable scope expression
      let pairs ← evaluateEntriesBy shortcut atVariable scope entries
      return (name, value) :: pairs

end

/-- Evaluation without a shortcut: variables are looked up, and the members of a value are taken
once it is there. -/
def evaluatePlainly (scope : Entries Value) (expression : Expression) : m Value :=
  context.evaluateBy (fun _ => none)
    (fun identifier => Rendering.ofExcept (context.lookup scope identifier)) scope expression

end Shortcuts

/-! ## Shortcuts that evaluation agrees with -/

section Agreement

variable {σ : Type} {context : RenderContext σ (Render σ)} {scope : Entries Value}

theorem evaluate_of_path? {expression : Expression} {result : Except Error Value}
    (isPath : context.path? scope expression = some result) :
    context.evaluate scope expression = Rendering.ofExcept result := by
  rw [evaluate.eq_def, isPath]

theorem evaluate_variable (identifier : Identifier) :
    context.evaluate scope (.variable identifier) =
      Rendering.ofExcept (context.lookup scope identifier) :=
  evaluate_of_path? rfl

/-- A member is taken of the value that its target evaluates to, also where the target is a path and
its value is never computed on its own. -/
theorem evaluate_member (target : Expression) (key : MemberKey) (span : Span) :
    context.evaluate scope (.member target key span) = (do
      let value ← context.evaluate scope target
      Rendering.ofExcept (context.member value key)) := by
  cases isPath : context.path? scope target with
  | none =>
      have noPath : context.path? scope (.member target key span) = none := by
        rw [path?, isPath]
      rw [evaluate.eq_def, noPath]
  | some result =>
      rw [evaluate_of_path? isPath]
      cases result with
      | ok value =>
          have longer : context.path? scope (.member target key span) =
              some (context.member value key) := by
            rw [path?, isPath]
          exact evaluate_of_path? longer
      | error error =>
          have failing : context.path? scope (.member target key span) = some (.error error) := by
            rw [path?, isPath]
          exact evaluate_of_path? failing

/-- A shortcut that gives no other result than evaluation, and a way to evaluate the variables that
it leaves which looks them up. -/
structure Agrees (context : RenderContext σ (Render σ)) (scope : Entries Value)
    (shortcut : Expression → Option (Except Error Value))
    (atVariable : Identifier → Render σ Value) : Prop where
  result {expression : Expression} {result : Except Error Value} :
    shortcut expression = some result →
      context.evaluate scope expression = Rendering.ofExcept result
  identifiers {identifier : Identifier} :
    shortcut (.variable identifier) = none →
      atVariable identifier = Rendering.ofExcept (context.lookup scope identifier)

variable {shortcut : Expression → Option (Except Error Value)}
  {atVariable : Identifier → Render σ Value}

mutual

theorem evaluate_eq_evaluateBy (agrees : Agrees context scope shortcut atVariable) :
    ∀ expression : Expression,
      context.evaluate scope expression =
        context.evaluateBy shortcut atVariable scope expression := by
  intro expression
  rw [evaluateBy.eq_def]
  cases short : shortcut expression with
  | some result => exact agrees.result short
  | none =>
      match expression with
      | .literal literal span => rfl
      | .variable identifier =>
          rw [evaluate_variable]
          exact (agrees.identifiers short).symm
      | .list items span =>
          simp only
          rw [← evaluateAll_eq_evaluateAllBy agrees items]
          rfl
      | .map entries span =>
          simp only
          rw [← evaluateEntries_eq_evaluateEntriesBy agrees entries]
          rfl
      | .member target key span =>
          simp only
          rw [← evaluate_eq_evaluateBy agrees target]
          exact evaluate_member target key span
      | .index target selector span =>
          simp only
          rw [← evaluate_eq_evaluateBy agrees target, ← evaluate_eq_evaluateBy agrees selector]
          rfl
      | .call function arguments span =>
          simp only
          rw [← evaluateAll_eq_evaluateAllBy agrees arguments]
          rfl
      | .method name arguments span =>
          simp only
          rw [← evaluateAll_eq_evaluateAllBy agrees arguments]
          rfl
      | .unary operator operand span =>
          simp only
          rw [← evaluate_eq_evaluateBy agrees operand]
          rfl
      | .binary operator left right span =>
          simp only
          rw [← evaluate_eq_evaluateBy agrees left, ← evaluate_eq_evaluateBy agrees right]
          rfl

theorem evaluateAll_eq_evaluateAllBy (agrees : Agrees context scope shortcut atVariable) :
    ∀ expressions : List Expression,
      context.evaluateAll scope expressions =
        context.evaluateAllBy shortcut atVariable scope expressions
  | [] => rfl
  | expression :: expressions => by
      rw [evaluateAll, evaluateAllBy, evaluate_eq_evaluateBy agrees expression,
        evaluateAll_eq_evaluateAllBy agrees expressions]

theorem evaluateEntries_eq_evaluateEntriesBy (agrees : Agrees context scope shortcut atVariable) :
    ∀ entries : List (Expression × Expression),
      context.evaluateEntries scope entries =
        context.evaluateEntriesBy shortcut atVariable scope entries
  | [] => rfl
  | (key, expression) :: entries => by
      rw [evaluateEntries, evaluateEntriesBy, evaluate_eq_evaluateBy agrees key,
        evaluate_eq_evaluateBy agrees expression,
        evaluateEntries_eq_evaluateEntriesBy agrees entries]

end

/-! ## Paths -/

theorem agrees_nothing :
    Agrees context scope (fun _ => none)
      (fun identifier => Rendering.ofExcept (context.lookup scope identifier)) where
  result short := by cases short
  identifiers _ := rfl

/-- Every variable is a path, so that it does not matter how others would be evaluated. -/
theorem agrees_path? (unreached : Identifier → Render σ Value) :
    Agrees context scope (context.path? scope) unreached where
  result isPath := evaluate_of_path? isPath
  identifiers noPath := by cases noPath

end Agreement

/-- Evaluation by paths is plain evaluation: the same value or the same error, with the same
effects, in every state. No variable is left to be evaluated as one that is no path. -/
theorem evaluate_eq_evaluatePlainly {σ : Type} (context : RenderContext σ (Render σ))
    (scope : Entries Value) (expression : Expression) :
    context.evaluate scope expression = context.evaluatePlainly scope expression ∧
      ∀ unreached : Identifier → Render σ Value,
        context.evaluate scope expression =
          context.evaluateBy (context.path? scope) unreached scope expression :=
  ⟨evaluate_eq_evaluateBy agrees_nothing expression,
    fun unreached => evaluate_eq_evaluateBy (agrees_path? unreached) expression⟩

end RenderContext

end ViewTemplate
