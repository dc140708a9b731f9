import Mathlib.Algebra.Group.Int.Defs
import ViewTemplate.Proofs.Execution

/-!
Arithmetic on integers is exact or refused. An operation on two integers gives the integer that is
its exact result, if there is one in 64 signed bits, and fails otherwise; a division that leaves
something gives a float (`IsExactOn`). Assignments that add or subtract compute in the same way, and
one that fails leaves the variables as they were (`AssignsExactly`). The main statement is
`isExactOn_and_assignsExactly`. Only the remainder of the least integer by minus one is refused
although it fits (`not_givesExactly_remainder_least`).
-/

namespace ViewTemplate

open Fragment

/-! ## Exact results -/

/-- A computation gives an integer exactly, or there is none of 64 bits to give and it says so. -/
inductive GivesExactly (exact : Int) : Except Fault Value → Prop
  | fits (number : Int64) : number.toInt = exact → GivesExactly exact (.ok (.integer number))
  | overflow : (∀ number : Int64, number.toInt ≠ exact) →
      GivesExactly exact (.error .integerOverflow)

namespace Value

theorem fits_iff {exact : Int} : fits exact = true ↔ -2 ^ 63 ≤ exact ∧ exact < 2 ^ 63 := by
  have least : Int64.minValue.toInt = -2 ^ 63 := Int64.toInt_minValue
  have greatest : Int64.maxValue.toInt = 2 ^ 63 - 1 := Int64.toInt_maxValue
  rw [fits, least, greatest, Bool.and_eq_true, decide_eq_true_iff, decide_eq_true_iff]
  omega

theorem toInt_ofInt_of_fits {exact : Int} (within : fits exact = true) :
    (Int64.ofInt exact).toInt = exact := by
  obtain ⟨least, greatest⟩ := fits_iff.1 within
  exact Int64.toInt_ofInt_of_le least greatest

theorem fits_toInt (number : Int64) : fits number.toInt = true :=
  fits_iff.2 ⟨number.le_toInt, number.toInt_lt⟩

theorem givesExactly_checked (exact : Int) : GivesExactly exact (checked exact) := by
  unfold checked
  by_cases within : fits exact = true
  · rw [if_pos within]
    exact .fits _ (toInt_ofInt_of_fits within)
  · rw [if_neg within]
    refine .overflow fun number same => ?_
    exact within (same ▸ fits_toInt number)

/-! ## Division -/

variable {left right : Int64}

theorem toInt_ne_zero (divides : right ≠ 0) : right.toInt ≠ 0 := by
  intro zero
  exact divides (Int64.toInt_inj.1 zero)

theorem divisionOverflows_iff :
    divisionOverflows left right = true ↔ left = Int64.minValue ∧ right = -1 := by
  rw [divisionOverflows, Bool.and_eq_true, beq_iff_eq, beq_iff_eq]

/-- A quotient without remainder is an integer of 64 bits, unless the division overflows. -/
theorem fits_of_eq_mul {quotient : Int} (divides : right ≠ 0)
    (exact : left.toInt = right.toInt * quotient)
    (within : divisionOverflows left right = false) : fits quotient = true := by
  have least := left.le_toInt
  have greatest := left.toInt_lt
  have nonzero := toInt_ne_zero divides
  have magnitudes : left.toInt.natAbs = right.toInt.natAbs * quotient.natAbs := by
    rw [exact, Int.natAbs_mul]
  have smaller : quotient.natAbs ≤ left.toInt.natAbs := by
    rw [magnitudes]
    exact Nat.le_mul_of_pos_left _ (Int.natAbs_pos.2 nonzero)
  apply fits_iff.2
  apply Decidable.byContradiction
  intro beyond
  -- Only one quotient is as far from zero as the least integer and has no integer of its own.
  have quotientIs : quotient = 2 ^ 63 := by omega
  have leftIs : left.toInt = -2 ^ 63 := by omega
  have rightIs : right.toInt = -1 := by
    rw [quotientIs, leftIs] at exact
    omega
  have overflows : divisionOverflows left right = true := by
    rw [divisionOverflows_iff, ← Int64.toInt_inj, ← Int64.toInt_inj, leftIs, rightIs]
    exact ⟨rfl, rfl⟩
  rw [overflows] at within
  cases within

theorem not_divisionOverflows_of_eq_mul {quotient : Int64}
    (exact : left.toInt = right.toInt * quotient.toInt) :
    divisionOverflows left right = false := by
  rw [← Bool.not_eq_true, divisionOverflows_iff]
  rintro ⟨rfl, rfl⟩
  have greatest := quotient.toInt_lt
  have least : Int64.minValue.toInt = -2 ^ 63 := Int64.toInt_minValue
  have minusOne : (-1 : Int64).toInt = -1 := rfl
  rw [least, minusOne] at exact
  omega

theorem divideIntegers_eq_integer_iff {quotient : Int64} :
    divideIntegers left right = .ok (.integer quotient) ↔
      right ≠ 0 ∧ left.toInt = right.toInt * quotient.toInt := by
  unfold divideIntegers
  by_cases zero : right = 0
  · simp [zero]
  rw [if_neg zero]
  have nonzero := toInt_ne_zero zero
  constructor
  · intro divided
    split at divided
    next even =>
      have exact : left.toInt = right.toInt * left.toInt.tdiv right.toInt :=
        (Int.mul_tdiv_cancel' (Int.dvd_of_tmod_eq_zero even.1)).symm
      have within := fits_of_eq_mul zero exact even.2
      cases divided
      exact ⟨zero, by rwa [toInt_ofInt_of_fits within]⟩
    next => cases divided
  · rintro ⟨-, exact⟩
    have even : left.toInt.tmod right.toInt = 0 :=
      Int.tmod_eq_zero_of_dvd ⟨quotient.toInt, exact⟩
    have result : left.toInt.tdiv right.toInt = quotient.toInt :=
      Int.tdiv_eq_of_eq_mul_right nonzero exact
    rw [if_pos ⟨even, not_divisionOverflows_of_eq_mul exact⟩, result, Int64.ofInt_toInt]

theorem divideIntegers_eq_float (divides : right ≠ 0)
    (uneven : ∀ quotient : Int64, left.toInt ≠ right.toInt * quotient.toInt) :
    divideIntegers left right = .ok (.float (left.toFloat / right.toFloat)) := by
  have noInteger (quotient : Int64) : divideIntegers left right ≠ .ok (.integer quotient) :=
    fun divided => uneven quotient (divideIntegers_eq_integer_iff.1 divided).2
  unfold divideIntegers at noInteger ⊢
  rw [if_neg divides] at noInteger ⊢
  split at noInteger
  next => exact absurd rfl (noInteger _)
  next odd => rw [if_neg odd]

theorem divideIntegers_eq_divisionByZero_iff :
    divideIntegers left right = .error .divisionByZero ↔ right = 0 := by
  unfold divideIntegers
  by_cases zero : right = 0
  · simp [zero]
  · rw [if_neg zero]
    split <;> simp [zero]

/-! ## Remainders -/

theorem fits_tmod (divides : right ≠ 0) : fits (left.toInt.tmod right.toInt) = true := by
  have least := right.le_toInt
  have greatest := right.toInt_lt
  have magnitude : (left.toInt.tmod right.toInt).natAbs < right.toInt.natAbs := by
    rw [Int.natAbs_tmod]
    exact Nat.mod_lt _ (Int.natAbs_pos.2 (toInt_ne_zero divides))
  apply fits_iff.2
  omega

theorem remainderIntegers_eq_integer (divides : right ≠ 0)
    (within : ¬ (left = Int64.minValue ∧ right = -1)) :
    ∃ rest : Int64, rest.toInt = left.toInt.tmod right.toInt ∧
      remainderIntegers left right = .ok (.integer rest) := by
  refine ⟨_, toInt_ofInt_of_fits (fits_tmod divides), ?_⟩
  rw [remainderIntegers, if_neg divides, if_neg (mt divisionOverflows_iff.1 within)]

theorem remainderIntegers_eq_divisionByZero_iff :
    remainderIntegers left right = .error .divisionByZero ↔ right = 0 := by
  unfold remainderIntegers
  by_cases zero : right = 0
  · simp [zero]
  · rw [if_neg zero]
    split <;> simp [zero]

end Value

/-! ## Operators -/

open Value in
/-- Operators on two integers are exact, or they refuse. -/
structure IsExactOn (left right : Int64) : Prop where
  negate : GivesExactly (-left.toInt) (applyUnary .negate (.integer left))
  add : GivesExactly (left.toInt + right.toInt) (applyBinary .add (.integer left) (.integer right))
  subtract : GivesExactly (left.toInt - right.toInt)
    (applyBinary .subtract (.integer left) (.integer right))
  multiply : GivesExactly (left.toInt * right.toInt)
    (applyBinary .multiply (.integer left) (.integer right))
  /-- A quotient is an integer if there is one that is the quotient. -/
  quotient (result : Int64) :
    applyBinary .divide (.integer left) (.integer right) = .ok (.integer result) ↔
      right ≠ 0 ∧ left.toInt = right.toInt * result.toInt
  fraction : right ≠ 0 → (∀ result : Int64, left.toInt ≠ right.toInt * result.toInt) →
    applyBinary .divide (.integer left) (.integer right) =
      .ok (.float (left.toFloat / right.toFloat))
  divide_zero :
    applyBinary .divide (.integer left) (.integer right) = .error .divisionByZero ↔ right = 0
  /-- The remainder of a division cut towards zero, unless that division overflows. -/
  remainder : right ≠ 0 → ¬ (left = Int64.minValue ∧ right = -1) →
    ∃ rest : Int64, rest.toInt = left.toInt.tmod right.toInt ∧
      applyBinary .remainder (.integer left) (.integer right) = .ok (.integer rest)
  remainder_overflow : left = Int64.minValue → right = -1 →
    applyBinary .remainder (.integer left) (.integer right) = .error .integerOverflow
  remainder_zero :
    applyBinary .remainder (.integer left) (.integer right) = .error .divisionByZero ↔ right = 0

theorem isExactOn (left right : Int64) : IsExactOn left right where
  negate := Value.givesExactly_checked _
  add := Value.givesExactly_checked _
  subtract := Value.givesExactly_checked _
  multiply := Value.givesExactly_checked _
  quotient _ := Value.divideIntegers_eq_integer_iff
  fraction := Value.divideIntegers_eq_float
  divide_zero := Value.divideIntegers_eq_divisionByZero_iff
  remainder := Value.remainderIntegers_eq_integer
  remainder_overflow least minusOne := by
    subst least minusOne
    rfl
  remainder_zero := Value.remainderIntegers_eq_divisionByZero_iff

/-! ## Assignments in place -/

/-- What is left of a view when its code is interrupted: the state of the rendering, and the
variables as the code has set them so far. -/
structure Workspace (σ : Type) where
  state : RenderState σ
  scope : Entries Value

/-- Code that works on the variables of a view in place. -/
abbrev InPlace (σ α : Type) : Type :=
  EStateM Interrupt (Workspace σ) α

namespace InPlace

variable {σ α : Type}

/-- A rendering that has no access to the variables. -/
def ofRender (rendering : Render σ α) : InPlace σ α := fun workspace =>
  match rendering workspace.state with
  | .ok result reached => .ok result { workspace with state := reached }
  | .error interrupt reached => .error interrupt { workspace with state := reached }

def set (name : String) (value : Value) : InPlace σ Unit :=
  modify fun workspace => { workspace with scope := Entries.put name value workspace.scope }

/-- What becomes of a page on whose variables code has worked. -/
def onPage (page : Page) : EStateM.Result Interrupt (Workspace σ) Unit → Outcome σ Page
  | .ok _ workspace => .ok { page with scope := workspace.scope } workspace.state
  | .error interrupt workspace => .error interrupt workspace.state

end InPlace

namespace RenderContext

variable {σ : Type} (context : RenderContext σ (Render σ))

/-- Carries out an assignment on the variables themselves. -/
def assignInPlace (assignment : Assignment) : InPlace σ Unit := do
  let workspace ← get
  let value ← InPlace.ofRender (context.assigned workspace.scope assignment)
  InPlace.set assignment.target.name value

/-- The factor with which an assignment takes its amount, and the amount, if it changes a value that
is there already. -/
def compound? (scope : Entries Value) : AssignmentAction → Option (Int × Render σ Value)
  | .set _ => none
  | .add value => some (1, context.evaluate scope value)
  | .subtract value => some (-1, context.evaluate scope value)
  | .increment => some (1, pure (.integer 1))
  | .decrement => some (-1, pure (.integer 1))

/-- An assignment on integers sets its variable to the exact result, or it fails; when it fails, for
whatever reason, the variables are what they were. -/
structure AssignsExactly (assignment : Assignment) : Prop where
  /-- The page that the assignment gives has the variables that are left in place. -/
  inPlace (page : Page) (state : RenderState σ) :
    context.perform page (.assign assignment) state =
      InPlace.onPage page (context.assignInPlace assignment ⟨state, page.scope⟩)
  exact {scope : Entries Value} {factor : Int} {amount : Render σ Value} {current change : Int64}
      {state reached : RenderState σ} :
    context.compound? scope assignment.action = some (factor, amount) →
      scope.lookup assignment.target.name = some (.integer current) →
        amount state = .ok (.integer change) reached →
          ∃ outcome, GivesExactly (current.toInt + factor * change.toInt) outcome ∧
            context.assignInPlace assignment ⟨state, scope⟩ =
              (do
                let value ← InPlace.ofRender (context.check assignment.span outcome)
                InPlace.set assignment.target.name value) ⟨reached, scope⟩
  unchanged {before after : Workspace σ} {interrupt : Interrupt} :
    context.assignInPlace assignment before = .error interrupt after → after.scope = before.scope

theorem perform_assign_eq_onPage (assignment : Assignment) (page : Page) (state : RenderState σ) :
    context.perform page (.assign assignment) state =
      InPlace.onPage page (context.assignInPlace assignment ⟨state, page.scope⟩) := by
  have performed : context.perform page (.assign assignment) state =
      EStateM.bind (context.assigned page.scope assignment)
        (fun value => pure (page.bind assignment.target.name value)) state := rfl
  have worked : context.assignInPlace assignment ⟨state, page.scope⟩ =
      EStateM.bind (InPlace.ofRender (context.assigned page.scope assignment))
        (InPlace.set assignment.target.name) ⟨state, page.scope⟩ := rfl
  rw [performed, worked, EStateM.bind, EStateM.bind, InPlace.ofRender]
  cases context.assigned page.scope assignment state with
  | ok value reached => rfl
  | error interrupt reached => rfl

theorem scope_of_assignInPlace_eq_error {assignment : Assignment} {before after : Workspace σ}
    {interrupt : Interrupt}
    (failed : context.assignInPlace assignment before = .error interrupt after) :
    after.scope = before.scope := by
  have worked : context.assignInPlace assignment before =
      EStateM.bind (InPlace.ofRender (context.assigned before.scope assignment))
        (InPlace.set assignment.target.name) before := rfl
  rw [worked, EStateM.bind, InPlace.ofRender] at failed
  cases computed : context.assigned before.scope assignment before.state with
  | ok value reached =>
      rw [computed] at failed
      cases failed
  | error interrupt reached =>
      rw [computed] at failed
      cases failed
      rfl

/-- What a compound assignment assigns: the result of an operator that is exact, applied to the
value of the variable and the amount. -/
theorem exists_assigned_of_compound? {assignment : Assignment} {scope : Entries Value}
    {factor : Int} {amount : Render σ Value} {current change : Int64}
    {state reached : RenderState σ}
    (compound : context.compound? scope assignment.action = some (factor, amount))
    (bound : scope.lookup assignment.target.name = some (.integer current))
    (evaluated : amount state = .ok (.integer change) reached) :
    ∃ outcome, GivesExactly (current.toInt + factor * change.toInt) outcome ∧
      context.assigned scope assignment state =
        (context.check assignment.span outcome : Render σ Value) reached := by
  obtain ⟨target, action, span⟩ := assignment
  have adjusted (operator : BinaryOperator) :
      context.adjusted scope ⟨target, action, span⟩ operator (.integer change) =
        context.locate span
          (Value.applyBinary operator (.integer current) (.integer change)) := by
    rw [RenderContext.adjusted, RenderContext.lookup, bound]
    rfl
  have exact := isExactOn current change
  have sum : current.toInt + 1 * change.toInt = current.toInt + change.toInt := by omega
  have difference : current.toInt + -1 * change.toInt = current.toInt - change.toInt := by omega
  cases action with
  | set value => cases compound
  | add value =>
      cases compound
      refine ⟨_, sum ▸ exact.add, ?_⟩
      rw [check, ← adjusted, assigned]
      exact Render.bind_of_ok evaluated fun amount =>
        Rendering.ofExcept (context.adjusted scope _ .add amount)
  | subtract value =>
      cases compound
      refine ⟨_, difference ▸ exact.subtract, ?_⟩
      rw [check, ← adjusted, assigned]
      exact Render.bind_of_ok evaluated fun amount =>
        Rendering.ofExcept (context.adjusted scope _ .subtract amount)
  | increment =>
      cases compound
      cases evaluated
      exact ⟨_, sum ▸ exact.add, by rw [check, ← adjusted, assigned]⟩
  | decrement =>
      cases compound
      cases evaluated
      exact ⟨_, difference ▸ exact.subtract, by rw [check, ← adjusted, assigned]⟩

theorem assignsExactly (assignment : Assignment) : context.AssignsExactly assignment where
  inPlace page state := context.perform_assign_eq_onPage assignment page state
  exact compound bound evaluated := by
    obtain ⟨outcome, gives, assigned⟩ :=
      context.exists_assigned_of_compound? compound bound evaluated
    refine ⟨outcome, gives, ?_⟩
    change EStateM.bind (InPlace.ofRender (context.assigned _ assignment)) _ _ =
      EStateM.bind (InPlace.ofRender (context.check assignment.span outcome)) _ _
    rw [EStateM.bind, EStateM.bind, InPlace.ofRender, InPlace.ofRender, assigned]
  unchanged failed := context.scope_of_assignInPlace_eq_error failed

end RenderContext

/-- Arithmetic on integers never wraps: operators and assignments give the exact result or refuse,
quotients that are no integers are floats, and an assignment that fails changes no variable. -/
theorem isExactOn_and_assignsExactly :
    (∀ left right : Int64, IsExactOn left right) ∧
      ∀ {σ : Type} (context : RenderContext σ (Render σ)) (assignment : Assignment),
        context.AssignsExactly assignment :=
  ⟨isExactOn, fun context assignment => context.assignsExactly assignment⟩

/-- Nothing is left when the least integer is divided by minus one, and still the remainder is
refused. -/
theorem not_givesExactly_remainder_least :
    ¬ GivesExactly (Int64.minValue.toInt.tmod (-1 : Int64).toInt)
      (Value.applyBinary .remainder (.integer Int64.minValue) (.integer (-1))) := by
  have refused : Value.applyBinary .remainder (.integer Int64.minValue) (.integer (-1)) =
      .error .integerOverflow := rfl
  have nothing : Int64.minValue.toInt.tmod (-1 : Int64).toInt = (0 : Int64).toInt := by decide
  rw [refused, nothing]
  intro gives
  cases gives with
  | overflow beyond => exact beyond 0 rfl

end ViewTemplate
