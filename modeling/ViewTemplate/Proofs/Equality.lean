import Mathlib
import ViewTemplate.Proofs.Literals

/-!
Equality of values. Two floats are equal where they stand for one number, and two values where they
have one form (`equal_iff`). NaN stands for no number, so a value that holds it at any depth has no
form: it differs from every value, and from itself. Equality is symmetric and transitive, and a
value that holds no NaN equals itself (`isPartialEquivalence_beq`); for all values together it is no
equivalence (`not_equivalence_beq`).
-/

namespace ViewTemplate

open Float.Model (UnpackedFloat)

/-! ## Numbers -/

/-- The number that a float stands for, in which zero has no sign. NaN stands for none. -/
def number? : UnpackedFloat → Option UnpackedFloat
  | .notANumber => none
  | .zero _ => some (.zero .positive)
  | number => some number

/-- The two options hold the same element. -/
def Common {α : Type} (left right : Option α) : Prop :=
  ∃ element, left = some element ∧ right = some element

theorem compare_then_eq_iff {leftExponent rightExponent : Int} {left right : Nat} :
    (compare leftExponent rightExponent).then (compare left right) = .eq ↔
      left = right ∧ leftExponent = rightExponent := by
  rw [Ordering.then_eq_eq, Std.compare_eq_iff_eq, Std.compare_eq_iff_eq, and_comm]

theorem compare_eq_some_eq_iff (left right : UnpackedFloat) :
    left.compare right = some .eq ↔ Common (number? left) (number? right) := by
  rcases left with (_ | _) | _ | _ | ⟨_ | _, mantissa, exponent, positive⟩ <;>
    rcases right with (_ | _) | _ | _ | ⟨_ | _, other, otherExponent, otherPositive⟩
  case finite.negative.finite.negative | finite.positive.finite.positive =>
    -- Only here are there digits to compare; kinds and signs decide all other pairs.
    simp only [UnpackedFloat.compare, number?, Common, Option.some.injEq, Ordering.swap_eq_eq,
      compare_then_eq_iff, exists_eq_left', UnpackedFloat.finite.injEq, true_and]
    rw [eq_comm, @eq_comm _ otherExponent]
  all_goals simp [UnpackedFloat.compare, number?, Common, compare]

theorem float_beq_iff (left right : Float) :
    (left == right) = true ↔
      Common (number? left.toModel.unpack) (number? right.toModel.unpack) := by
  change (left.toModel.unpack.compare right.toModel.unpack == some .eq) = true ↔ _
  rw [beq_iff_eq, compare_eq_some_eq_iff]

theorem number?_eq_none_iff (number : Float) :
    number? number.toModel.unpack = none ↔ number.isNaN = true := by
  change _ ↔ number.toModel.unpack.isNaN = true
  cases number.toModel.unpack <;> simp [UnpackedFloat.isNaN, number?]

/-! ## Common elements -/

section Common

variable {α β γ : Type}

theorem common_some_iff {left right : α} : Common (some left) (some right) ↔ left = right := by
  simp only [Common, Option.some.injEq, exists_eq_left', eq_comm]

theorem common_self_iff {option : Option α} : Common option option ↔ option ≠ none := by
  simp only [Common, and_self, Option.ne_none_iff_exists']

theorem Common.symm {left right : Option α} (common : Common left right) : Common right left := by
  obtain ⟨element, first, second⟩ := common
  exact ⟨element, second, first⟩

theorem Common.trans {first second third : Option α} (common : Common first second)
    (next : Common second third) : Common first third := by
  obtain ⟨element, isFirst, isSecond⟩ := common
  obtain ⟨other, isSecond', isThird⟩ := next
  obtain rfl := Option.some.inj (isSecond.symm.trans isSecond')
  exact ⟨element, isFirst, isThird⟩

theorem common_map_iff {function : α → β} (injective : Function.Injective function)
    {left right : Option α} :
    Common (left.map function) (right.map function) ↔ Common left right := by
  cases left <;> cases right <;> simp [Common, injective.eq_iff]

theorem common_map₂_iff {function : α → β → γ} (injective : Function.Injective2 function)
    {left right : Option α} {lefts rights : Option β} :
    Common (Option.map₂ function left lefts) (Option.map₂ function right rights) ↔
      Common left right ∧ Common lefts rights := by
  cases left <;> cases right <;> cases lefts <;> cases rights <;>
    simp [Common, injective.eq_iff]

end Common

namespace Value

/-! ## Forms -/

/-- What equality sees of a value. -/
inductive Form where
  | none
  | bool (truth : Bool)
  | integer (number : Int64)
  | number (number : UnpackedFloat)
  | string (text : String)
  | list (items : List Form)
  | map (entries : List (String × Form))

mutual

/-- The form of a value, if every float in it stands for a number. -/
def form? : Value → Option Form
  | .none => some .none
  | .bool truth => some (.bool truth)
  | .integer number => some (.integer number)
  | .float number => (number? number.toModel.unpack).map .number
  | .string text => some (.string text)
  | .list items => (itemForms? items).map .list
  | .map entries => (entryForms? entries).map .map

def itemForms? : List Value → Option (List Form)
  | [] => some []
  | item :: items => Option.map₂ List.cons (form? item) (itemForms? items)

def entryForms? : List (String × Value) → Option (List (String × Form))
  | [] => some []
  | (key, value) :: entries =>
      Option.map₂ List.cons ((form? value).map (Prod.mk key)) (entryForms? entries)

end

theorem cons_injective2 {α : Type} : Function.Injective2 (@List.cons α) :=
  fun _ _ _ _ => List.cons.inj

theorem common_keyed_iff {leftKey rightKey : String} {left right : Option Form} :
    Common (left.map (Prod.mk leftKey)) (right.map (Prod.mk rightKey)) ↔
      leftKey = rightKey ∧ Common left right := by
  cases left <;> cases right <;> simp [Common, eq_comm]

mutual

/-- Two values are equal exactly where they have one form. -/
theorem equal_iff : ∀ left right : Value,
    left.equal right = true ↔ Common left.form? right.form? := by
  intro left right
  cases left <;> cases right
  case none.none => simp only [equal, form?, common_some_iff]
  case bool.bool | integer.integer | string.string =>
    simp only [equal, form?, common_some_iff, beq_iff_eq, Form.bool.injEq, Form.integer.injEq,
      Form.string.injEq]
  case float.float left right =>
    rw [form?, form?, common_map_iff fun _ _ => Form.number.inj]
    exact float_beq_iff left right
  case list.list lefts rights =>
    rw [form?, form?, common_map_iff fun _ _ => Form.list.inj]
    exact equalItems_iff lefts rights
  case map.map lefts rights =>
    rw [form?, form?, common_map_iff fun _ _ => Form.map.inj]
    exact equalEntries_iff lefts rights
  all_goals simp [equal, form?, Common]

theorem equalItems_iff : ∀ lefts rights : List Value,
    equalItems lefts rights = true ↔ Common (itemForms? lefts) (itemForms? rights) := by
  intro lefts rights
  match lefts, rights with
  | [], [] => simp only [equalItems, itemForms?, common_some_iff]
  | [], right :: rights | left :: lefts, [] => simp [equalItems, itemForms?, Common]
  | left :: lefts, right :: rights =>
      rw [equalItems, Bool.and_eq_true, equal_iff left right, equalItems_iff lefts rights]
      rw [itemForms?, itemForms?, common_map₂_iff cons_injective2]

theorem equalEntries_iff : ∀ lefts rights : List (String × Value),
    equalEntries lefts rights = true ↔ Common (entryForms? lefts) (entryForms? rights) := by
  intro lefts rights
  match lefts, rights with
  | [], [] => simp only [equalEntries, entryForms?, common_some_iff]
  | [], (rightKey, right) :: rights | (leftKey, left) :: lefts, [] =>
      simp [equalEntries, entryForms?, Common]
  | (leftKey, left) :: lefts, (rightKey, right) :: rights =>
      rw [equalEntries, Bool.and_eq_true, Bool.and_eq_true, equal_iff left right,
        equalEntries_iff lefts rights]
      rw [entryForms?, entryForms?, common_map₂_iff cons_injective2, common_keyed_iff,
        beq_iff_eq]

end

theorem beq_iff (left right : Value) :
    (left == right) = true ↔ Common left.form? right.form? :=
  equal_iff left right

/-! ## Values that hold NaN -/

/-- The value is NaN, or one of the values in it holds NaN. -/
inductive HoldsNaN : Value → Prop
  | float {number : Float} (isNaN : number.isNaN = true) : HoldsNaN (.float number)
  | list {items : List Value} {item : Value} (member : item ∈ items) (holds : HoldsNaN item) :
      HoldsNaN (.list items)
  | map {entries : List (String × Value)} {entry : String × Value} (member : entry ∈ entries)
      (holds : HoldsNaN entry.2) : HoldsNaN (.map entries)

theorem itemForms?_eq_none_iff {items : List Value} :
    itemForms? items = Option.none ↔ ∃ item ∈ items, item.form? = Option.none := by
  induction items with
  | nil => simp [itemForms?]
  | cons item items inductionHypothesis =>
      rw [itemForms?, Option.map₂_eq_none_iff, inductionHypothesis, List.exists_mem_cons_iff]

theorem entryForms?_eq_none_iff {entries : List (String × Value)} :
    entryForms? entries = Option.none ↔ ∃ entry ∈ entries, entry.2.form? = Option.none := by
  induction entries with
  | nil => simp [entryForms?]
  | cons entry entries inductionHypothesis =>
      rw [entryForms?, Option.map₂_eq_none_iff, inductionHypothesis, List.exists_mem_cons_iff,
        Option.map_eq_none_iff]

theorem form?_eq_none_iff (value : Value) : value.form? = Option.none ↔ value.HoldsNaN := by
  constructor
  · intro missing
    induction value using inductionOn with
    | none | bool | integer | string => cases missing
    | float number =>
        exact .float ((number?_eq_none_iff number).1 (Option.map_eq_none_iff.1 missing))
    | list items inductionHypothesis =>
        obtain ⟨item, member, nothing⟩ :=
          itemForms?_eq_none_iff.1 (Option.map_eq_none_iff.1 missing)
        exact .list member (inductionHypothesis item member nothing)
    | map entries inductionHypothesis =>
        obtain ⟨entry, member, nothing⟩ :=
          entryForms?_eq_none_iff.1 (Option.map_eq_none_iff.1 missing)
        exact .map member (inductionHypothesis entry member nothing)
  · intro holds
    induction holds with
    | float isNaN => exact Option.map_eq_none_iff.2 ((number?_eq_none_iff _).2 isNaN)
    | list member _ inductionHypothesis =>
        exact Option.map_eq_none_iff.2 (itemForms?_eq_none_iff.2 ⟨_, member, inductionHypothesis⟩)
    | map member _ inductionHypothesis =>
        exact Option.map_eq_none_iff.2 (entryForms?_eq_none_iff.2 ⟨_, member, inductionHypothesis⟩)

/-! ## The relation -/

/-- A value equals itself unless it holds NaN; for all values equality is symmetric and
transitive. -/
theorem isPartialEquivalence_beq (first second third : Value) :
    ((first == first) = true ↔ ¬ first.HoldsNaN) ∧
      ((first == second) = true → (second == first) = true) ∧
      ((first == second) = true → (second == third) = true → (first == third) = true) := by
  simp only [beq_iff]
  refine ⟨?_, Common.symm, Common.trans⟩
  rw [common_self_iff, ne_eq, form?_eq_none_iff]

/-- Equality is not reflexive: `0.0 / 0.0` is a value and differs from itself. -/
theorem not_equivalence_beq :
    ¬ Equivalence fun left right : Value => (left == right) = true := by
  intro equivalence
  have same : ((.float (0.0 / 0.0) : Value) == .float (0.0 / 0.0)) = true := equivalence.refl _
  exact absurd same (by decide)

end Value

end ViewTemplate
