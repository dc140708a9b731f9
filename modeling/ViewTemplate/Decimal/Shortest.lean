import ViewTemplate.Decimal.Binary

/-!
Shortest decimals: the fewest digits that read back as the same double, and of those the digits
nearest to it. All comparisons are made in natural numbers.
-/

namespace ViewTemplate.Decimal

/-- The positive decimal `digits * 10 ^ exponent`. -/
structure Scientific where
  digits : Nat
  exponent : Int

/-- The reals that round to a double, in units of `2 ^ unit`: from `low` to `high` around
`middle`, the ends included when the interval is `closed`. -/
structure RoundingInterval where
  low : Nat
  middle : Nat
  high : Nat
  unit : Int
  closed : Bool

namespace RoundingInterval

/-- The interval of `mantissa * 2 ^ exponent`. Below a power of two the neighbour is at half the
distance, the smallest binade apart. -/
def of (mantissa : Nat) (exponent : Int) : RoundingInterval where
  low := if mantissa = Nat.pow 2 52 ∧ -1074 < exponent then 4 * mantissa - 1 else 4 * mantissa - 2
  middle := 4 * mantissa
  high := 4 * mantissa + 2
  unit := exponent - 2
  closed := mantissa % 2 = 0

/-- A decimal of the grid `10 ^ grid` and the three points of the interval, brought to one
denominator. -/
def scaled (interval : RoundingInterval) (grid : Int) : (Nat → Nat) × (Nat → Nat) :=
  let (tenUp, tenDown) := powerRatio 10 grid
  let (twoUp, twoDown) := powerRatio 2 interval.unit
  (fun digits => digits * tenUp * twoDown, fun point => point * twoUp * tenDown)

/-- Whether `digits * 10 ^ grid` lies in the interval. -/
def holds (interval : RoundingInterval) (grid : Int) (digits : Nat) : Bool :=
  let (decimal, point) := interval.scaled grid
  if interval.closed then
    point interval.low ≤ decimal digits && decimal digits ≤ point interval.high
  else
    point interval.low < decimal digits && decimal digits < point interval.high

/-- The neighbour of the middle on the grid that lies in the interval; of two the nearer, and the
upper one when they are equally near. -/
def candidate? (interval : RoundingInterval) (grid : Int) : Option Nat :=
  let (decimal, point) := interval.scaled grid
  let below := point interval.middle / decimal 1
  match interval.holds grid below, interval.holds grid (below + 1) with
  | false, false => none
  | true, false => some below
  | false, true => some (below + 1)
  | true, true =>
      if point interval.middle - decimal below < decimal (below + 1) - point interval.middle then
        some below
      else some (below + 1)

end RoundingInterval

def decimalDigits (number : Nat) : Nat :=
  if number = 0 then 0 else (Nat.toDigits 10 number).length

/-- Moves trailing zeros of the digits into the exponent. -/
def Scientific.normalize (digits : Nat) (exponent : Int) : (fuel : Nat) → Scientific
  | 0 => ⟨digits, exponent⟩
  | fuel + 1 =>
      if digits % 10 = 0 then Scientific.normalize (digits / 10) (exponent + 1) fuel
      else ⟨digits, exponent⟩

/-- The shortest decimal of the positive number `mantissa * 2 ^ exponent`. Seventeen digits always
suffice. -/
def shortest (mantissa : Nat) (exponent : Int) : Scientific :=
  let interval := RoundingInterval.of mantissa exponent
  let (up, down) := powerRatio 2 exponent
  let leading := floorLog 10 decimalDigits (mantissa * up) down
  let found := (List.range 17).findSome? fun (more : Nat) =>
    (interval.candidate? (leading - more)).map fun digits => (digits, leading - (more : Int))
  match found with
  | some (digits, grid) => Scientific.normalize digits grid 20
  | none => ⟨0, 0⟩

end ViewTemplate.Decimal
