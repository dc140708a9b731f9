/-!
Binary floating-point numbers as exact rationals: a finite double is an integer times a power of
two, and every ratio of natural numbers has a nearest number in each binary format. The module
also holds the exact remainder of two doubles.
-/

namespace ViewTemplate.Decimal

/-! ## Decoding -/

/-- The magnitude `mantissa * 2 ^ exponent` with a sign. -/
structure Dyadic where
  negative : Bool
  mantissa : Nat
  exponent : Int

/-- What the bits of a double stand for. -/
inductive Decoded where
  | notANumber
  | infinite (negative : Bool)
  | finite (number : Dyadic)

/-- The parts of a double: the sign, the biased exponent and the fraction. -/
def fields (number : Float) : Bool × Nat × Nat :=
  let bits := number.toBits.toNat
  (bits / Nat.pow 2 63 = 1, bits / Nat.pow 2 52 % Nat.pow 2 11, bits % Nat.pow 2 52)

def decode (number : Float) : Decoded :=
  let (negative, biased, fraction) := fields number
  if biased = 2047 then
    if fraction = 0 then .infinite negative else .notANumber
  else if biased = 0 then .finite ⟨negative, fraction, -1074⟩
  else .finite ⟨negative, Nat.pow 2 52 + fraction, (biased : Int) - 1075⟩

/-! ## Powers of integer exponent -/

/-- The power `base ^ exponent` as a numerator and a denominator. -/
def powerRatio (base : Nat) (exponent : Int) : Nat × Nat :=
  if 0 ≤ exponent then (Nat.pow base exponent.toNat, 1)
  else (1, Nat.pow base (-exponent).toNat)

/-- The largest `exponent` with `base ^ exponent ≤ numerator / denominator`, for a positive ratio
whose numerator and denominator have `digits` many digits. -/
def floorLog (base : Nat) (digits : Nat → Nat) (numerator denominator : Nat) : Int :=
  let estimate : Int := (digits numerator : Int) - digits denominator
  let (up, down) := powerRatio base estimate
  if denominator * up ≤ numerator * down then estimate else estimate - 1

def binaryDigits (number : Nat) : Nat :=
  if number = 0 then 0 else number.log2 + 1

/-! ## The nearest number of a format -/

/-- The quotient rounded to the nearest integer, a tie to the even one. -/
def roundQuotient (numerator denominator : Nat) : Nat :=
  let quotient := numerator / denominator
  let doubled := 2 * (numerator % denominator)
  if doubled < denominator then quotient
  else if denominator < doubled then quotient + 1
  else quotient + quotient % 2

/-- A binary format: a sign, a biased exponent and a fraction, each of its own width. -/
structure BinaryFormat where
  exponentBits : Nat
  fractionBits : Nat

namespace BinaryFormat

def double : BinaryFormat := ⟨11, 52⟩

def single : BinaryFormat := ⟨8, 23⟩

/-- The exponent of the greatest numbers, 1023 for doubles. -/
def greatestExponent (format : BinaryFormat) : Nat :=
  Nat.pow 2 (format.exponentBits - 1) - 1

/-- The exponent of the least positive number, -1074 for doubles. -/
def leastExponent (format : BinaryFormat) : Int :=
  1 - (format.greatestExponent : Int) - format.fractionBits

/-- The bits of infinity: an exponent of ones only and no fraction. -/
def infinity (format : BinaryFormat) : Nat :=
  (Nat.pow 2 format.exponentBits - 1) * Nat.pow 2 format.fractionBits

/-- The bits of the number nearest to `numerator / denominator`, a tie to the even one. Since
consecutive numbers have consecutive bits, a mantissa rounded up past its last digit carries into
the exponent, and past the greatest number to infinity. -/
def nearest (format : BinaryFormat) (numerator denominator : Nat) : Nat :=
  if numerator = 0 then 0
  else
    let leading := floorLog 2 binaryDigits numerator denominator
    if (format.greatestExponent : Int) < leading then format.infinity
    else
      let unit : Int := max (leading - format.fractionBits) format.leastExponent
      let (up, down) := powerRatio 2 unit
      let mantissa := roundQuotient (numerator * down) (denominator * up)
      (unit - format.leastExponent).toNat * Nat.pow 2 format.fractionBits + mantissa

end BinaryFormat

def withSign (negative : Bool) (magnitude : Nat) : Float :=
  Float.ofBits (UInt64.ofNat (if negative then Nat.pow 2 63 + magnitude else magnitude))

def singleWithSign (negative : Bool) (magnitude : Nat) : Float32 :=
  Float32.ofBits (UInt32.ofNat (if negative then Nat.pow 2 31 + magnitude else magnitude))

/-- The double nearest to `numerator / denominator`, a tie to the even one. -/
def nearest (negative : Bool) (numerator denominator : Nat) : Float :=
  withSign negative (BinaryFormat.double.nearest numerator denominator)

/-! ## Remainder -/

/-- The remainder of a division whose quotient is cut towards zero. It is exact and has the sign
of the dividend; an infinite divisor leaves the dividend as it is. -/
def remainder (dividend divisor : Float) : Float :=
  match decode dividend, decode divisor with
  | .finite _, .infinite _ => dividend
  | .finite left, .finite right =>
      if right.mantissa = 0 then 0.0 / 0.0
      else
        let exponent := min left.exponent right.exponent
        let scaled (number : Dyadic) : Nat :=
          number.mantissa * Nat.pow 2 (number.exponent - exponent).toNat
        let (up, down) := powerRatio 2 exponent
        nearest left.negative (scaled left % scaled right * up) down
  | _, _ => 0.0 / 0.0

end ViewTemplate.Decimal
