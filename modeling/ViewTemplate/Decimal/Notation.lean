import ViewTemplate.Decimal.Shortest

/-!
Writing doubles as text, and reading doubles and singles. The digits written are the shortest
ones; a style says where positional writing ends and whether a whole number keeps its point.
-/

namespace ViewTemplate.Decimal

/-! ## Writing -/

/-- How a double is written. -/
structure Style where
  /-- Whether a whole number is written with `.0`. -/
  keepsPoint : Bool
  /-- The least power of ten of the leading digit that is written positionally, and the least
  one from there on that is not. Without bounds every number is positional. -/
  positionalRange : Option (Int × Int)

/-- The style of rendered output: always positional, whole numbers without a point. -/
def Style.rendered : Style := ⟨false, none⟩

/-- The style of diagnostics: a point or an exponent shows that the number is no integer, and
positional writing goes from `0.0001` up to below `10 ^ 16`. -/
def Style.diagnostic : Style := ⟨true, some (-4, 16)⟩

/-- The digits with the decimal point in its place. -/
def positional (style : Style) (number : Scientific) : List Char :=
  let digits := Nat.toDigits 10 number.digits
  let whole := if style.keepsPoint then ['.', '0'] else []
  if 0 ≤ number.exponent then
    digits ++ List.replicate number.exponent.toNat '0' ++ whole
  else
    let places := (-number.exponent).toNat
    if places < digits.length then
      digits.take (digits.length - places) ++ '.' :: digits.drop (digits.length - places)
    else ['0', '.'] ++ List.replicate (places - digits.length) '0' ++ digits

/-- One digit before the point and the power of ten behind. -/
def exponential (number : Scientific) : List Char :=
  let digits := Nat.toDigits 10 number.digits
  let power : Int := number.exponent + digits.length - 1
  let mantissa :=
    match digits with
    | [] => []
    | [digit] => [digit]
    | digit :: fraction => digit :: '.' :: fraction
  mantissa ++ 'e' :: (toString power).toList

def writePositive (style : Style) (number : Scientific) : List Char :=
  let leading : Int := number.exponent + (Nat.toDigits 10 number.digits).length - 1
  match style.positionalRange with
  | some (least, bound) =>
      if least ≤ leading ∧ leading < bound then positional style number else exponential number
  | none => positional style number

/-- The text of a double. Every NaN is `NaN`. -/
def write (style : Style) (number : Float) : String :=
  let signed (negative : Bool) (text : List Char) : String :=
    String.ofList (if negative then '-' :: text else text)
  match decode number with
  | .notANumber => "NaN"
  | .infinite negative => signed negative ['i', 'n', 'f']
  | .finite value =>
      signed value.negative <|
        if value.mantissa = 0 then positional style ⟨0, 0⟩
        else writePositive style (shortest value.mantissa value.exponent)

/-! ## Reading -/

/-- The number that decimal digits denote. -/
def digitsValue (digits : List Char) : Nat :=
  digits.foldl (fun value digit => 10 * value + (digit.toNat - 48)) 0

/-- The bits of the number of a format that is nearest to `digits * 10 ^ exponent`. Numbers beyond
the range of doubles are decided by their leading digit, so no huge power is computed. -/
def decimalMagnitude (format : BinaryFormat) (digits : Nat) (exponent : Int) : Nat :=
  let leading : Int := exponent + decimalDigits digits
  if digits = 0 ∨ leading < -400 then 0
  else if 400 < leading then format.infinity
  else
    let (up, down) := powerRatio 10 exponent
    format.nearest (digits * up) down

/-- The double nearest to `digits * 10 ^ exponent`. -/
def ofDecimal (negative : Bool) (digits : Nat) (exponent : Int) : Float :=
  withSign negative (decimalMagnitude .double digits exponent)

/-- Reads `whole.fraction` as a double. -/
def ofParts (whole fraction : List Char) : Float :=
  ofDecimal false (digitsValue (whole ++ fraction)) (-(fraction.length : Int))

def stripSign : List Char → Bool × List Char
  | '-' :: text => (true, text)
  | '+' :: text => (false, text)
  | text => (false, text)

/-- Reads an exponent, `e` and the sign included; nothing at all stands for zero. -/
def readExponent? : List Char → Option Int
  | [] => some 0
  | mark :: text =>
      if mark = 'e' ∨ mark = 'E' then
        let (negative, digits) := stripSign text
        if digits ≠ [] ∧ digits.all Char.isDigit then
          let power : Int := digitsValue digits
          some (if negative then -power else power)
        else none
      else none

/-- What a text denotes: a word for no number or for infinity, or `digits * 10 ^ exponent`. -/
inductive Numeral where
  | notANumber
  | infinite (negative : Bool)
  | finite (negative : Bool) (digits : Nat) (exponent : Int)

/-- The nearest double. -/
def Numeral.toDouble : Numeral → Float
  | .notANumber => 0.0 / 0.0
  | .infinite negative => withSign negative BinaryFormat.double.infinity
  | .finite negative digits exponent => ofDecimal negative digits exponent

/-- The nearest single. It is found without a detour by way of doubles, whose rounding could hide
on which side of the middle between two singles the number lies. -/
def Numeral.toSingle : Numeral → Float32
  | .notANumber => 0.0 / 0.0
  | .infinite negative => singleWithSign negative BinaryFormat.single.infinity
  | .finite negative digits exponent =>
      singleWithSign negative (decimalMagnitude .single digits exponent)

/-- Reads a decimal number: digits with at most one point, at least one digit, an optional
exponent, an optional sign, or one of the words for infinity and NaN in any case. -/
def readNumeral? (text : String) : Option Numeral :=
  let (negative, body) := stripSign text.toList
  let word := String.ofList (body.map Char.toLower)
  if word = "inf" ∨ word = "infinity" then some (.infinite negative)
  else if word = "nan" then some .notANumber
  else
    let whole := body.takeWhile Char.isDigit
    let (fraction, rest) :=
      match body.dropWhile Char.isDigit with
      | '.' :: rest => (rest.takeWhile Char.isDigit, rest.dropWhile Char.isDigit)
      | rest => ([], rest)
    if whole ++ fraction = [] then none
    else
      (readExponent? rest).map fun power =>
        .finite negative (digitsValue (whole ++ fraction)) (power - fraction.length)

def read? (text : String) : Option Float :=
  (readNumeral? text).map Numeral.toDouble

def readSingle? (text : String) : Option Float32 :=
  (readNumeral? text).map Numeral.toSingle

end ViewTemplate.Decimal
