import Modpack.Number.Whole

/-!
# Decimal numbers in text

The grammar of a number: an optional sign, digits with at most one point and at least one
digit, and an optional exponent. A number stands for the double nearest to it, ties going to
the even neighbour. `number?` reads the grammar; `float?` also reads the names of the infinities
and of the value that is not a number.
-/
namespace Modpack.Decimal

/-- A signed decimal: `coefficient * 10 ^ exponent`, negated when `negative`. -/
structure Scientific where
  /-- Whether a minus sign stands in front. -/
  negative : Bool
  /-- All written digits as one number. -/
  coefficient : Nat
  /-- The written exponent less the number of digits after the point. -/
  exponent : Int
deriving DecidableEq, Repr

/-- The double nearest to a decimal, infinite when the decimal is too large. -/
def Scientific.toFloat (decimal : Scientific) : Float :=
  let magnitude := Float.ofScientific decimal.coefficient (divides decimal.exponent)
    decimal.exponent.natAbs
  if decimal.negative then -magnitude else magnitude
where
  /-- Whether an exponent divides rather than multiplies. -/
  divides (exponent : Int) : Bool := decide (exponent < 0)

/-- Split off a leading sign; true stands for minus. -/
def splitSign : List Char → Bool × List Char
  | '-' :: rest => (true, rest)
  | '+' :: rest => (false, rest)
  | rest => (false, rest)

/-- Digits are read as a number, and no digits as zero. -/
def digitsValue (digits : List Char) : Nat :=
  digits.foldl (fun value digit => 10 * value + (digit.toNat - '0'.toNat)) 0

/-- What may follow the digits: nothing, or an exponent mark and a signed whole number. -/
def exponent? : List Char → Option Int
  | [] => some 0
  | mark :: rest =>
    if mark = 'e' ∨ mark = 'E' then
      let (negative, digits) := splitSign rest
      (Whole.decimal? digits).map fun value => if negative then -(value : Int) else value
    else none

/-- A number without its sign. -/
def unsigned? (negative : Bool) (text : List Char) : Option Scientific :=
  let whole := text.takeWhile Char.isDigit
  match text.dropWhile Char.isDigit with
  | '.' :: rest =>
    let fraction := rest.takeWhile Char.isDigit
    if whole.isEmpty && fraction.isEmpty then none
    else (exponent? (rest.dropWhile Char.isDigit)).map fun exponent =>
      ⟨negative, digitsValue (whole ++ fraction), exponent - fraction.length⟩
  | rest =>
    if whole.isEmpty then none
    else (exponent? rest).map fun exponent => ⟨negative, digitsValue whole, exponent⟩

/-- A signed number. -/
def number? (text : List Char) : Option Scientific :=
  let (negative, rest) := splitSign text
  unsigned? negative rest

/-- The finite double a text stands for; text of an infinity or beyond the range has none. -/
def finite? (text : List Char) : Option Float :=
  (number? text).bind fun decimal =>
    let value := decimal.toFloat
    if value.isFinite then some value else none

/-- The double a text stands for, the names `inf`, `infinity` and `nan` in any case included. -/
def float? (text : String) : Option Float :=
  let (negative, rest) := splitSign text.toList
  let name := String.ofList (rest.map Char.toLower)
  if name = "inf" ∨ name = "infinity" then
    some (if negative then -(1.0 / 0.0) else 1.0 / 0.0)
  else if name = "nan" then some (0.0 / 0.0)
  else (unsigned? negative rest).map Scientific.toFloat

end Modpack.Decimal
