import Modpack.Number.Whole

/-!
# Shortest decimal text of a double

Every double is the only one in some interval of the real line, its cell: the reals that round
to it. `Cell.shortest` looks for a point of a decimal grid inside the cell, trying ever finer
grids `10 ^ exponent`; the first grid with a hit gives the digits. Of two hits on one grid the
nearer to the double is taken, and of two equally near ones the larger, so halves go away from
zero. `text` writes these digits positionally, never with an exponent, and writes no point after
a whole number.
-/
namespace Modpack.Shortest

/-- The reals that round to one positive double, all in quarters of its last binary place. -/
structure Cell where
  /-- The lower end. -/
  low : Nat
  /-- The double itself. -/
  value : Nat
  /-- The upper end. -/
  high : Nat
  /-- Whether the ends round to this double too; they do when the mantissa is even. -/
  closed : Bool
  /-- The binary exponent of one unit. -/
  exponent : Int
deriving DecidableEq, Repr

/-- The cell of a positive double given by its mantissa and exponent fields. Below a power of
two doubles lie twice as close, so the lower half of such a cell is half as wide. -/
def Cell.ofFields (fraction exponentField : Nat) : Cell :=
  let mantissa := if exponentField = 0 then fraction else Nat.pow 2 52 + fraction
  let below := if fraction = 0 ∧ 1 < exponentField then 1 else 2
  { low := 4 * mantissa - below
    value := 4 * mantissa
    high := 4 * mantissa + 2
    closed := mantissa % 2 == 0
    exponent := (if exponentField = 0 then 1 else (exponentField : Int)) - 1077 }

/-- A positive decimal: `digits * 10 ^ exponent`. -/
structure Digits where
  /-- All digits as one number. -/
  digits : Nat
  /-- The power of ten of the last digit. -/
  exponent : Int
deriving DecidableEq, Repr

/-- What one unit of the cell amounts to on the grid of `10 ^ exponent`, as a fraction. -/
def Cell.ratio (cell : Cell) (exponent : Int) : Nat × Nat :=
  (Nat.pow 2 cell.exponent.toNat * Nat.pow 10 (-exponent).toNat,
    Nat.pow 2 (-cell.exponent).toNat * Nat.pow 10 exponent.toNat)

/-- Whether a point of the grid lies in the cell. -/
def Cell.holds (cell : Cell) (ratio : Nat × Nat) (point : Nat) : Bool :=
  let place := point * ratio.2
  if cell.closed then
    decide (cell.low * ratio.1 ≤ place) && decide (place ≤ cell.high * ratio.1)
  else
    decide (cell.low * ratio.1 < place) && decide (place < cell.high * ratio.1)

/-- The point of the grid that stands for the cell, if one of the double's two neighbours
there lies in it. -/
def Cell.gridPoint? (cell : Cell) (ratio : Nat × Nat) : Option Nat :=
  let exact := cell.value * ratio.1
  let below := exact / ratio.2
  let above := below + 1
  match cell.holds ratio below, cell.holds ratio above with
  | true, true =>
    if exact - below * ratio.2 < above * ratio.2 - exact then some below else some above
  | true, false => some below
  | false, true => some above
  | false, false => none

/-- Try the grids from `10 ^ exponent` on, each ten times as fine as the one before. A grid
coarser than the double has it below its first point and is passed over. -/
def Cell.search (cell : Cell) : Nat → Int → Digits
  | 0, exponent => ⟨cell.value, exponent⟩
  | fuel + 1, exponent =>
    let ratio := cell.ratio exponent
    if cell.value * ratio.1 < ratio.2 then cell.search fuel (exponent - 1)
    else match cell.gridPoint? ratio with
      | some point => ⟨point, exponent⟩
      | none => cell.search fuel (exponent - 1)

/-- A power of ten at or above the double's first digit, from its count of binary digits. -/
def Cell.start (cell : Cell) : Int :=
  ((cell.value.log2 : Int) + cell.exponent) * 30103 / 100000 + 2

/-- The shortest decimal in the cell. Seventeen digits always suffice, and the search starts
at most three places above the first. -/
def Cell.shortest (cell : Cell) : Digits :=
  cell.search 24 cell.start

/-- Drop the zeros at the end of a digit list. -/
def dropZeros (digits : List Char) : List Char :=
  (digits.reverse.dropWhile (· == '0')).reverse

/-- A positive decimal written positionally. -/
def Digits.text (decimal : Digits) : String :=
  let digits := Nat.toDigits 10 decimal.digits
  if 0 ≤ decimal.exponent then
    String.ofList (digits ++ List.replicate decimal.exponent.toNat '0')
  else
    let places := (-decimal.exponent).toNat
    let padded := List.replicate (places + 1 - digits.length) '0' ++ digits
    let whole := padded.take (padded.length - places)
    let fraction := dropZeros (padded.drop (padded.length - places))
    if fraction.isEmpty then String.ofList whole else String.ofList (whole ++ '.' :: fraction)

/-- The text of a double. The value that is not a number is written without its sign. -/
def text (value : Float) : String :=
  let bits := value.toBits.toNat
  let fraction := bits % Nat.pow 2 52
  let exponentField := bits / Nat.pow 2 52 % 2048
  let sign := if bits / Nat.pow 2 63 = 0 then "" else "-"
  if exponentField = 2047 then
    if fraction = 0 then sign ++ "inf" else "NaN"
  else if exponentField = 0 ∧ fraction = 0 then sign ++ "0"
  else sign ++ (Cell.ofFields fraction exponentField).shortest.text

end Modpack.Shortest
