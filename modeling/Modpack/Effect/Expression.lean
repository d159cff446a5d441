import Modpack.Number.Decimal
import Modpack.Number.Shortest
import Modpack.Text.Blank
import Modpack.Text.Lower

/-!
# Effect expressions

The text of an effect says what becomes of a stat. Blanks around it and the case of its letters
do not matter, and the first form that fits decides: `max`, `min`, `add:N` or `+N`, `-N`,
`multiply:N`, and a plain `N`. `N` is a finite decimal number, blanks around it allowed. In `-N`
the sign belongs to the number. Any other text is invalid and leaves the stat as it is.
-/
namespace Modpack.Effect

open Modpack.Text

/-- What an effect does to a stat. -/
inductive Expression where
  /-- Raise the stat to its largest value. -/
  | max
  /-- Lower the stat to zero. -/
  | min
  /-- Add to the stat. -/
  | add (amount : Float)
  /-- Multiply the stat. -/
  | multiply (factor : Float)
  /-- Set the stat. -/
  | set (value : Float)
  /-- Leave the stat: the text fits no form. -/
  | invalid
deriving DecidableEq

namespace Expression

/-- A finite number with blanks around it. -/
def number? (text : List Char) : Option Float :=
  Decimal.finite? (trim text)

/-- Build an expression from a number, or the invalid one when there is none. -/
def ofNumber (build : Float → Expression) (text : List Char) : Expression :=
  match number? text with
  | some value => build value
  | none => invalid

/-- What follows a mark at the front of a text. -/
def after? (mark text : List Char) : Option (List Char) :=
  if mark.isPrefixOf text then some (text.drop mark.length) else none

/-- Read a text whose outer blanks are dropped and whose letters are small. -/
def ofLowered (text : List Char) : Expression :=
  if text = "max".toList then max
  else if text = "min".toList then min
  else match after? "add:".toList text with
    | some rest => ofNumber add rest
    | none => match after? ['+'] text with
      | some rest => ofNumber add rest
      | none =>
        if ['-'].isPrefixOf text then ofNumber add text
        else match after? "multiply:".toList text with
          | some rest => ofNumber multiply rest
          | none => ofNumber set text

/-- Read the text of an effect. -/
def ofText (text : String) : Expression :=
  ofLowered (lower (trim text.toList))

/-- The value of a stat after the effect. -/
def apply (expression : Expression) (current largest : Float) : Float :=
  match expression with
  | max => largest
  | min => 0.0
  | add amount => current + amount
  | multiply factor => current * factor
  | set value => value
  | invalid => current

/-- Whether the text fitted a form. -/
def isValid : Expression → Bool
  | invalid => false
  | _ => true

/-- The number an expression carries. -/
def amount? : Expression → Option Float
  | add amount => some amount
  | multiply factor => some factor
  | set value => some value
  | max | min | invalid => none

end Expression

/-- The text of an effect as a tooltip shows it: `MAX` for the largest value, signed texts and a
bare zero as written, other numbers in their shortest form with a plus sign unless they are
negative, and what is no number as written. -/
def shown (value : String) : String :=
  let text := trim value.toList
  if text = [] then ""
  else if sameAscii (String.ofList text) "max" then "MAX"
  else if text = ['0'] ∨ ['+'].isPrefixOf text ∨ ['-'].isPrefixOf text then String.ofList text
  else match Expression.number? text with
    | some number =>
      if number ≥ 0.0 then "+" ++ Shortest.text number else Shortest.text number
    | none => String.ofList text

end Modpack.Effect
