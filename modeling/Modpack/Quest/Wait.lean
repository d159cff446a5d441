import Modpack.Number.Whole
import Modpack.Text.Blank

/-!
# Waiting for items

An item wait is over when the player carries enough of the item. How many that is stands in the
comparison the host keeps as text, such as `>=3`; the condition reads it back from there. A text
that is no such comparison asks for one.
-/
namespace Modpack

/-- What a wait for an item asks for. -/
structure WaitCondition where
  /-- The item. -/
  item : Nat
  /-- How many of it were asked for. -/
  threshold : Int
  /-- The comparison as the host keeps it. -/
  comparator : String
  /-- The condition in words. -/
  expression : String
deriving DecidableEq, Repr

namespace WaitCondition

/-- The comparison that asks for a count or more. -/
def comparatorOf (count : Int) : String :=
  ">=" ++ Whole.text count

/-- The condition of carrying at least so many of an item. -/
def atLeast (item : Nat) (threshold : Int) : WaitCondition :=
  { item, threshold
    comparator := comparatorOf threshold
    expression := "item_" ++ Whole.text item ++ comparatorOf threshold }

/-- The count in a comparison, blanks around it and around its sign apart. -/
def countIn? (comparator : List Char) : Option Int :=
  match Text.trim comparator with
  | '>' :: '=' :: count => Whole.count? (Text.trim count)
  | _ => none

/-- The count asked for by a comparison that holds none. -/
def fallbackCount : Int := 1

/-- How many the comparison asks for. -/
def required (condition : WaitCondition) : Int :=
  (countIn? condition.comparator.toList).getD fallbackCount

/-- Whether a count is enough. -/
def isMet (condition : WaitCondition) (count : Int) : Bool :=
  condition.required ≤ count

end WaitCondition

end Modpack
