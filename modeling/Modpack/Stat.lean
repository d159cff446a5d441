/-!
# Character stats

The ten ranged stats of a character, and a store that holds some of them. A store is a function
from stats, so writing one stat changes that stat and no other (`get?_set`), and a stat the
store lacks stays absent.
-/
namespace Modpack

/-- A ranged stat of the character. -/
inductive Stat where
  | health
  | food
  | morale
  | grit
  | stamina
  | warm
  | illness
  | toxicity
  | wet
  | freshness
deriving DecidableEq, Repr

namespace Stat

/-- Every stat, in the order in which they are listed. -/
def all : List Stat :=
  [health, food, morale, grit, stamina, warm, illness, toxicity, wet, freshness]

/-- The name of a stat. -/
def name : Stat → String
  | health => "health"
  | food => "food"
  | morale => "morale"
  | grit => "grit"
  | stamina => "stamina"
  | warm => "warm"
  | illness => "illness"
  | toxicity => "toxicity"
  | wet => "wet"
  | freshness => "freshness"

/-- The stat of a name. -/
def ofName? (name : String) : Option Stat :=
  all.find? fun stat => stat.name == name

/-- Every stat is listed. -/
theorem mem_all (stat : Stat) : stat ∈ all := by
  cases stat <;> decide

end Stat

/-- The state of one stat. -/
structure Gauge where
  /-- Its value now. -/
  current : Float
  /-- The largest value it may take. -/
  max : Float
deriving DecidableEq

/-- The stats a character has. -/
structure StatStore where
  /-- The state of a stat, if the character has it. -/
  gauge? : Stat → Option Gauge

namespace StatStore

/-- The store without stats. -/
def empty : StatStore := ⟨fun _ => none⟩

/-- Add a stat, or replace its state. -/
def insert (store : StatStore) (stat : Stat) (gauge : Gauge) : StatStore :=
  ⟨fun other => if other = stat then some gauge else store.gauge? other⟩

/-- Write the current value of a stat the store has; a missing stat stays missing. -/
def set (store : StatStore) (stat : Stat) (value : Float) : StatStore :=
  ⟨fun other =>
    if other = stat then (store.gauge? stat).map fun gauge => { gauge with current := value }
    else store.gauge? other⟩

/-- A write shows on its own stat only, and leaves its largest value. -/
theorem gauge?_set (store : StatStore) (stat other : Stat) (value : Float) :
    (store.set stat value).gauge? other =
      if other = stat then (store.gauge? stat).map fun gauge => { gauge with current := value }
      else store.gauge? other := rfl

/-- The stats of the store with their states, in listing order. -/
def toList (store : StatStore) : List (Stat × Gauge) :=
  Stat.all.filterMap fun stat => (store.gauge? stat).map fun gauge => (stat, gauge)

end StatStore

end Modpack
