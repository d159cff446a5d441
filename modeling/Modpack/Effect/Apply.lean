import Modpack.Definition.Item
import Modpack.Effect.Expression
import Modpack.Effect.Names

/-!
# Using items

The effects of an item are applied to the stats of a character one after the other. An effect on
a stat that is not known, or that the character does not have, does nothing. A tooltip has one
line for each effect.
-/
namespace Modpack.Effect

/-- The stats after one effect; nothing when its stat is not known or not there. -/
def applied? (aliases : Aliases) (stats : StatStore) (effect : EffectDefinition) :
    Option StatStore :=
  (aliases.stat? effect.stat).bind fun stat =>
    (stats.gauge? stat).map fun gauge =>
      stats.set stat ((Expression.ofText effect.value).apply gauge.current gauge.max)

/-- The stats after all effects, in order. -/
def applyAll (aliases : Aliases) (effects : List EffectDefinition) (stats : StatStore) :
    StatStore :=
  effects.foldl (fun stats effect => (applied? aliases stats effect).getD stats) stats

/-- A line of a tooltip. -/
structure Line where
  /-- What is changed. -/
  label : String
  /-- How. -/
  value : String
deriving DecidableEq, Repr

/-- The line of an effect. -/
def line (effect : EffectDefinition) : Line :=
  ⟨label effect.stat, shown effect.value⟩

end Modpack.Effect
