import Modpack.Dict
import Modpack.Stat
import Modpack.Text.Blank
import Modpack.Text.Lower

/-!
# Names of stats in package texts

Packages name stats in many ways. `Aliases` maps names to the stats of the character and can be
extended; `label` gives the heading of a tooltip line; `parameter?` gives the host's own word for
a bonus of a piece of gear. All three ignore case; a lookup in `Aliases` and `parameter?` also
ignore blanks around the name.
-/
namespace Modpack.Effect

open Modpack.Text

/-- The names that are known from the start. -/
def builtinAliases : List (String × Stat) :=
  [("health", .health), ("food", .food), ("morale", .morale), ("energy", .grit),
    ("grit", .grit), ("stamina", .stamina), ("fatigue", .stamina), ("tiredness", .stamina),
    ("warmth", .warm), ("warm", .warm), ("illness", .illness), ("toxicity", .toxicity),
    ("wet", .wet), ("wetness", .wet), ("dryness", .wet), ("freshness", .freshness),
    ("odour", .freshness), ("odor", .freshness), ("smell", .freshness)]

/-- The form in which a name is looked up: small letters, no blanks around. -/
def normalName (name : String) : String :=
  lowered (trimmed name)

/-- Names of stats. -/
structure Aliases where
  /-- The stat of each name, names in small letters. -/
  stats : Dict String Stat

namespace Aliases

/-- The names known from the start. -/
def builtin : Aliases := ⟨Dict.ofList builtinAliases⟩

/-- Add a name, or move it to another stat. The name is kept in small letters with its blanks. -/
def register (aliases : Aliases) (name : String) (stat : Stat) : Aliases :=
  ⟨aliases.stats.insert (lowered name) stat⟩

/-- The stat a name stands for. -/
def stat? (aliases : Aliases) (name : String) : Option Stat :=
  aliases.stats.get? (normalName name)

end Aliases

/-- The headings of tooltip lines; a name not listed here is its own heading. -/
def labels : List (String × String) :=
  [("health", "Health"), ("food", "Food"), ("morale", "Morale"), ("freshness", "Freshness"),
    ("warmth", "Warmth"), ("stamina", "Stamina"), ("illness", "Illness"),
    ("toxicity", "Toxicity"), ("wet", "Wetness"), ("", "Unknown")]

/-- The heading of the tooltip line for an effect on a stat. -/
def label (stat : String) : String :=
  (labels.lookup (lowered stat)).getD stat

/-- The host's words for the parameters that gear may raise. -/
def parameters : List (String × String) :=
  [("health", "health"), ("food", "food"), ("morale", "morale"), ("freshness", "freshness"),
    ("odour", "freshness"), ("warm", "warm"), ("warmth", "warm"), ("wet", "wet"),
    ("dryness", "wet"), ("illness", "illness"), ("toxicity", "toxicity"),
    ("alcohol", "alcohol"), ("greatneed", "greatneed"), ("smell", "smell"),
    ("smellresistance", "smell_resistance"), ("wetresistance", "wet_resistance"),
    ("warmresistance", "warm_resistance"), ("toxicityresistance", "toxicity_resistance"),
    ("immunity", "immunity"), ("attack", "attack"), ("defense", "defense"),
    ("charism", "charism"), ("charisma", "charism"), ("capacity", "capacity"),
    ("stamina", "stamina"), ("gearsmell", "gear_smell"), ("grit", "grit"), ("energy", "grit"),
    ("gritmax", "grit_max"), ("courage", "courage"), ("couragemax", "courage_max")]

/-- The host's word for a parameter named by a package. -/
def parameter? (name : String) : Option String :=
  parameters.lookup (normalName name)

end Modpack.Effect
