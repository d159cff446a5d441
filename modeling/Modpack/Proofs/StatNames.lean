import Mathlib.Data.List.Basic
import Modpack.Effect.Names
import Modpack.Proofs.TrimmedCase

/-!
# Names added for stats

A name is kept in small letters with its blanks, and looked up in small letters without them. So a
name that has no blanks around it is found under every spelling, and a name that has some is found
under none: what is looked up never has them. After any sequence of additions a spelling stands for
the stat of the last name without outer blanks that is spelled so, and the others leave no trace.
-/
namespace Modpack.Effect

open Modpack.Text

/-! ## Forms of names -/

/-- Names are alike when they are looked up in the same form. -/
def Alike (left right : String) : Prop :=
  normalName left = normalName right

instance (left right : String) : Decidable (Alike left right) :=
  inferInstanceAs (Decidable (normalName left = normalName right))

/-- A name without blanks around it. -/
def Tight (name : String) : Prop :=
  trimmed name = name

instance (name : String) : Decidable (Tight name) :=
  inferInstanceAs (Decidable (trimmed name = name))

/-- The characters of the form in which a name is looked up. -/
theorem toList_normalName (name : String) :
    (normalName name).toList = lower (trim name.toList) := by
  rw [normalName, trimmed, lowered, String.toList_ofList, String.toList_ofList]

/-- A name is tight when trimming leaves its characters. -/
theorem tight_iff {name : String} : Tight name ↔ trim name.toList = name.toList := by
  rw [Tight, trimmed, ← String.toList_inj, String.toList_ofList]

/-- A name is kept in a form in which another is looked up exactly if it is tight and alike. What is
looked up has no outer blanks, and lower case neither takes blanks away nor brings them. -/
theorem lowered_eq_normalName_iff {name text : String} :
    lowered name = normalName text ↔ Tight name ∧ Alike text name := by
  rw [Alike, tight_iff, ← String.toList_inj, ← String.toList_inj, toList_normalName,
    toList_normalName, lowered, String.toList_ofList]
  constructor
  · intro found
    have kept : lower (trim name.toList) = lower name.toList := by
      rw [← trim_lower, found, trim_lower, trim_trim]
    exact ⟨trim_eq_self_of_lower kept, found.symm.trans kept.symm⟩
  · rintro ⟨tight, alike⟩
    rw [alike, tight]

namespace Aliases

/-! ## One name -/

/-- A name that is added stands for its stat under every spelling, provided that it is tight, and
changes nothing for other names, nor at all if it is not. -/
theorem stat?_register (aliases : Aliases) (name : String) (stat : Stat) (text : String) :
    (aliases.register name stat).stat? text =
      if Tight name ∧ Alike text name then some stat else aliases.stat? text := by
  rw [stat?, register, Dict.get?_insert]
  by_cases found : Tight name ∧ Alike text name
  · rw [if_pos (lowered_eq_normalName_iff.2 found), if_pos found]
  · rw [if_neg fun same => found (lowered_eq_normalName_iff.1 same), if_neg found, stat?]

/-- Names that are alike stand for the same stat. -/
theorem stat?_congr (aliases : Aliases) {left right : String} (alike : Alike left right) :
    aliases.stat? left = aliases.stat? right :=
  congrArg aliases.stats.get? alike

/-- All spellings of a name that is added stand for its stat exactly if the name is tight or stood
for that stat before. -/
theorem registered_iff (aliases : Aliases) (name : String) (stat : Stat) :
    (∀ text, Alike text name → (aliases.register name stat).stat? text = some stat) ↔
      Tight name ∨ aliases.stat? name = some stat := by
  constructor
  · intro found
    by_cases tight : Tight name
    · exact .inl tight
    · have own := found name rfl
      rw [stat?_register, if_neg fun both => tight both.1] at own
      exact .inr own
  · intro held text alike
    rw [stat?_register]
    by_cases tight : Tight name
    · rw [if_pos ⟨tight, alike⟩]
    · rw [if_neg fun both => tight both.1, aliases.stat?_congr alike]
      exact held.resolve_left tight

/-! ## Any sequence of names -/

/-- Add names one after the other. -/
def registerAll (aliases : Aliases) (names : List (String × Stat)) : Aliases :=
  names.foldl (fun aliases named => aliases.register named.1 named.2) aliases

/-- The stat of the last tight name of a list that is alike to a text. -/
def last? (names : List (String × Stat)) (text : String) : Option Stat :=
  (names.reverse.find? fun named => Tight named.1 ∧ Alike text named.1).map Prod.snd

/-- The last tight name of a longer list. -/
theorem last?_concat (names : List (String × Stat)) (name : String) (stat : Stat) (text : String) :
    last? (names ++ [(name, stat)]) text =
      if Tight name ∧ Alike text name then some stat else last? names text := by
  rw [last?, List.reverse_concat, List.find?_cons]
  by_cases found : Tight name ∧ Alike text name
  · simp [found]
  · simp [found, last?]

/-- After any sequence of names a text stands for the stat of the last tight one alike to it, and
for what it stood for before if there is none. -/
theorem stat?_registerAll (aliases : Aliases) (names : List (String × Stat)) (text : String) :
    (aliases.registerAll names).stat? text = (last? names text).or (aliases.stat? text) := by
  induction names using List.reverseRecOn with
  | nil => rfl
  | append_singleton names named ih =>
    have step : aliases.registerAll (names ++ [named]) =
        (aliases.registerAll names).register named.1 named.2 := by
      rw [registerAll, List.foldl_append]
      rfl
    rw [step, stat?_register, last?_concat, ih]
    split
    · rw [Option.some_or]
    · rfl

end Aliases

/-- After any sequence of additions a text stands for the stat of the last tight name that is alike
to it, and else for what it stood for from the start. A further name changes nothing for texts that
are not alike to it; all that are alike stand for its stat if it is tight, and if it is not, nothing
changes for any text, so that they do only if they did before. -/
theorem added_names_are_found (names : List (String × Stat)) (name : String) (stat : Stat) :
    let before := Aliases.builtin.registerAll names
    let after := before.register name stat
    (∀ text, before.stat? text = (Aliases.last? names text).or (Aliases.builtin.stat? text)) ∧
    (∀ text, ¬ Alike text name → after.stat? text = before.stat? text) ∧
    (Tight name → ∀ text, Alike text name → after.stat? text = some stat) ∧
    (¬ Tight name → ∀ text, after.stat? text = before.stat? text) ∧
    ((∀ text, Alike text name → after.stat? text = some stat) ↔
      Tight name ∨ before.stat? name = some stat) := by
  intro before after
  have step : ∀ text, after.stat? text =
      if Tight name ∧ Alike text name then some stat else before.stat? text :=
    before.stat?_register name stat
  refine ⟨Aliases.builtin.stat?_registerAll names, fun text apart => ?_, fun tight text alike => ?_,
    fun loose text => ?_, before.registered_iff name stat⟩
  · rw [step, if_neg fun both => apart both.2]
  · rw [step, if_pos ⟨tight, alike⟩]
  · rw [step, if_neg fun both => loose both.1]

/-- A name that was added twice stands for its last stat under another spelling. -/
theorem mana_is_health :
    let before := Aliases.builtin.registerAll [("mana", .food)]
    Tight "Mana" ∧ Alike " MANA " "Mana" ∧
      (before.register "Mana" .health).stat? " MANA " = some .health := by
  intro before
  have tight : Tight "Mana" := by decide
  have alike : Alike " MANA " "Mana" := by decide
  obtain ⟨_, _, found, _, _⟩ := added_names_are_found [("mana", .food)] "Mana" .health
  exact ⟨tight, alike, found tight " MANA " alike⟩

/-- A name with a blank in front is found under no spelling, although it is new. -/
theorem blank_name_is_lost :
    let before := Aliases.builtin.registerAll [("HP", .food)]
    let after := before.register " mana" .health
    after.stat? " mana" = none ∧ after.stat? "mana" = none ∧ after.stat? "hp" = some .food := by
  decide

end Modpack.Effect
