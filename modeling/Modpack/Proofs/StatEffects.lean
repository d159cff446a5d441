import Mathlib.Data.List.Basic
import Modpack.Engine

/-!
# Effects stat by stat

The effects of an item are applied in one pass over all stats of a character, but each of them reads
and writes a single stat. A stat therefore ends where the effects on it alone lead, in their order,
whatever stands between them; and lists with the same effects on each stat in the same order come to
the same. Many names may stand for one stat, so which effects are on a stat is told by the names
known to the engine.
-/
namespace Modpack

/-- A stat after effects on it, in order. -/
def Gauge.after (gauge : Gauge) (effects : List EffectDefinition) : Gauge :=
  { gauge with
    current := effects.foldl
      (fun current effect => (Effect.Expression.ofText effect.value).apply current gauge.max)
      gauge.current }

namespace Effect

/-- The effects on a stat, in order. -/
def onStat (aliases : Aliases) (stat : Stat) (effects : List EffectDefinition) :
    List EffectDefinition :=
  effects.filter fun effect => aliases.stat? effect.stat = some stat

/-- Whether an effect has a known name, is on a stat that is there, and has a text that fits a
form. -/
def counts (aliases : Aliases) (stats : StatStore) (effect : EffectDefinition) : Bool :=
  ((aliases.stat? effect.stat).bind stats.gauge?).isSome &&
    (Expression.ofText effect.value).isValid

end Effect

/-! ## One stat -/

namespace Gauge

/-- Effects and later ones are applied as one list. -/
theorem after_append (gauge : Gauge) (early late : List EffectDefinition) :
    gauge.after (early ++ late) = (gauge.after early).after late := by
  simp only [after, List.foldl_append]

/-- An effect whose text fits no form leaves a stat as it is. -/
theorem after_of_invalid (gauge : Gauge) {effect : EffectDefinition}
    (invalid : (Effect.Expression.ofText effect.value).isValid = false) :
    gauge.after [effect] = gauge := by
  simp only [after, List.foldl_cons, List.foldl_nil]
  cases read : Effect.Expression.ofText effect.value with
  | invalid => rfl
  | max | min | add | multiply | set =>
    rw [read] at invalid
    cases invalid

/-- Leaving out effects whose texts fit no form changes nothing. -/
theorem after_filter {keep : EffectDefinition → Bool} {effects : List EffectDefinition}
    (idle : ∀ effect ∈ effects, keep effect = false →
      (Effect.Expression.ofText effect.value).isValid = false) (gauge : Gauge) :
    gauge.after (effects.filter keep) = gauge.after effects := by
  induction effects generalizing gauge with
  | nil => rfl
  | cons effect rest ih =>
    have later := ih fun other member => idle other (List.mem_cons_of_mem _ member)
    have first : gauge.after (effect :: rest) = (gauge.after [effect]).after rest :=
      gauge.after_append [effect] rest
    by_cases kept : keep effect = true
    · rw [List.filter_cons_of_pos kept, first, ← later]
      exact gauge.after_append [effect] _
    · have invalid := idle effect List.mem_cons_self (Bool.eq_false_iff.2 kept)
      rw [List.filter_cons_of_neg kept, first, gauge.after_of_invalid invalid, later]

end Gauge

/-! ## All stats -/

/-- Stores in which every stat is the same are the same store. -/
theorem StatStore.ext {left right : StatStore}
    (same : ∀ stat, left.gauge? stat = right.gauge? stat) : left = right := by
  cases left
  cases right
  exact congrArg StatStore.mk (funext same)

namespace Effect

variable (aliases : Aliases) (stats : StatStore)

/-- One effect does to each stat what it does as an effect on that stat, if it is one. -/
theorem gauge?_applied (effect : EffectDefinition) (stat : Stat) :
    ((applied? aliases stats effect).getD stats).gauge? stat =
      (stats.gauge? stat).map fun gauge => gauge.after (onStat aliases stat [effect]) := by
  have untouched : stats.gauge? stat = (stats.gauge? stat).map fun gauge => gauge.after [] := by
    cases stats.gauge? stat <;> rfl
  by_cases named : aliases.stat? effect.stat = some stat
  · have listed : onStat aliases stat [effect] = [effect] := by simp [onStat, named]
    rw [applied?, named, listed, Option.bind_some]
    cases held : stats.gauge? stat with
    | none => simp only [Option.map_none, Option.getD_none, held]
    | some gauge =>
      simp only [Option.map_some, Option.getD_some, StatStore.gauge?_set, held, if_true]
      rfl
  · have unlisted : onStat aliases stat [effect] = [] := by simp [onStat, named]
    rw [unlisted, ← untouched]
    cases known : aliases.stat? effect.stat with
    | none => rw [applied?, known, Option.bind_none, Option.getD_none]
    | some other =>
      have apart : stat ≠ other := fun same => named (known.trans (congrArg some same.symm))
      rw [applied?, known, Option.bind_some]
      cases stats.gauge? other with
      | none => rw [Option.map_none, Option.getD_none]
      | some gauge =>
        rw [Option.map_some, Option.getD_some, StatStore.gauge?_set, if_neg apart]

/-- All effects together do to each stat what the effects on that stat do to it. -/
theorem gauge?_applyAll (effects : List EffectDefinition) (stat : Stat) :
    (applyAll aliases effects stats).gauge? stat =
      (stats.gauge? stat).map fun gauge => gauge.after (onStat aliases stat effects) := by
  induction effects generalizing stats with
  | nil => cases held : stats.gauge? stat <;> simp [applyAll, onStat, Gauge.after, held]
  | cons effect rest ih =>
    have split : onStat aliases stat (effect :: rest) =
        onStat aliases stat [effect] ++ onStat aliases stat rest :=
      List.filter_append [effect] rest
    refine (ih ((applied? aliases stats effect).getD stats)).trans ?_
    rw [gauge?_applied, Option.map_map, split]
    simp only [Gauge.after_append]
    rfl

/-- Lists with the same effects on each stat, in the same order, come to the same. -/
theorem applyAll_congr {left right : List EffectDefinition}
    (same : ∀ stat, onStat aliases stat left = onStat aliases stat right) :
    applyAll aliases left stats = applyAll aliases right stats := by
  refine StatStore.ext fun stat => ?_
  rw [gauge?_applyAll, gauge?_applyAll, same]

/-- Leaving out the effects that do not count changes nothing. -/
theorem applyAll_counts (effects : List EffectDefinition) :
    applyAll aliases (effects.filter (counts aliases stats)) stats =
      applyAll aliases effects stats := by
  refine StatStore.ext fun stat => ?_
  rw [gauge?_applyAll, gauge?_applyAll]
  cases held : stats.gauge? stat with
  | none => rfl
  | some gauge =>
    have swapped : onStat aliases stat (effects.filter (counts aliases stats)) =
        (onStat aliases stat effects).filter (counts aliases stats) := List.filter_comm _ _ _
    have idle : ∀ effect ∈ onStat aliases stat effects, counts aliases stats effect = false →
        (Expression.ofText effect.value).isValid = false := by
      intro effect member uncounted
      have named : aliases.stat? effect.stat = some stat := by
        simpa using (List.mem_filter.1 member).2
      rw [counts, named, Option.bind_some, held, Option.isSome_some, Bool.true_and] at uncounted
      exact uncounted
    rw [Option.map_some, Option.map_some, swapped, Gauge.after_filter idle]

end Effect

/-- Using an item of the engine takes each stat of a character where the effects of the item on that
stat alone take it, in their order, from its value and by its largest value, which stays; no stat
comes or goes. Effects that are on no stat of the character, or whose texts fit no form, might as
well not be there. And an item that has the same effects on each stat in the same order, whatever
the order between stats, does the same. -/
theorem used_item_acts_stat_by_stat {engine : Engine} {id : Nat} {entry : Entry ItemDefinition}
    (registered : engine.items.byId? id = some entry) (stats : StatStore) :
    ∃ after, engine.useItem? id stats = some after ∧
      (∀ stat, after.gauge? stat = (stats.gauge? stat).map fun gauge =>
        gauge.after (Effect.onStat engine.aliases stat entry.definition.effects)) ∧
      (∀ stat, (after.gauge? stat).map Gauge.max = (stats.gauge? stat).map Gauge.max) ∧
      after = Effect.applyAll engine.aliases
        (entry.definition.effects.filter (Effect.counts engine.aliases stats)) stats ∧
      ∀ (other : Engine) (otherId : Nat) (otherEntry : Entry ItemDefinition),
        other.items.byId? otherId = some otherEntry → other.aliases = engine.aliases →
        (∀ stat, Effect.onStat engine.aliases stat otherEntry.definition.effects =
          Effect.onStat engine.aliases stat entry.definition.effects) →
        other.useItem? otherId stats = some after := by
  have used {engine : Engine} {id : Nat} {entry : Entry ItemDefinition}
      (registered : engine.items.byId? id = some entry) :
      engine.useItem? id stats =
        some (Effect.applyAll engine.aliases entry.definition.effects stats) := by
    rw [Engine.useItem?, Registry.effectsOf?, registered, Option.map_some, Option.map_some]
  have each := Effect.gauge?_applyAll engine.aliases stats entry.definition.effects
  refine ⟨_, used registered, each, fun stat => ?_, (Effect.applyAll_counts _ _ _).symm, ?_⟩
  · rw [each, Option.map_map]
    rfl
  · intro other otherId otherEntry registered' known same
    rw [used registered', known, Effect.applyAll_congr _ _ same]

/-- An engine with a single item. -/
def teaHouse (effects : List EffectDefinition) : Engine :=
  let package : Package := { info := .inMemory "tea", items := [{ id := "cup", effects }] }
  ((Engine.empty {}).registerPackage package).engine

/-- Effects on two stats under several names, on a stat that is missing, and on none. -/
def teaEffects : List EffectDefinition :=
  [⟨" Health", "min"⟩, ⟨"food", "min"⟩, ⟨"HEALTH", "max"⟩, ⟨"warmth", "max"⟩, ⟨"luck", "max"⟩,
    ⟨"food", "half"⟩]

/-- The same effects, with those on each stat in the same order. -/
def stirredEffects : List EffectDefinition :=
  [⟨"luck", "max"⟩, ⟨"food", "min"⟩, ⟨"warmth", "max"⟩, ⟨"food", "half"⟩, ⟨" Health", "min"⟩,
    ⟨"HEALTH", "max"⟩]

/-- The stats of a character who knows two of them. -/
def guestStats : StatStore :=
  (StatStore.empty.insert .health ⟨50.0, 100.0⟩).insert .food ⟨20.0, 80.0⟩

/-- A cup of tea heals the guest and empties his stomach, stirred or not. -/
theorem tea_refreshes_guest :
    ∃ after, (teaHouse teaEffects).useItem? 60000 guestStats = some after ∧
      after.gauge? .health = some ⟨100.0, 100.0⟩ ∧ after.gauge? .food = some ⟨0.0, 80.0⟩ ∧
      after.gauge? .warm = none ∧
      (teaHouse stirredEffects).useItem? 60000 guestStats = some after := by
  have served (effects : List EffectDefinition) :
      ∃ cup, (teaHouse effects).items.byId? 60000 = some cup ∧ cup.definition.effects = effects :=
    ⟨_, rfl, rfl⟩
  obtain ⟨cup, registered, effects⟩ := served teaEffects
  obtain ⟨stirred, registered', effects'⟩ := served stirredEffects
  obtain ⟨after, used, each, -, -, alike⟩ := used_item_acts_stat_by_stat registered guestStats
  rw [effects] at each alike
  have same : ∀ stat, Effect.onStat .builtin stat stirredEffects =
      Effect.onStat .builtin stat teaEffects := by
    intro stat
    cases stat <;> decide
  refine ⟨after, used, ?_, ?_, ?_, alike _ _ stirred registered' rfl (effects' ▸ same)⟩
  · rw [each]
    rfl
  · rw [each]
    rfl
  · rw [each]
    rfl

end Modpack
