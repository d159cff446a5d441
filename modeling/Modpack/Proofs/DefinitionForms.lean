import Modpack.Package
import Modpack.Proofs.RecordForms

/-!
# Forms of definitions

The documented fields of every record of a package: its names, what it holds, and its default. Each
reader of a definition fills them one by one, so that it tells the form of the definition: a
definition is read from what is written for it, restatements at any level of a document change
nothing, and a document with a field twice is refused.
-/
namespace Modpack

open Document

/-! ## Items -/

namespace EffectDefinition

/-- The fields of an effect. -/
def slots : List (Slot EffectDefinition) :=
  [(Slot.required "stat" .text text? (·.stat)).orNamed "type",
    .optional "value" .change value? "0" (·.value)]

/-- The form of an effect. -/
def form : Form EffectDefinition := .record slots

/-- Effects are read as they are written. -/
@[simp] theorem form_tells : form.Tells (ofValue? .json) :=
  Form.record_tells
    { apart := by simp [Apart, slots]
      sound := by simp [slots]
      fills := fills_of_found (fun _ => rfl) fun found record => by
        cases record
        simp [slots, Option.bind_eq_some_iff] }

end EffectDefinition

namespace StatBonus

/-- The fields of a bonus. -/
def slots : List (Slot StatBonus) :=
  [.required "type" .text text? (·.stat), .optional "value" .count count? 0 (·.value)]

/-- The form of a bonus. -/
def form : Form StatBonus := .record slots

/-- Bonuses are read as they are written. -/
@[simp] theorem form_tells : form.Tells (ofValue? .json) :=
  Form.record_tells
    { apart := by simp [Apart, slots]
      sound := by simp [slots, Whole.minCount, Whole.maxCount]
      fills := fills_of_found (fun _ => rfl) fun found record => by
        cases record
        simp [slots, Option.bind_eq_some_iff] }

end StatBonus

namespace ItemDefinition

/-- The fields of an item. -/
def slots : List (Slot ItemDefinition) :=
  [.required "id" .text text? (·.id),
    .optional "baseItem" .id id? 1 (·.baseItem),
    .optional "type" .itemKind (ItemKind.ofValue? .json) .consumable (·.kind),
    .optional "name" .text text? "" (·.name),
    .optional "description" .text text? "" (·.description),
    .optional "icon" .text text? "" (·.icon),
    .optional "price" .wide wide? 100 (·.price),
    .optional "weight" .float float? 0.1 (·.weight),
    .optional "effects" EffectDefinition.form.list (list? (EffectDefinition.ofValue? .json)) []
      (·.effects),
    .optional "rareColor" .wide wide? 0 (·.rareColor),
    .optional "sellable" .bool bool? true (·.sellable),
    .optional "notForFire" .bool bool? false (·.notForFire),
    .optional "isStockable" .bool bool? true (·.isStockable),
    .optional "actualStockCount" .wide wide? 1 (·.actualStockCount),
    .optional "soundType" .wide wide? 0 (·.soundType),
    .optional "firerate" .wide wide? 0 (·.firerate),
    .optional "referenceItemId" .id id? 0 (·.referenceItemId),
    .optional "isModify" .bool bool? false (·.isModify),
    .optional "targetItemId" .id id? 0 (·.targetItemId),
    .optional "category" .text text? "" (·.category),
    .optional "warmResistance" .wide wide? 0 (·.warmResistance),
    .optional "wetResistance" .wide wide? 0 (·.wetResistance),
    .optional "durabilityResistance" .wide wide? 100 (·.durabilityResistance),
    .optional "stats" StatBonus.form.list (list? (StatBonus.ofValue? .json)) [] (·.stats),
    .optional "attack" .wide wide? 0 (·.attack),
    .optional "defense" .wide wide? 0 (·.defense),
    .optional "criticalChance" .wide wide? 0 (·.criticalChance),
    .optional "maxDurability" .wide wide? 100 (·.maxDurability),
    .optional "bagCapacity" .float float? 0.0 (·.bagCapacity)]

/-- The form of an item. -/
def form : Form ItemDefinition := .record slots

/-- Items are read as they are written. -/
@[simp] theorem form_tells : form.Tells (ofValue? .json) :=
  Form.record_tells
    { apart := by simp [Apart, slots]
      sound := by simp [slots, Whole.minWide, Whole.maxWide, Whole.idLimit]
      fills := fills_of_found (fun _ => rfl) fun found record => by
        cases record
        dsimp only [ofFound?, minimal, Option.bind_eq_bind]
        -- Each step is taken apart before the steps that follow it. Simplified from the inside,
        -- what follows would be gone through twice at every step.
        simp only [↓Option.bind_eq_some_iff, Option.some.injEq, mk.injEq, ↓existsAndEq, and_true,
          slots, List.mem_cons, List.not_mem_nil, or_false, forall_eq_or_imp, forall_eq,
          Slot.holds_required, Slot.holds_optional] }

end ItemDefinition

/-! ## Recipes -/

namespace IngredientDefinition

/-- The fields of an ingredient. -/
def slots : List (Slot IngredientDefinition) :=
  [.required "item" .reference ItemRef.ofValue? (·.item),
    .optional "count" .count count? 1 (·.count)]

/-- The form of an ingredient. -/
def form : Form IngredientDefinition := .record slots

/-- Ingredients are read as they are written. -/
@[simp] theorem form_tells : form.Tells (ofValue? .json) :=
  Form.record_tells
    { apart := by simp [Apart, slots]
      sound := by simp [slots, Whole.minCount, Whole.maxCount]
      fills := fills_of_found (fun _ => rfl) fun found record => by
        cases record
        simp [slots, Option.bind_eq_some_iff] }

end IngredientDefinition

namespace RecipeDefinition

/-- The fields of a recipe. -/
def slots : List (Slot RecipeDefinition) :=
  [.required "id" .text text? (·.id),
    .required "result" .reference ItemRef.ofValue? (·.result),
    .optional "resultCount" .count count? 1 (·.resultCount),
    .optional "name" .text text? "" (·.name),
    .optional "bench" .text text? "none" (·.bench),
    .optional "skillRequired" .wide wide? 0 (·.skillRequired),
    .optional "autoUnlock" .bool bool? true (·.autoUnlock),
    .optional "baseRecipe" Form.id.orNull (orNull? id?) none (·.baseRecipe),
    .optional "ingredients" IngredientDefinition.form.list
      (list? (IngredientDefinition.ofValue? .json)) [] (·.ingredients)]

/-- The form of a recipe. -/
def form : Form RecipeDefinition := .record slots

/-- Recipes are read as they are written. -/
@[simp] theorem form_tells : form.Tells (ofValue? .json) :=
  Form.record_tells
    { apart := by simp [Apart, slots]
      sound := by simp [slots, Whole.minCount, Whole.maxCount, Whole.minWide, Whole.maxWide]
      fills := fills_of_found (fun _ => rfl) fun found record => by
        cases record
        simp [slots, Option.bind_eq_some_iff, minimal, -Bool.exists_bool] }

end RecipeDefinition

/-! ## Quests -/

namespace DialogueOptionDefinition

/-- The fields of an answer. -/
def slots : List (Slot DialogueOptionDefinition) :=
  [.optional "text" Form.text.orNull (orNull? text?) none (·.text),
    (Slot.optional "nextStage" Form.text.orNull (orNull? text?) none (·.nextStage)).orNamed
      "next_stage",
    .optional "condition" Form.text.orNull (orNull? text?) none (·.condition)]

/-- The form of an answer. -/
def form : Form DialogueOptionDefinition := .record slots

/-- Answers are read as they are written. -/
@[simp] theorem form_tells : form.Tells (ofValue? .json) :=
  Form.record_tells
    { apart := by simp [Apart, slots]
      sound := by simp [slots]
      fills := fills_of_found (fun _ => rfl) fun found record => by
        cases record
        simp [slots, Option.bind_eq_some_iff] }

end DialogueOptionDefinition

namespace DialogueDefinition

/-- The fields of a dialogue. -/
def slots : List (Slot DialogueDefinition) :=
  [.optional "text" Form.text.orNull (orNull? text?) none (·.text),
    .optional "options" DialogueOptionDefinition.form.list
      (list? (DialogueOptionDefinition.ofValue? .json)) [] (·.options)]

/-- The form of a dialogue. -/
def form : Form DialogueDefinition := .record slots

/-- Dialogues are read as they are written. -/
@[simp] theorem form_tells : form.Tells (ofValue? .json) :=
  Form.record_tells
    { apart := by simp [Apart, slots]
      sound := by simp [slots]
      fills := fills_of_found (fun _ => rfl) fun found record => by
        cases record
        simp [slots, Option.bind_eq_some_iff] }

end DialogueDefinition

namespace ActionDefinition

/-- The fields of an action. -/
def slots : List (Slot ActionDefinition) :=
  [.optional "type" .text text? "" (·.kind),
    .optional "param" Form.text.orNull (orNull? text?) none (·.param)]

/-- The form of an action. -/
def form : Form ActionDefinition := .record slots

/-- Actions are read as they are written. -/
@[simp] theorem form_tells : form.Tells (ofValue? .json) :=
  Form.record_tells
    { apart := by simp [Apart, slots]
      sound := by simp [slots]
      fills := fills_of_found (fun _ => rfl) fun found record => by
        cases record
        simp [slots, Option.bind_eq_some_iff] }

end ActionDefinition

namespace WaitDefinition

/-- The fields of a wait. -/
def slots : List (Slot WaitDefinition) :=
  [.optional "type" .text text? "" (·.kind),
    (Slot.optional "item_id" Form.reference.orNull (orNull? ItemRef.ofValue?) none
      (·.item)).orNamed "itemId",
    .optional "count" .count count? 1 (·.count)]

/-- The form of a wait. -/
def form : Form WaitDefinition := .record slots

/-- Waits are read as they are written. -/
@[simp] theorem form_tells : form.Tells (ofValue? .json) :=
  Form.record_tells
    { apart := by simp [Apart, slots]
      sound := by simp [slots, Whole.minCount, Whole.maxCount]
      fills := fills_of_found (fun _ => rfl) fun found record => by
        cases record
        simp [slots, Option.bind_eq_some_iff] }

end WaitDefinition

namespace StageDefinition

/-- The fields of a stage. -/
def slots : List (Slot StageDefinition) :=
  [.required "id" .text text? (·.id),
    .optional "type" .text text? "" (·.kind),
    .optional "description" Form.text.orNull (orNull? text?) none (·.description),
    .optional "npc" Form.text.orNull (orNull? text?) none (·.npc),
    .optional "dialogue" DialogueDefinition.form.orNull
      (orNull? (DialogueDefinition.ofValue? .json)) none (·.dialogue),
    .optional "action" ActionDefinition.form.orNull (orNull? (ActionDefinition.ofValue? .json))
      none (·.action),
    .optional "wait" WaitDefinition.form.orNull (orNull? (WaitDefinition.ofValue? .json)) none
      (·.wait),
    (Slot.optional "nextStages" Form.text.list (list? text?) [] (·.nextStages)).orNamed
      "next_stages"]

/-- The form of a stage. -/
def form : Form StageDefinition := .record slots

/-- Stages are read as they are written. -/
@[simp] theorem form_tells : form.Tells (ofValue? .json) :=
  Form.record_tells
    { apart := by simp [Apart, slots]
      sound := by
        have dialogue := Form.orNull_tells DialogueDefinition.form_tells (Form.neverNull_record _)
        have action := Form.orNull_tells ActionDefinition.form_tells (Form.neverNull_record _)
        have wait := Form.orNull_tells WaitDefinition.form_tells (Form.neverNull_record _)
        simp [slots, dialogue, action, wait]
      fills := fills_of_found (fun _ => rfl) fun found record => by
        cases record
        simp [slots, Option.bind_eq_some_iff] }

end StageDefinition

namespace QuestDefinition

/-- The fields of a quest. -/
def slots : List (Slot QuestDefinition) :=
  [.required "id" .text text? (·.id),
    .optional "title" Form.text.orNull (orNull? text?) none (·.title),
    (Slot.optional "isPermanent" .bool bool? false (·.isPermanent)).orNamed "is_permanent",
    .optional "stages" StageDefinition.form.list (list? (StageDefinition.ofValue? .json)) []
      (·.stages)]

/-- The form of a quest. -/
def form : Form QuestDefinition := .record slots

/-- Quests are read as they are written. -/
@[simp] theorem form_tells : form.Tells (ofValue? .json) :=
  Form.record_tells
    { apart := by simp [Apart, slots]
      sound := by simp [slots]
      fills := fills_of_found (fun _ => rfl) fun found record => by
        cases record
        simp [slots, Option.bind_eq_some_iff, -Bool.exists_bool] }

end QuestDefinition

/-! ## Manifests -/

namespace Manifest

/-- The fields of a manifest. -/
def slots : List (Slot Manifest) :=
  [.required "id" .text text? (·.id),
    .optional "name" .text text? "" (·.name),
    .optional "version" .text text? "1.0.0" (·.version),
    .optional "author" .text text? "Unknown" (·.author),
    .optional "description" .text text? "" (·.description),
    .optional "gameVersion" .text text? "" (·.gameVersion),
    .optional "dependencies" Form.text.list (list? text?) [] (·.dependencies)]

/-- The form of a manifest. -/
def form : Form Manifest := .record slots

/-- Manifests are read as they are written. -/
@[simp] theorem form_tells : form.Tells (ofValue? .json) :=
  Form.record_tells
    { apart := by simp [Apart, slots]
      sound := by simp [slots]
      fills := fills_of_found (fun _ => rfl) fun found record => by
        cases record
        simp [slots, Option.bind_eq_some_iff] }

end Manifest

/-- Documents decode to what they say. An item, a recipe, a quest and a manifest is read from the
document that writes every field under its documented name. At every level of the document it may
be written in other words: keys in any order, fields with their defaults left out, unknown fields
added, aliases used, the change of an effect as a number. And a field that is written twice, under
one of its names or under both, is always refused. -/
theorem definitions_decode_to_what_they_say :
    ItemDefinition.form.Tells (ItemDefinition.ofValue? .json) ∧
      RecipeDefinition.form.Tells (RecipeDefinition.ofValue? .json) ∧
      QuestDefinition.form.Tells (QuestDefinition.ofValue? .json) ∧
      Manifest.form.Tells (Manifest.ofValue? .json) :=
  ⟨ItemDefinition.form_tells, RecipeDefinition.form_tells, QuestDefinition.form_tells,
    Manifest.form_tells⟩

/-- A quest is read from entries in another order, with an alias, an unknown field and a default
left out; and it is refused when it is told under both names whether the quest is permanent. -/
theorem vigil_decodes_as_written :
    QuestDefinition.ofValue? .json (.record [("mood", .null), ("is_permanent", .bool true),
        ("id", .text "vigil"), ("stages", .list [])]) =
      some { id := "vigil", isPermanent := true } ∧
    QuestDefinition.ofValue? .json (.record [("is_permanent", .bool true),
        ("isPermanent", .bool true), ("id", .text "vigil")]) = none := by
  obtain ⟨_, _, quests, _⟩ := definitions_decode_to_what_they_say
  have isTitle : Slot.optional "title" Form.text.orNull (orNull? text?) none
      QuestDefinition.title ∈ QuestDefinition.slots := by simp [QuestDefinition.slots]
  have isPermanent : (Slot.optional "isPermanent" .bool bool? false
      QuestDefinition.isPermanent).orNamed "is_permanent" ∈ QuestDefinition.slots := by
    simp [QuestDefinition.slots]
  constructor
  · have fits : ∀ slot ∈ QuestDefinition.slots,
        slot.Fits { id := "vigil", isPermanent := true } := by
      simp [QuestDefinition.slots]
    have unknown : Restated QuestDefinition.slots
        [("mood", .null), ("is_permanent", .bool true), ("id", .text "vigil"), ("stages", .list [])]
        [("is_permanent", .bool true), ("id", .text "vigil"), ("stages", .list [])] :=
      .unknown (by simp [QuestDefinition.slots])
    have renamed : Restated QuestDefinition.slots
        [("is_permanent", .bool true), ("id", .text "vigil"), ("stages", .list [])]
        [("isPermanent", .bool true), ("id", .text "vigil"), ("stages", .list [])] :=
      .renamed isPermanent (by simp) (by simp)
    have untitled : Restated QuestDefinition.slots
        [("title", .null), ("isPermanent", .bool true), ("id", .text "vigil"), ("stages", .list [])]
        [("isPermanent", .bool true), ("id", .text "vigil"), ("stages", .list [])] :=
      .leftOut isTitle rfl (by simp)
    have ordered : Restated QuestDefinition.slots
        [("title", .null), ("isPermanent", .bool true), ("id", .text "vigil"), ("stages", .list [])]
        [("id", .text "vigil"), ("title", .null), ("isPermanent", .bool true),
          ("stages", .list [])] :=
      .permuted ((List.Perm.swap _ _ _).cons _ |>.trans (List.Perm.swap _ _ _))
    have restated := ((unknown.trans renamed).trans untitled.symm).trans ordered
    exact (quests.restated ⟨_, _, restated, rfl, rfl⟩).trans (quests.written _ fits)
  · exact quests.twice ⟨_, .here isPermanent (by simp) (by simp) (.refl _), rfl⟩

end Modpack
