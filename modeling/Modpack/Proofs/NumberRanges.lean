import Mathlib.Data.List.Nodup
import Modpack.Proofs.Contents

/-!
# Where the numbers of items, recipes and quests meet

Each registry gives out the numbers that its counter goes through, one for every definition that
makes a record, and does not know where the numbers of another begin. While the counters are in
range the numbers of a kind fill an interval from its base on, as long as there are records of the
kind. The numbers of two kinds are then apart exactly as long as the interval that begins lower ends
before the other one begins, or one of the two is empty.
-/
namespace Modpack

/-! ## What one registry gives out -/

namespace Registry

variable {δ : Type} [Definition δ]

/-- The number given out for a new record when a definition is offered: none if it is refused or
patches a record of the host. -/
def givenFor (registry : Registry δ) (offer : Offer δ) : List Nat :=
  match registry.register offer.package offer.definition with
  | .ok (id, _) => if (Definition.patchTarget? offer.definition).isNone then [id] else []
  | .error _ => []

/-- The numbers given out for new records while definitions are offered, in order. -/
def given (registry : Registry δ) : List (Offer δ) → List Nat
  | [] => []
  | offer :: rest =>
    registry.givenFor offer ++ (registry.accept offer.package offer.definition).given rest

/-- The numbers a counter gives from some point on. -/
def counted (base made count : Nat) : List Nat :=
  (List.range' made count).map (countFrom base)

/-- While a counter is in range, it gives the numbers from its base on. -/
theorem counted_of_le {base count : Nat} (inRange : base + count ≤ Whole.idLimit) :
    counted base 0 count = List.range' base count := by
  have plain : ∀ made ∈ List.range' 0 count, countFrom base made = base + made := by
    intro made member
    have before := (List.mem_range'_1.1 member).2
    exact countFrom_of_lt (by omega)
  rw [counted, List.map_congr_left plain]
  exact List.map_add_range' 0 count 1

/-- An offer that makes a record is given the number the counter is at and moves the counter past
it; another is given none and leaves the counter where it is. -/
theorem givenFor_eq (registry : Registry δ) (offer : Offer δ) :
    let count := if offer.makesRecord then 1 else 0
    registry.givenFor offer = counted registry.base registry.made count ∧
      (registry.accept offer.package offer.definition).base = registry.base ∧
      (registry.accept offer.package offer.definition).made = registry.made + count := by
  intro count
  cases taken : offer.isTaken with
  | false =>
    have makes : offer.makesRecord = false := by rw [Offer.makesRecord, taken, Bool.false_and]
    have none : count = 0 := by simp [count, makes]
    rw [givenFor, accept, register_of_refused registry taken, none]
    exact ⟨rfl, rfl, rfl⟩
  | true =>
    rw [givenFor, accept, register_of_taken registry taken]
    refine ⟨?_, counter_place _ _⟩
    cases target : Definition.patchTarget? offer.definition with
    | none => simp [count, counted, next, Offer.makesRecord, taken, target]
    | some host => simp [count, counted, Offer.makesRecord, taken, target]

/-- A registry gives out the numbers its counter goes through, one for every definition that makes
a record. -/
theorem given_eq (registry : Registry δ) (offers : List (Offer δ)) :
    registry.given offers =
      counted registry.base registry.made (offers.countP Offer.makesRecord) := by
  induction offers generalizing registry with
  | nil => rfl
  | cons offer rest ih =>
    obtain ⟨first, base, made⟩ := registry.givenFor_eq offer
    rw [given, first, ih, base, made, counted, counted, ← List.map_append, List.range'_append_1,
      List.countP_cons, Nat.add_comm, counted]

/-- What is given out for offers and then for more is given out for all of them. -/
theorem given_append (registry : Registry δ) (first second : List (Offer δ)) :
    registry.given (first ++ second) =
      registry.given first ++ (registry.offerAll first).given second := by
  induction first generalizing registry with
  | nil => rfl
  | cons offer rest ih =>
    have rest' := ih (registry.accept offer.package offer.definition)
    rw [List.cons_append, given, given, rest', List.append_assoc]
    rfl

end Registry

/-! ## What an engine gives out -/

namespace Content

variable {δ : Type} [Definition δ]

/-- The numbers given out for a kind of content while packages are registered, in order. -/
def given (content : Content δ) (engine : Engine) : List Package → List Nat
  | [] => []
  | package :: rest =>
    (content.registry engine).given (content.offers package) ++
      content.given (engine.registerPackage package).engine rest

variable (content : Content δ)

/-- The numbers of a kind are those its registry gives out for what the packages offer. -/
theorem given_eq (engine : Engine) (packages : List Package) :
    content.given engine packages =
      (content.registry engine).given (packages.flatMap content.offers) := by
  induction packages generalizing engine with
  | nil => rfl
  | cons package rest ih =>
    rw [given, ih, content.registry_registerPackage, List.flatMap_cons, Registry.given_append]

/-- In an engine that started without content the numbers of a kind are those from its base on,
while its counter is in range. -/
theorem given_empty {ids : IdRanges} {packages : List Package}
    (inRange : content.base ids + (content.given (.empty ids) packages).length ≤ Whole.idLimit) :
    content.given (.empty ids) packages =
      List.range' (content.base ids) (content.given (.empty ids) packages).length := by
  rw [content.given_eq, content.starts, Registry.given_eq, Registry.counted, List.length_map,
    List.length_range'] at inRange ⊢
  exact Registry.counted_of_le inRange

end Content

/-! ## Intervals that meet -/

/-- Two intervals of numbers are apart when one of them is empty or ends before the other
begins. -/
theorem disjoint_range'_iff {left right count count' : Nat} :
    List.Disjoint (List.range' left count) (List.range' right count') ↔
      count = 0 ∨ count' = 0 ∨ left + count ≤ right ∨ right + count' ≤ left := by
  have inside (number : Nat) : (number ∈ List.range' left count ∧
      number ∈ List.range' right count') ↔ (left ≤ number ∧ number < left + count) ∧
        right ≤ number ∧ number < right + count' := by
    rw [List.mem_range'_1, List.mem_range'_1]
  constructor
  · intro apart
    by_contra meet
    -- The greater of the two beginnings is in both.
    have both := (inside (max left right)).2 (by omega)
    exact apart both.1 both.2
  · intro apart number first second
    have both := (inside number).1 ⟨first, second⟩
    omega

/-- Three intervals have no number twice when any two of them are apart. -/
theorem nodup_ranges_iff {first second third count count' count'' : Nat} :
    (List.range' first count ++ List.range' second count' ++ List.range' third count'').Nodup ↔
      (List.range' first count).Disjoint (List.range' second count') ∧
      (List.range' first count).Disjoint (List.range' third count'') ∧
      (List.range' second count').Disjoint (List.range' third count'') := by
  have distinct (base size : Nat) : (List.range' base size).Nodup := List.nodup_range'
  simp only [List.nodup_append', distinct, true_and, List.disjoint_append_left]

/-- Whatever packages are registered in an engine that numbers as usual, with its counters in range,
no number is given out twice among items, recipes and quests exactly if there are at most 9000
recipes or no item, at most 10000 items or no quest, and at most 19000 recipes or no quest. -/
theorem numbers_apart_iff (packages : List Package) :
    let start := Engine.empty {}
    let items := Content.items.given start packages
    let recipes := Content.recipes.given start packages
    let quests := Content.quests.given start packages
    60000 + items.length ≤ Whole.idLimit → 51000 + recipes.length ≤ Whole.idLimit →
      70000 + quests.length ≤ Whole.idLimit →
      ((items ++ recipes ++ quests).Nodup ↔
        (recipes.length ≤ 9000 ∨ items.length = 0) ∧
        (items.length ≤ 10000 ∨ quests.length = 0) ∧
        (recipes.length ≤ 19000 ∨ quests.length = 0)) := by
  intro start items recipes quests itemsFit recipesFit questsFit
  have itemRange : items = List.range' 60000 items.length :=
    Content.items.given_empty itemsFit
  have recipeRange : recipes = List.range' 51000 recipes.length :=
    Content.recipes.given_empty recipesFit
  have questRange : quests = List.range' 70000 quests.length :=
    Content.quests.given_empty questsFit
  clear itemsFit recipesFit questsFit
  generalize items.length = itemCount at itemRange ⊢
  generalize recipes.length = recipeCount at recipeRange ⊢
  generalize quests.length = questCount at questRange ⊢
  rw [itemRange, recipeRange, questRange, nodup_ranges_iff, disjoint_range'_iff,
    disjoint_range'_iff, disjoint_range'_iff]
  omega

/-- A recipe of one package. -/
def millRecipe : Offer RecipeDefinition :=
  ⟨.inMemory "mill", { id := "grind", result := .id 1 }⟩

/-- A package of one item that declares its recipe once and a number of times again. -/
def mill (more : Nat) : Package where
  info := millRecipe.package
  items := [{ id := "flour" }]
  recipes := List.replicate (more + 1) millRecipe.definition

/-- The numbers of this package are apart when it declares its recipe twice. -/
theorem small_mill_numbers_apart :
    let start := Engine.empty {}
    let items := Content.items.given start [mill 1]
    let recipes := Content.recipes.given start [mill 1]
    let quests := Content.quests.given start [mill 1]
    (60000 + items.length ≤ Whole.idLimit ∧ 51000 + recipes.length ≤ Whole.idLimit ∧
      70000 + quests.length ≤ Whole.idLimit) ∧ (items ++ recipes ++ quests).Nodup := by
  intro start items recipes quests
  have itemsFit : 60000 + items.length ≤ Whole.idLimit := by decide
  have recipesFit : 51000 + recipes.length ≤ Whole.idLimit := by decide
  have questsFit : 70000 + quests.length ≤ Whole.idLimit := by decide
  have few : recipes.length ≤ 9000 ∧ items.length ≤ 10000 ∧ recipes.length ≤ 19000 := by decide
  exact ⟨⟨itemsFit, recipesFit, questsFit⟩,
    (numbers_apart_iff [mill 1] itemsFit recipesFit questsFit).2
      ⟨.inl few.1, .inl few.2.1, .inl few.2.2⟩⟩

/-- The item of the package has the first number of an item, and is registered under it. -/
theorem mill_item (more : Nat) :
    Content.items.given (.empty {}) [mill more] = [60000] ∧
    ((Engine.empty {}).registerPackage (mill more)).engine.items.isRegistered 60000 = true := by
  have registry : ((Engine.empty {}).registerPackage (mill more)).engine.items =
      (Registry.empty 60000).offerAll [⟨.inMemory "mill", { id := "flour" }⟩] :=
    Content.items.registry_registerPackage (.empty {}) (mill more)
  rw [registry, Content.given_eq, Registry.given_eq]
  exact ⟨rfl, by decide⟩

/-- The recipe that is declared last has the last number, and is registered under it. -/
theorem mill_recipe {more : Nat} (inRange : 51000 + more < Whole.idLimit) :
    51000 + more ∈ Content.recipes.given (.empty {}) [mill more] ∧
    ((Engine.empty {}).registerPackage (mill more)).engine.recipes.isRegistered (51000 + more) =
      true := by
  have makes : millRecipe.makesRecord = true := by decide
  have count (times : Nat) :
      (List.replicate times millRecipe).countP Offer.makesRecord = times := by
    rw [List.countP_replicate, if_pos makes]
  have offers : Content.recipes.offers (mill more) =
      List.replicate more millRecipe ++ [millRecipe] := by
    rw [Content.offers, ← List.replicate_succ']
    exact List.map_replicate
  constructor
  · rw [Content.given_eq, Registry.given_eq, List.flatMap_singleton, offers,
      ← List.replicate_succ', count]
    have member : more ∈ List.range' 0 (more + 1) :=
      List.mem_range'_1.2 ⟨Nat.zero_le more, by omega⟩
    exact List.mem_map.2 ⟨more, member, countFrom_of_lt inRange⟩
  · have tallied := Registry.tallied_offerAll 51000 (Content.recipes.offers (mill more))
    have registry : ((Engine.empty {}).registerPackage (mill more)).engine.recipes =
        (Registry.empty 51000).offerAll (Content.recipes.offers (mill more)) :=
      Content.recipes.registry_registerPackage (.empty {}) (mill more)
    have number : millRecipe.number 51000 (List.replicate more millRecipe) = 51000 + more := by
      rw [Offer.number_of_makesRecord makes, count, countFrom_of_lt inRange]
    rw [registry, ← number, tallied.isRegistered_iff offers makes]
    intro next member
    cases member

/-- A package with 9001 recipes gets the number of its item for the last of them, and the engine
keeps both under this number. -/
theorem mill_numbers_meet :
    let start := Engine.empty {}
    (60000 ∈ Content.items.given start [mill 9000] ∧
      (start.registerPackage (mill 9000)).engine.items.isRegistered 60000 = true) ∧
    (60000 ∈ Content.recipes.given start [mill 9000] ∧
      (start.registerPackage (mill 9000)).engine.recipes.isRegistered 60000 = true) ∧
    ¬ (Content.items.given start [mill 9000] ++ Content.recipes.given start [mill 9000] ++
      Content.quests.given start [mill 9000]).Nodup := by
  have item := mill_item 9000
  have recipe := mill_recipe (show 51000 + 9000 < Whole.idLimit by decide)
  rw [show 51000 + 9000 = 60000 from rfl] at recipe
  have member : 60000 ∈ Content.items.given (.empty {}) [mill 9000] := by
    rw [item.1]
    exact List.mem_singleton_self 60000
  refine ⟨⟨member, item.2⟩, recipe, fun apart => ?_⟩
  rw [List.nodup_append', List.nodup_append'] at apart
  exact apart.1.2.2 member recipe.1

end Modpack
