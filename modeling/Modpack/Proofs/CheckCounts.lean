import Modpack.Check
import Modpack.Proofs.Repair

/-!
# What the result line counts

A pass comes to one thing for each of its entries, so a report of both passes counts every item and
every recipe once. A check takes over such a report and adds what failed when injecting again. The
second injection goes as the first one did and fails for the same definitions, so the result line
counts a definition that failed twice whenever there was a second injection.
-/
namespace Modpack

/-! ## Reports -/

/-- How many entries a report tells of. -/
def Report.counted (report : Report) : Nat :=
  report.injected + report.patched + report.skipped + report.failed

/-- Two reports as one tell of the entries of both. -/
theorem Report.counted_merge (left right : Report) :
    (left.merge right).counted = left.counted + right.counted := by
  simp only [counted, merge]
  omega

/-- The report of one entry that did not fail tells of one entry. -/
theorem Report.counted_ofOutcome (outcome : Outcome) : (ofOutcome outcome).counted = 1 := by
  cases outcome <;> rfl

/-- The report of a pass tells of every entry once. -/
theorem counted_runPass {σ δ : Type} [Definition δ]
    (step : Entry δ → σ → Except (Halt σ) (Step σ)) (entries : List (Entry δ)) (state : σ) :
    (runPass step entries state).report.counted = entries.length := by
  induction entries generalizing state with
  | nil => rfl
  | cons entry rest ih =>
    cases result : step entry state with
    | error halt =>
      have one : ({ failed := 1 } : Report).counted = 1 := rfl
      rw [runPass_cons_halt result, List.length_cons]
      have both := Report.counted_merge { failed := 1 } (runPass step rest halt.state).report
      rw [one, ih halt.state] at both
      exact both.trans (Nat.add_comm 1 rest.length)
    | ok done =>
      rw [runPass_cons_ok result, List.length_cons]
      have both := Report.counted_merge (Report.ofOutcome done.outcome)
        (runPass step rest done.state).report
      rw [Report.counted_ofOutcome, ih done.state] at both
      exact both.trans (Nat.add_comm 1 rest.length)

namespace Engine

/-- How many items and recipes an engine has. -/
def entryCount (engine : Engine) : Nat :=
  engine.items.entries.length + engine.recipes.entries.length

/-- The report of both passes tells of every item and every recipe once. -/
theorem counted_fullInjection (engine : Engine) (tables : Tables) :
    (engine.fullInjection tables).report.counted = engine.entryCount := by
  have items : (engine.itemPass tables).report.counted = engine.items.entries.length :=
    counted_runPass _ _ _
  have recipes (between : Tables) : ((engine.afterItems tables).recipePass between).report.counted =
      engine.recipes.entries.length := counted_runPass _ _ _
  unfold fullInjection entryCount
  rw [Report.counted_merge, items, recipes]

/-- Copying icons keeps the content. -/
theorem sameContent_resolveIcons (engine : Engine) (tables : Tables) :
    (engine.resolveIcons tables).2.1.SameContent engine := ⟨rfl, rfl, rfl⟩

end Engine

/-! ## Checks -/

namespace Check

variable (ids : IdRanges) (packages : List Package)

/-- The first injection of a check tells of every item and every recipe once. -/
theorem counted_first :
    (run ids packages).first.counted =
      ((Engine.empty ids).discover packages).engine.entryCount := by
  change (((Engine.empty ids).discover packages).engine.injectContent
    Host.seeded.tables).report.counted = _
  rw [Engine.injectContent_of_discovered, Engine.counted_fullInjection, Engine.discover_engine]

/-- Where a check injects again, the second injection reports what the first one did. -/
theorem reinjected_eq_first :
    (run ids packages).reinjected = none ∨
      (run ids packages).reinjected = some (run ids packages).first := by
  let plain := (Engine.empty ids).registerAll packages
  let injection := ((Engine.empty ids).discover packages).engine.injectContent Host.seeded.tables
  let settled := injection.engine.resolveIcons injection.tables
  have same : settled.2.1.SameContent plain := by
    have discovered := (Engine.empty ids).discover_engine packages
    have injected := Engine.sameContent_injectContent
      ((Engine.empty ids).discover packages).engine Host.seeded.tables
    rw [discovered] at injected
    apply (Engine.sameContent_resolveIcons injection.engine injection.tables).trans
    change (((Engine.empty ids).discover packages).engine.injectContent
      Host.seeded.tables).engine.SameContent plain
    rw [discovered]
    exact injected
  let reloaded : Host := { Host.seeded with tables := settled.2.2.reload }
  have shows : reloaded.tables.ShowsAs Host.seeded.tables := settled.2.2.reload_showsAs
  have first : injection.report = (plain.fullInjection Host.seeded.tables).report :=
    congrArg Engine.Injection.report (Engine.injectContent_of_discovered ids packages)
  change (settled.2.1.onAction .sessionLoaded reloaded).reinjected = none ∨
    (settled.2.1.onAction .sessionLoaded reloaded).reinjected = some injection.report
  cases needs : settled.2.1.needsInjection reloaded.tables with
  | false => exact .inl (Engine.onAction_of_fine needs).2
  | true =>
    have again := (Engine.onAction_of_needs needs (Table.isReady_set _ _ _)
      (Table.isReady_set _ _ _)).2
    have alike := (Engine.fullInjection_alike same shows).2
    rw [alike, ← first] at again
    exact .inr again

/-- The result tells of every item and every recipe once, and of those that failed once more where
the check injects again. -/
theorem counted_total :
    (run ids packages).total.counted =
      ((Engine.empty ids).discover packages).engine.entryCount +
        if (run ids packages).reinjected.isSome then (run ids packages).first.failed else 0 := by
  have first := counted_first ids packages
  unfold Report.counted at first ⊢
  unfold total
  rcases reinjected_eq_first ids packages with nothing | again
  · rw [nothing]
    dsimp only [Option.map_none, Option.getD_none, Option.isSome_none]
    rw [if_neg Bool.false_ne_true]
    omega
  · rw [again]
    dsimp only [Option.map_some, Option.getD_some, Option.isSome_some]
    rw [if_pos rfl]
    omega

end Check

/-- Wherever the settings can be loaded, the result line of a check tells of every item and every
recipe once, and of those that failed once more where the check injects again. So it tells of as
many as were registered exactly when nothing failed or nothing was injected again. -/
theorem result_counts_iff (arguments : List String) (tree : FileTree)
    (options : CommandLine.Options) (settings : Settings)
    (asks : CommandLine.parse arguments = .ok (.check options))
    (loads : Settings.load tree options.settingsFile = .ok settings) :
    let packages := tree.loadPackages settings.language
      (options.packagesFolder.getD settings.packagesFolder)
    let registered := ((Engine.empty settings.ids).discover packages).engine.entryCount
    let check := Check.run settings.ids packages
    (∀ level, LogFilter.reportLevel settings.logFilter = .ok level → level.tells .info = true →
      (CommandLine.answer arguments tree).result = some check.total.text) ∧
    check.total.counted = registered +
      (if check.reinjected.isSome then check.first.failed else 0) ∧
    (check.total.counted = registered ↔ check.first.failed = 0 ∨ check.reinjected = none) := by
  intro packages registered check
  have counted : check.total.counted = registered +
      (if check.reinjected.isSome then check.first.failed else 0) :=
    Check.counted_total settings.ids packages
  refine ⟨?_, counted, ?_⟩
  · intro level reports tells
    unfold CommandLine.answer CommandLine.Options.answer
    simp only [asks, loads, reports]
    exact if_pos tells
  · rw [counted]
    cases again : check.reinjected with
    | none => simp
    | some report => simp

/-- A package with one item, whose base is missing. -/
def ghostTree : FileTree :=
  ((FileTree.empty []).addFile ["packages", "ghost", "mod.json"]
    "\x7b\"id\": \"ghost\"\x7d".toUTF8).addFile ["packages", "ghost", "items", "sheet.json"]
    "\x7b\"id\": \"sheet\", \"baseItem\": 999\x7d".toUTF8

/-- The result tells of one definition more than there are. -/
theorem ghost_counts :
    CommandLine.parse [] = .ok (.check {}) ∧
    Settings.load ghostTree Settings.defaultFile = .ok {} ∧
    let packages := ghostTree.loadPackages "en" "packages"
    let check := Check.run {} packages
    (CommandLine.answer [] ghostTree).result = some check.total.text ∧
    check.total.counted = ((Engine.empty {}).discover packages).engine.entryCount + 1 := by
  have loads : Settings.load ghostTree Settings.defaultFile = .ok {} := by decide +kernel
  have again : (if (Check.run {} (ghostTree.loadPackages "en" "packages")).reinjected.isSome
      then (Check.run {} (ghostTree.loadPackages "en" "packages")).first.failed else 0) = 1 := by
    decide +kernel
  obtain ⟨told, counted, _⟩ := result_counts_iff [] ghostTree {} {} rfl loads
  refine ⟨rfl, loads, told _ rfl rfl, counted.trans ?_⟩
  exact congrArg _ again

/-- One definition is registered, and the result line says that two failed. -/
theorem ghost_fails_twice :
    CommandLine.parse [] = .ok (.check {}) ∧
    Settings.load ghostTree Settings.defaultFile = .ok {} ∧
    ((Engine.empty {}).discover (ghostTree.loadPackages "en" "packages")).engine.entryCount = 1 ∧
    (CommandLine.answer [] ghostTree).result =
      some "0 injected, 0 patched, 0 skipped, 0 deferred, 2 failed" := by
  refine ⟨rfl, ?_, ?_, ?_⟩ <;> decide +kernel

end Modpack
