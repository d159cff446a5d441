import Modpack.Host.Field
import Modpack.Registry

/-!
# Passes over a registry

A pass takes the entries of a registry in order and does one step for each. A step answers with
the state it leaves, also when it fails. A failure is reported, and the entries after it still have
their turn in the state that was left. The report counts what became of the entries.
-/
namespace Modpack

/-- Why an entry, or a whole pass, fails. -/
inductive InjectError where
  /-- The host has not filled the table. -/
  | tableNotReady (table : String)
  /-- The record to start from is missing. -/
  | baseMissing (entry : String) (base : Nat)
  /-- The record to patch is missing. -/
  | targetMissing (entry : String) (target : Nat)
  /-- There is no recipe to start from. -/
  | templateMissing (entry : String)
  /-- The item a recipe makes is not known. -/
  | resultUnresolved (entry result : String)
  /-- An item a recipe takes is not known. -/
  | ingredientUnresolved (entry item : String)
  /-- The host refuses a write. -/
  | host (error : HostError)
deriving DecidableEq, Repr

/-- The words for a failure. -/
def InjectError.message : InjectError → String
  | tableNotReady table => table ++ " table is not ready"
  | baseMissing entry base =>
    "base record " ++ Whole.text base ++ " not found for '" ++ entry ++ "'"
  | targetMissing entry target =>
    "modify target " ++ Whole.text target ++ " not found for '" ++ entry ++ "'"
  | templateMissing entry => "no template recipe available for '" ++ entry ++ "'"
  | resultUnresolved entry result =>
    "result item '" ++ result ++ "' not found for recipe '" ++ entry ++ "'"
  | ingredientUnresolved entry item =>
    "ingredient '" ++ item ++ "' not found for recipe '" ++ entry ++ "'"
  | host error => error.message

/-- What became of an entry that did not fail. -/
inductive Outcome where
  /-- A record was put into the table. -/
  | injected
  /-- A record was put into the table, and its icon is still missing. -/
  | deferred
  /-- A host record was patched. -/
  | patched
  /-- There was nothing to do. -/
  | skipped
deriving DecidableEq, Repr

/-- How many entries came to what. -/
structure Report where
  /-- Records put into a table. -/
  injected : Nat := 0
  /-- Host records patched. -/
  patched : Nat := 0
  /-- Entries with nothing to do. -/
  skipped : Nat := 0
  /-- Records put into a table whose icon is still missing. -/
  deferred : Nat := 0
  /-- Entries that failed. -/
  failed : Nat := 0
deriving DecidableEq, Repr

namespace Report

/-- Two reports as one. -/
def merge (left right : Report) : Report :=
  { injected := left.injected + right.injected
    patched := left.patched + right.patched
    skipped := left.skipped + right.skipped
    deferred := left.deferred + right.deferred
    failed := left.failed + right.failed }

/-- The report of one entry that did not fail. -/
def ofOutcome : Outcome → Report
  | .injected => { injected := 1 }
  | .deferred => { injected := 1, deferred := 1 }
  | .patched => { patched := 1 }
  | .skipped => { skipped := 1 }

/-- Whether an entry failed. -/
def hasFailures (report : Report) : Bool :=
  0 < report.failed

/-- A report as one line. -/
def text (report : Report) : String :=
  Whole.text report.injected ++ " injected, " ++ Whole.text report.patched ++ " patched, "
    ++ Whole.text report.skipped ++ " skipped, " ++ Whole.text report.deferred ++ " deferred, "
    ++ Whole.text report.failed ++ " failed"

end Report

/-- An entry that failed, and why. -/
structure Failure where
  /-- The word for the kind of entry. -/
  kind : String
  /-- The key of the entry. -/
  key : String
  /-- Why it failed. -/
  cause : InjectError
deriving DecidableEq, Repr

/-- The words for an entry that failed. -/
def Failure.message (failure : Failure) : String :=
  "Failed to inject " ++ failure.kind ++ " '" ++ failure.key ++ "': " ++ failure.cause.message

/-- What a step came to. -/
structure Step (σ : Type) where
  /-- What became of the entry. -/
  outcome : Outcome
  /-- The record that stands for the entry now. -/
  record : Nat
  /-- The state after the step. -/
  state : σ

/-- A step that failed. -/
structure Halt (σ : Type) where
  /-- Why it failed. -/
  cause : InjectError
  /-- The state it leaves. -/
  state : σ

/-- A part of a step; where it fails, the step halts in the state it has come to. -/
def leaving {σ α : Type} (state : σ) (result : Except InjectError α) : Except (Halt σ) α :=
  result.mapError fun cause => ⟨cause, state⟩

/-- A part that does not fail answers as it did. -/
theorem leaving_ok {σ α : Type} (state : σ) (value : α) :
    leaving state (.ok value) = .ok value := rfl

/-- What a pass came to. -/
structure Pass (σ δ : Type) where
  /-- The entries, each with the record that stands for it. -/
  entries : List (Entry δ)
  /-- The state after the pass. -/
  state : σ
  /-- What became of the entries. -/
  report : Report
  /-- The entries that failed, in order. -/
  failures : List Failure

/-- Take the entries in order, one step each. -/
def runPass {σ δ : Type} [Definition δ] (step : Entry δ → σ → Except (Halt σ) (Step σ)) :
    List (Entry δ) → σ → Pass σ δ
  | [], state => ⟨[], state, {}, []⟩
  | entry :: rest, state =>
    match step entry state with
    | .ok done =>
      let later := runPass step rest done.state
      { later with
        entries := { entry with materialized := some done.record } :: later.entries
        report := (Report.ofOutcome done.outcome).merge later.report }
    | .error halt =>
      let later := runPass step rest halt.state
      { later with
        entries := entry :: later.entries
        report := ({ failed := 1 } : Report).merge later.report
        failures := ⟨Definition.kind δ, entry.key, halt.cause⟩ :: later.failures }

end Modpack
