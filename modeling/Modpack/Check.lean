import Modpack.CommandLine
import Modpack.Engine
import Modpack.Files.PackageFolder
import Modpack.LogFilter

/-!
# Checking packages

A check loads all packages, injects them into a seeded host, lets the host drop its tables once
and announce a new session, and counts what failed. It succeeds when nothing was refused and
nothing failed, before or after the tables were dropped.
-/
namespace Modpack

/-- What came of a check. -/
structure Check where
  /-- What came of registering the packages. -/
  discovery : Discovery
  /-- What came of the first injection. -/
  first : Report
  /-- What came of injecting again, if the host lacked something after it dropped its tables. -/
  reinjected : Option Report
  /-- The recipes taught. -/
  unlocked : Nat
  /-- The definitions refused, in order. -/
  refused : List RegisterError
  /-- The entries that failed in the two injections, in order. -/
  failures : List Failure

namespace Check

/-- Check packages. -/
def run (ids : IdRanges) (packages : List Package) : Check :=
  let registration := (Engine.empty ids).discover packages
  let host := Host.seeded
  let injection := registration.engine.injectContent host.tables
  let (_, engine, tables) := injection.engine.resolveIcons injection.tables
  let reaction := engine.onAction .sessionLoaded { host with tables := tables.reload }
  let (unlocked, _) := reaction.engine.unlockRecipes reaction.host
  { discovery := registration.discovery
    first := injection.report
    reinjected := reaction.reinjected
    unlocked
    refused := registration.errors
    failures := injection.failures ++ reaction.failures }

/-- The report of the check as a whole: that of the first injection, with what failed when
injecting again. -/
def total (check : Check) : Report :=
  let again := (check.reinjected.map Report.failed).getD 0
  { check.first with failed := check.first.failed + again }

/-- Whether nothing was refused and nothing failed. -/
def succeeded (check : Check) : Bool :=
  !check.total.hasFailures && check.discovery.rejected == 0

/-- The packages and definitions in one line. -/
def summary (check : Check) : String :=
  Whole.text check.discovery.packages ++ " package(s), "
    ++ Whole.text check.discovery.registered ++ " definition(s), "
    ++ Whole.text check.discovery.rejected ++ " rejected; "
    ++ Whole.text check.unlocked ++ " recipe(s) unlocked"

end Check

/-! ## From the command line -/

/-- What a program says at its end. -/
structure Answer where
  /-- Zero for success, one for packages that fail, two for what could not be begun, and 101 for
  a log filter that cannot be cut into its parts. -/
  exitCode : Nat
  /-- What was injected again after the host dropped its tables. -/
  reload : Option String := none
  /-- The packages and definitions. -/
  summary : Option String := none
  /-- What was injected. -/
  result : Option String := none
  /-- What went wrong, in order. -/
  complaints : List String := []
deriving DecidableEq, Repr

/-- What a check has to say at a level: what was done at that of information, what went wrong at
that of errors. -/
def Check.answer (check : Check) (level : LogFilter.Level) : Answer :=
  let told (text : String) := if level.tells .info then some text else none
  { exitCode := if check.succeeded then 0 else 1
    reload := check.reinjected.bind fun report => told report.text
    summary := told check.summary
    result := told check.total.text
    complaints := if level.tells .error then
        check.refused.map RegisterError.message ++ check.failures.map Failure.message
      else [] }

/-- Check the packages that options name. A log filter that cannot be cut into its parts ends the
program before the check begins. -/
def CommandLine.Options.answer (options : CommandLine.Options) (tree : FileTree) : Answer :=
  match Settings.load tree options.settingsFile with
  | .error error => { exitCode := 2, complaints := [error.message] }
  | .ok settings =>
    match LogFilter.reportLevel settings.logFilter with
    | .error refusal => { exitCode := 101, complaints := [refusal.message] }
    | .ok level =>
      let folder := options.packagesFolder.getD settings.packagesFolder
      (Check.run settings.ids (tree.loadPackages settings.language folder)).answer level

/-- Do what arguments ask for. -/
def CommandLine.answer (arguments : List String) (tree : FileTree) : Answer :=
  match CommandLine.parse arguments with
  | .error error => { exitCode := 2, complaints := [error.message] }
  | .ok (.check options) => options.answer tree
  | .ok .help | .ok .version => { exitCode := 0 }

end Modpack
