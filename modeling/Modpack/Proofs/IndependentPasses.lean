import Mathlib.Data.List.Nodup
import Mathlib.Data.List.Perm.Basic
import Modpack.Proofs.Renumbering

/-!
# Passes whose entries do not meet

A prospect says what each entry of a pass comes to if nothing is looked at but what was there before
the pass: its outcome and what is then shown under its number, or why it fails. It holds of an entry
when the step of the entry comes to that in every state the pass can be in, and changes what is
shown under the entry's own number only. A pass over entries with numbers of their own, of all of
which the prospect holds, fulfils it: so its report, its failures and what it shows do not depend on
the order of its entries.
-/
namespace Modpack

variable {σ δ ω : Type}

/-- What is expected of the entries of a pass. -/
structure Prospect (σ δ ω : Type) where
  /-- Whether a state is one that the pass can be in. -/
  fits : σ → Prop
  /-- What a state shows under a number. -/
  shows : σ → Nat → ω
  /-- What is shown under a number that is free. -/
  nothing : ω
  /-- What an entry comes to, with what is then shown under its number. -/
  plan : Entry δ → Except InjectError (Outcome × ω)

namespace Prospect

/-- What an entry is expected to come to. -/
def outcome (prospect : Prospect σ δ ω) (entry : Entry δ) : Except InjectError Outcome :=
  (prospect.plan entry).map Prod.fst

/-- What is expected to be shown under the number of an entry. -/
def shown (prospect : Prospect σ δ ω) (entry : Entry δ) : ω :=
  match prospect.plan entry with
  | .ok planned => planned.2
  | .error _ => prospect.nothing

/-- Entries with plans that are the same but for changes of what is shown have one outcome, and what
is shown of them is the same but for these changes. -/
theorem alike {ξ : Type} {prospect other : Prospect σ δ ω} {entry twin : Entry δ}
    {first second : ω → ξ}
    (plans : (prospect.plan entry).map (Prod.map id first) =
      (other.plan twin).map (Prod.map id second))
    (nothing : first prospect.nothing = second other.nothing) :
    prospect.outcome entry = other.outcome twin ∧
      first (prospect.shown entry) = second (other.shown twin) := by
  rw [outcome, outcome, shown, shown]
  cases here : prospect.plan entry with
  | error cause =>
    cases there : other.plan twin with
    | error cause' =>
      rw [here, there] at plans
      exact ⟨congrArg Except.error (Except.error.inj plans), nothing⟩
    | ok planned =>
      rw [here, there] at plans
      cases plans
  | ok planned =>
    cases there : other.plan twin with
    | error cause =>
      rw [here, there] at plans
      cases plans
    | ok planned' =>
      rw [here, there] at plans
      obtain ⟨outcomes, shows⟩ := Prod.mk.inj (Except.ok.inj plans)
      exact ⟨congrArg Except.ok outcomes, shows⟩

/-- In every state that fits and has the number of an entry free, the step of the entry comes to
what is expected. -/
structure Holds (prospect : Prospect σ δ ω)
    (step : Entry δ → σ → Except (Halt σ) (Step σ)) (entry : Entry δ) : Prop where
  /-- An entry that is expected to fail does so and leaves the state as it was. -/
  fails : ∀ {state cause}, prospect.fits state → prospect.shows state entry.id = prospect.nothing →
    prospect.plan entry = .error cause → step entry state = .error ⟨cause, state⟩
  /-- Any other comes to the outcome expected, and changes what is shown under its number only. -/
  makes : ∀ {state outcome shown}, prospect.fits state →
    prospect.shows state entry.id = prospect.nothing →
    prospect.plan entry = .ok (outcome, shown) →
    ∃ done, step entry state = .ok done ∧ done.outcome = outcome ∧ prospect.fits done.state ∧
      ∀ id, prospect.shows done.state id =
        if entry.id = id then shown else prospect.shows state id

/-- What an entry that came to something counts for in a report. -/
def reportOf : Except InjectError Outcome → Report
  | .ok outcome => .ofOutcome outcome
  | .error _ => { failed := 1 }

/-- The failure of an entry that came to one. -/
def failureOf [Definition δ] (entry : Entry δ) : Except InjectError Outcome → Option Failure
  | .ok _ => none
  | .error cause => some ⟨Definition.kind δ, entry.key, cause⟩

/-- A pass came to what was expected of its entries. -/
structure Fulfilled [Definition δ] (prospect : Prospect σ δ ω) (entries : List (Entry δ))
    (start : σ) (pass : Pass σ δ) : Prop where
  /-- Its last state is one that it can be in. -/
  fits : prospect.fits pass.state
  /-- What is expected is shown under the number of every entry. -/
  own : ∀ entry ∈ entries, prospect.shows pass.state entry.id = prospect.shown entry
  /-- What is shown under other numbers has not changed. -/
  others : ∀ id, (∀ entry ∈ entries, entry.id ≠ id) →
    prospect.shows pass.state id = prospect.shows start id
  /-- The report counts what the entries came to. -/
  report : pass.report =
    (entries.map fun entry => reportOf (prospect.outcome entry)).foldr Report.merge {}
  /-- The failures are those of the entries that failed. -/
  failures : pass.failures =
    entries.filterMap fun entry => failureOf entry (prospect.outcome entry)

section Run

variable [Definition δ] {prospect : Prospect σ δ ω}
  {step : Entry δ → σ → Except (Halt σ) (Step σ)}

/-- When an entry has its turn in a state that fits and has its number free, the pass goes on in a
state that fits and shows what is expected under this number, and is the same under all others. -/
theorem Holds.turn {entry : Entry δ} (holds : prospect.Holds step entry) {state : σ}
    (fits : prospect.fits state) (free : prospect.shows state entry.id = prospect.nothing)
    (rest : List (Entry δ)) :
    ∃ after, prospect.fits after ∧
      (∀ id, prospect.shows after id =
        if entry.id = id then prospect.shown entry else prospect.shows state id) ∧
      let pass := runPass step (entry :: rest) state
      let later := runPass step rest after
      pass.state = later.state ∧
      pass.report = (reportOf (prospect.outcome entry)).merge later.report ∧
      pass.failures = (failureOf entry (prospect.outcome entry)).toList ++ later.failures := by
  cases planned : prospect.plan entry with
  | error cause =>
    have failed := holds.fails fits free planned
    have outcome : prospect.outcome entry = .error cause := by
      rw [Prospect.outcome, planned]
      rfl
    refine ⟨state, fits, fun id => ?_, ?_⟩
    · by_cases here : entry.id = id
      · rw [if_pos here, ← here, free, shown, planned]
      · rw [if_neg here]
    · rw [runPass_cons_halt failed, outcome]
      exact ⟨rfl, rfl, rfl⟩
  | ok expected =>
    obtain ⟨done, ok, came, fits', shows⟩ := holds.makes fits free planned
    have outcome : prospect.outcome entry = .ok done.outcome := by
      rw [Prospect.outcome, planned, came]
      rfl
    refine ⟨done.state, fits', fun id => ?_, ?_⟩
    · rw [shows, shown, planned]
    · rw [runPass_cons_ok ok, outcome]
      exact ⟨rfl, rfl, rfl⟩

/-- A pass over entries with numbers of their own that are free comes to what is expected. -/
theorem fulfilled {entries : List (Entry δ)}
    (holds : ∀ entry ∈ entries, prospect.Holds step entry)
    (apart : (entries.map Entry.id).Nodup) {start : σ}
    (free : ∀ entry ∈ entries, prospect.shows start entry.id = prospect.nothing)
    (fits : prospect.fits start) :
    prospect.Fulfilled entries start (runPass step entries start) := by
  induction entries generalizing start with
  | nil =>
    refine ⟨fits, ?_, fun _ _ => rfl, rfl, rfl⟩
    intro entry member
    cases member
  | cons entry rest ih =>
    rw [List.map_cons, List.nodup_cons] at apart
    have different : ∀ other ∈ rest, other.id ≠ entry.id := fun other member same =>
      apart.1 (same ▸ List.mem_map_of_mem member)
    obtain ⟨after, fits', shows, state, report, failures⟩ :=
      (holds entry List.mem_cons_self).turn fits (free entry List.mem_cons_self) rest
    have stillFree : ∀ other ∈ rest, prospect.shows after other.id = prospect.nothing := by
      intro other member
      rw [shows, if_neg (different other member).symm]
      exact free other (List.mem_cons_of_mem _ member)
    have done := ih (fun other member => holds other (List.mem_cons_of_mem _ member)) apart.2
      stillFree fits'
    refine ⟨?_, ?_, ?_, ?_, ?_⟩
    · rw [state]
      exact done.fits
    · intro other member
      rw [state]
      rcases List.mem_cons.1 member with rfl | inRest
      · rw [done.others other.id different, shows, if_pos rfl]
      · exact done.own other inRest
    · intro id absent
      have apartFromRest : ∀ other ∈ rest, other.id ≠ id := fun other member =>
        absent other (List.mem_cons_of_mem _ member)
      rw [state, done.others id apartFromRest, shows, if_neg (absent entry List.mem_cons_self)]
    · rw [report, List.map_cons, List.foldr_cons, ← done.report]
    · rw [failures, List.filterMap_cons, ← done.failures]
      cases failureOf entry (prospect.outcome entry) <;> rfl

/-- Reports may be merged in any order. -/
theorem merge_leftComm (first second third : Report) :
    first.merge (second.merge third) = second.merge (first.merge third) := by
  simp only [Report.merge, Nat.add_left_comm]

/-- Passes over the same definitions in any order report the same and list the same failures, if
what they expect of an entry does not depend on its number. -/
theorem Fulfilled.report_eq {other : Prospect σ δ ω} {entries reordered : List (Entry δ)}
    {start start' : σ} {pass pass' : Pass σ δ}
    (done : prospect.Fulfilled entries start pass) (done' : other.Fulfilled reordered start' pass')
    (perm : (entries.map Entry.unnumbered).Perm (reordered.map Entry.unnumbered))
    (first : ∀ entry ∈ entries, prospect.outcome entry = other.outcome entry.unnumbered)
    (second : ∀ entry ∈ reordered, other.outcome entry = other.outcome entry.unnumbered) :
    pass.report = pass'.report ∧ pass.failures.Perm pass'.failures := by
  have reports {entries : List (Entry δ)} {prospect : Prospect σ δ ω}
      (told : ∀ entry ∈ entries, prospect.outcome entry = other.outcome entry.unnumbered) :
      (entries.map fun entry => reportOf (prospect.outcome entry)) =
        (entries.map Entry.unnumbered).map fun entry => reportOf (other.outcome entry) := by
    rw [List.map_map]
    exact List.map_congr_left fun entry member => congrArg reportOf (told entry member)
  have failures {entries : List (Entry δ)} {prospect : Prospect σ δ ω}
      (told : ∀ entry ∈ entries, prospect.outcome entry = other.outcome entry.unnumbered) :
      (entries.filterMap fun entry => failureOf entry (prospect.outcome entry)) =
        (entries.map Entry.unnumbered).filterMap fun entry =>
          failureOf entry (other.outcome entry) := by
    rw [List.filterMap_map]
    refine List.filterMap_congr fun entry member => ?_
    rw [told entry member]
    rfl
  have comm : LeftCommutative Report.merge := ⟨merge_leftComm⟩
  constructor
  · rw [done.report, done'.report, reports first, reports second]
    exact (perm.map _).foldr_eq _
  · rw [done.failures, done'.failures, failures first, failures second]
    exact perm.filterMap _

end Run

end Prospect

end Modpack
