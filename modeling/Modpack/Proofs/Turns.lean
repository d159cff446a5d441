import Modpack.Proofs.Passes

/-!
# The turns of a pass

A pass is told by the turns of its entries: in its turn an entry finds a state, and its step comes
to an outcome or fails. Everything a pass comes to is read off its turns. Where a step that fails
leaves the state it found, a pass over the other entries gives each of them the turn it had before.
-/
namespace Modpack

variable {σ δ : Type}

/-- What happens when an entry has its turn. -/
structure Turn (σ δ : Type) where
  /-- The entry. -/
  entry : Entry δ
  /-- The state it finds. -/
  state : σ
  /-- What its step comes to. -/
  result : Except (Halt σ) (Step σ)

namespace Turn

/-- The state the turn leaves. -/
def after (turn : Turn σ δ) : σ :=
  match turn.result with
  | .ok done => done.state
  | .error halt => halt.state

/-- What became of the entry, if it did not fail. -/
def outcome? (turn : Turn σ δ) : Option Outcome :=
  match turn.result with
  | .ok done => some done.outcome
  | .error _ => none

/-- Whether the entry failed. -/
def failed (turn : Turn σ δ) : Bool :=
  turn.outcome?.isNone

/-- The entry with the record that stands for it after the turn. -/
def settled (turn : Turn σ δ) : Entry δ :=
  match turn.result with
  | .ok done => { turn.entry with materialized := some done.record }
  | .error _ => turn.entry

/-- What the turn counts for in the report. -/
def report (turn : Turn σ δ) : Report :=
  match turn.result with
  | .ok done => .ofOutcome done.outcome
  | .error _ => { failed := 1 }

/-- The failure the turn is listed with, if it failed. -/
def failure? [Definition δ] (turn : Turn σ δ) : Option Failure :=
  match turn.result with
  | .ok _ => none
  | .error halt => some ⟨Definition.kind δ, turn.entry.key, halt.cause⟩

end Turn

/-- The turns of a pass, in order. -/
def turns (step : Entry δ → σ → Except (Halt σ) (Step σ)) :
    List (Entry δ) → σ → List (Turn σ δ)
  | [], _ => []
  | entry :: rest, state =>
    let turn : Turn σ δ := ⟨entry, state, step entry state⟩
    turn :: turns step rest turn.after

/-- The entries that do not fail in a pass, in order. -/
def survivors (step : Entry δ → σ → Except (Halt σ) (Step σ)) (entries : List (Entry δ))
    (state : σ) : List (Entry δ) :=
  ((turns step entries state).filter fun turn => !turn.failed).map Turn.entry

variable [Definition δ]

/-- What a pass with given turns comes to that began in a state. -/
def Pass.ofTurns (state : σ) (turns : List (Turn σ δ)) : Pass σ δ :=
  { entries := turns.map Turn.settled
    state := turns.foldl (fun _ turn => turn.after) state
    report := turns.foldr (fun turn report => turn.report.merge report) {}
    failures := turns.filterMap Turn.failure? }

variable {step : Entry δ → σ → Except (Halt σ) (Step σ)}

/-- A pass comes to what its turns tell. -/
theorem runPass_eq_ofTurns (entries : List (Entry δ)) (state : σ) :
    runPass step entries state = .ofTurns state (turns step entries state) := by
  induction entries generalizing state with
  | nil => rfl
  | cons entry rest ih =>
    cases result : step entry state with
    | error halt =>
      rw [runPass_cons_halt result, ih halt.state, turns, result]
      rfl
    | ok done =>
      rw [runPass_cons_ok result, ih done.state, turns, result]
      rfl

/-- A pass ends in the state its last turn leaves. -/
theorem runPass_cons_state (entry : Entry δ) (rest : List (Entry δ)) (state : σ) :
    (runPass step (entry :: rest) state).state =
      (runPass step rest (Turn.mk entry state (step entry state)).after).state := by
  rw [runPass_eq_ofTurns, runPass_eq_ofTurns]
  rfl

/-- An entry has its turn in the state that the pass over the entries before it leaves. -/
theorem mem_turns_iff {entries : List (Entry δ)} {state : σ} {turn : Turn σ δ} :
    turn ∈ turns step entries state ↔
      ∃ before later, entries = before ++ turn.entry :: later ∧
        turn.state = (runPass step before state).state ∧
        turn.result = step turn.entry turn.state := by
  induction entries generalizing state with
  | nil => simp [turns]
  | cons entry rest ih =>
    rw [turns, List.mem_cons, ih]
    constructor
    · rintro (rfl | ⟨before, later, split, found, result⟩)
      · exact ⟨[], rest, rfl, rfl, rfl⟩
      · refine ⟨entry :: before, later, by rw [split, List.cons_append], ?_, result⟩
        rw [found, runPass_cons_state]
    · rintro ⟨before, later, split, found, result⟩
      cases before with
      | nil =>
        obtain ⟨rfl, rfl⟩ := List.cons.inj split
        left
        cases turn
        simp_all [runPass]
      | cons head before =>
        obtain ⟨rfl, rfl⟩ := List.cons.inj split
        refine .inr ⟨before, later, rfl, ?_, result⟩
        rw [found, runPass_cons_state]

variable [Atomic step]

omit [Definition δ] in
/-- A turn that fails leaves the state it found. -/
theorem Turn.after_of_failed {entry : Entry δ} {state : σ}
    (failed : (Turn.mk entry state (step entry state)).failed = true) :
    (Turn.mk entry state (step entry state)).after = state := by
  rw [Turn.failed, outcome?] at failed
  rw [after]
  cases result : step entry state with
  | error halt => exact Atomic.untouched result
  | ok done =>
    simp only [result] at failed
    cases failed

/-- What holds after a turn holds after the pass, if each step keeps it. -/
theorem runPass_keeps_after (property : σ → Prop) {entries : List (Entry δ)} {state : σ}
    {turn : Turn σ δ} (member : turn ∈ turns step entries state)
    (kept : ∀ entry ∈ entries, ∀ state done, step entry state = .ok done → property state →
      property done.state) (holds : property turn.after) :
    property (runPass step entries state).state := by
  induction entries generalizing state with
  | nil => cases member
  | cons entry rest ih =>
    have keptLater : ∀ other ∈ rest, ∀ state done, step other state = .ok done →
        property state → property done.state :=
      fun other inRest => kept other (List.mem_cons_of_mem entry inRest)
    rw [runPass_cons_state]
    rcases List.mem_cons.1 member with rfl | later
    · exact runPass_keeps property keptLater holds
    · exact ih later keptLater

/-- What holds before a pass holds at each of its turns, if each step keeps it. -/
theorem holds_of_mem_turns (property : σ → Prop) {entries : List (Entry δ)} {state : σ}
    {turn : Turn σ δ} (member : turn ∈ turns step entries state)
    (kept : ∀ entry ∈ entries, ∀ state done, step entry state = .ok done → property state →
      property done.state) (initially : property state) : property turn.state := by
  obtain ⟨before, later, split, found, _⟩ := mem_turns_iff.1 member
  rw [found]
  refine runPass_keeps property (fun entry inBefore => kept entry ?_) initially
  rw [split]
  exact List.mem_append_left _ inBefore

/-! ## Without the entries that fail -/

omit [Definition δ] in
/-- The first entry stays when it does not fail; when it fails, it leaves no trace. -/
theorem survivors_cons (entry : Entry δ) (rest : List (Entry δ)) (state : σ) :
    survivors step (entry :: rest) state =
      if (Turn.mk entry state (step entry state)).failed then survivors step rest state
      else entry :: survivors step rest (Turn.mk entry state (step entry state)).after := by
  rw [survivors, turns]
  cases failed : (Turn.mk entry state (step entry state)).failed with
  | true =>
    have same : (Turn.mk entry state (step entry state)).after = state :=
      Turn.after_of_failed failed
    rw [List.filter_cons_of_neg (by simp [failed]), same, if_pos rfl]
    rfl
  | false =>
    rw [List.filter_cons_of_pos (by simp [failed]), List.map_cons, if_neg Bool.false_ne_true]
    rfl

omit [Definition δ] in
/-- Without the entries that fail, the others have the turns they had with them. -/
theorem turns_survivors (entries : List (Entry δ)) (state : σ) :
    turns step (survivors step entries state) state =
      (turns step entries state).filter fun turn => !turn.failed := by
  induction entries generalizing state with
  | nil => rfl
  | cons entry rest ih =>
    rw [survivors_cons, turns]
    cases failed : (Turn.mk entry state (step entry state)).failed with
    | true =>
      have same : (Turn.mk entry state (step entry state)).after = state :=
        Turn.after_of_failed failed
      rw [if_pos rfl, ih, List.filter_cons_of_neg (by simp [failed]), same]
    | false =>
      rw [if_neg Bool.false_ne_true, turns, ih, List.filter_cons_of_pos (by simp [failed])]

/-- Without the entries that fail, a pass ends in the state it ended in with them. -/
theorem runPass_survivors_state (entries : List (Entry δ)) (state : σ) :
    (runPass step (survivors step entries state) state).state =
      (runPass step entries state).state := by
  induction entries generalizing state with
  | nil => rfl
  | cons entry rest ih =>
    rw [survivors_cons, runPass_cons_state]
    cases failed : (Turn.mk entry state (step entry state)).failed with
    | true =>
      have same : (Turn.mk entry state (step entry state)).after = state :=
        Turn.after_of_failed failed
      rw [if_pos rfl, ih, same]
    | false => rw [if_neg Bool.false_ne_true, runPass_cons_state, ih]

omit [Definition δ] in
/-- Turns that do not fail report what all turns report, but for the failures. -/
theorem report_filter (turns : List (Turn σ δ)) :
    (turns.filter fun turn => !turn.failed).foldr (fun turn report => turn.report.merge report)
        {} =
      { turns.foldr (fun turn report => turn.report.merge report) {} with failed := 0 } := by
  induction turns with
  | nil => rfl
  | cons turn rest ih =>
    rw [List.foldr_cons]
    cases result : turn.result with
    | error halt =>
      have failed : turn.failed = true := by rw [Turn.failed, Turn.outcome?, result]; rfl
      rw [List.filter_cons_of_neg (by simp [failed]), ih, Turn.report, result]
      simp [Report.merge]
    | ok done =>
      have fine : turn.failed = false := by rw [Turn.failed, Turn.outcome?, result]; rfl
      have none : (Report.ofOutcome done.outcome).failed = 0 := by cases done.outcome <;> rfl
      rw [List.filter_cons_of_pos (by simp [fine]), List.foldr_cons, ih, Turn.report, result]
      simp [Report.merge, none]

/-- Turns that do not fail list no failure. -/
theorem failures_filter (turns : List (Turn σ δ)) :
    (turns.filter fun turn => !turn.failed).filterMap Turn.failure? = [] := by
  rw [List.filterMap_eq_nil_iff]
  intro turn member
  have fine := (List.mem_filter.1 member).2
  rw [Turn.failed, Turn.outcome?] at fine
  rw [Turn.failure?]
  cases result : turn.result with
  | error halt =>
    rw [result] at fine
    cases fine
  | ok done => rfl

end Modpack
