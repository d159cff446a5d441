import Modpack.Injection.Pass

/-!
# What a pass keeps and when it is idle

Statements about a whole pass follow from statements about one step, provided a step that fails
leaves the state it found, as those of items and of recipes do: a pass then keeps what each of its
steps keeps, two passes whose steps answer alike report alike, and a pass reports that it did
nothing exactly when every entry finds nothing to do in the state the pass began with.
-/
namespace Modpack

variable {σ τ δ : Type}

/-- An entry without the record that was last written for it. -/
def Entry.forget (entry : Entry δ) : Entry δ :=
  { entry with materialized := none }

/-- A step that fails leaves the state it found. -/
class Atomic (step : Entry δ → σ → Except (Halt σ) (Step σ)) : Prop where
  /-- The state that is left is the one that was found. -/
  untouched : ∀ {entry state halt}, step entry state = .error halt → halt.state = state

variable [Definition δ] {step : Entry δ → σ → Except (Halt σ) (Step σ)}

/-- Forgetting the written record does not change whether an entry patches. -/
theorem Entry.isPatch_forget (entry : Entry δ) : entry.forget.isPatch = entry.isPatch := rfl

/-- Entries that differ in the written record only have one number and one definition, and either
both patch or none does. -/
theorem Entry.of_forget_eq {left right : Entry δ} (same : left.forget = right.forget) :
    left.id = right.id ∧ left.definition = right.definition ∧ left.isPatch = right.isPatch := by
  refine ⟨?_, ?_, ?_⟩
  · exact show left.forget.id = right.forget.id from congrArg Entry.id same
  · exact show left.forget.definition = right.forget.definition from
      congrArg Entry.definition same
  · rw [← isPatch_forget, same, isPatch_forget]

/-- A pass goes on in the state after a step that did not fail. -/
theorem runPass_cons_ok {entry : Entry δ} {state : σ} {done : Step σ}
    (ok : step entry state = .ok done) (rest : List (Entry δ)) :
    runPass step (entry :: rest) state =
      { runPass step rest done.state with
        entries := { entry with materialized := some done.record } ::
          (runPass step rest done.state).entries
        report := (Report.ofOutcome done.outcome).merge
          (runPass step rest done.state).report } := by
  rw [runPass, ok]

/-- A pass goes on in the state that a step left which failed. -/
theorem runPass_cons_halt {entry : Entry δ} {state : σ} {halt : Halt σ}
    (failed : step entry state = .error halt) (rest : List (Entry δ)) :
    runPass step (entry :: rest) state =
      { runPass step rest halt.state with
        entries := entry :: (runPass step rest halt.state).entries
        report := ({ failed := 1 } : Report).merge (runPass step rest halt.state).report
        failures := ⟨Definition.kind δ, entry.key, halt.cause⟩ ::
          (runPass step rest halt.state).failures } := by
  rw [runPass, failed]

variable [Atomic step]

/-- A pass goes on in the same state after a step that failed. -/
theorem runPass_cons_error {entry : Entry δ} {state : σ} {halt : Halt σ}
    (failed : step entry state = .error halt) (rest : List (Entry δ)) :
    runPass step (entry :: rest) state =
      { runPass step rest state with
        entries := entry :: (runPass step rest state).entries
        report := ({ failed := 1 } : Report).merge (runPass step rest state).report
        failures := ⟨Definition.kind δ, entry.key, halt.cause⟩ ::
          (runPass step rest state).failures } := by
  rw [runPass_cons_halt failed, Atomic.untouched failed]

/-! ## What is kept -/

/-- A pass keeps every relation to the state it began with that each of its steps keeps. -/
theorem runPass_relates (related : σ → σ → Prop) (same : ∀ state, related state state)
    (joined : ∀ {first middle last : σ}, related first middle → related middle last →
      related first last)
    {entries : List (Entry δ)}
    (kept : ∀ entry ∈ entries, ∀ state done, step entry state = .ok done →
      related state done.state) (state : σ) :
    related state (runPass step entries state).state := by
  induction entries generalizing state with
  | nil => exact same state
  | cons entry rest ih =>
    have later := ih fun other member => kept other (List.mem_cons_of_mem entry member)
    cases result : step entry state with
    | error halt =>
      rw [runPass_cons_error result]
      exact later state
    | ok done =>
      rw [runPass_cons_ok result]
      exact joined (kept entry List.mem_cons_self state done result) (later done.state)

/-- A pass keeps every property of the state that each of its steps keeps. -/
theorem runPass_keeps (property : σ → Prop) {entries : List (Entry δ)}
    (kept : ∀ entry ∈ entries, ∀ state done, step entry state = .ok done → property state →
      property done.state) {state : σ} (initially : property state) :
    property (runPass step entries state).state :=
  runPass_relates (fun before after => property before → property after)
    (fun _ holds => holds) (fun first second holds => second (first holds)) kept state initially

/-- A pass leaves the entries as they are but for the records written for them. -/
theorem runPass_entries_forget (entries : List (Entry δ)) (state : σ) :
    (runPass step entries state).entries.map Entry.forget = entries.map Entry.forget := by
  induction entries generalizing state with
  | nil => rfl
  | cons entry rest ih =>
    cases result : step entry state with
    | error halt =>
      rw [runPass_cons_error result, List.map_cons, List.map_cons, ih state]
    | ok done =>
      rw [runPass_cons_ok result, List.map_cons, List.map_cons, ih done.state]
      rfl

/-- After a pass in which nothing failed, every entry has what its own step established, if no
step destroys it. -/
theorem runPass_holds (holds : Entry δ → σ → Prop) {entries : List (Entry δ)} {state : σ}
    (established : ∀ entry ∈ entries, ∀ state done, step entry state = .ok done →
      holds entry done.state)
    (kept : ∀ entry ∈ entries, ∀ other ∈ entries, ∀ state done, step entry state = .ok done →
      holds other state → holds other done.state)
    (clean : (runPass step entries state).report.failed = 0) :
    ∀ entry ∈ entries, holds entry (runPass step entries state).state := by
  induction entries generalizing state with
  | nil =>
    intro entry member
    cases member
  | cons entry rest ih =>
    cases result : step entry state with
    | error halt =>
      rw [runPass_cons_error result] at clean
      simp only [Report.merge] at clean
      omega
    | ok done =>
      rw [runPass_cons_ok result] at clean ⊢
      have cleanRest : (runPass step rest done.state).report.failed = 0 := by
        simp only [Report.merge] at clean
        omega
      intro other member
      rcases List.mem_cons.1 member with rfl | inRest
      · have now := established other List.mem_cons_self state done result
        refine runPass_keeps (holds other) ?_ now
        intro next nextMember
        exact kept next (List.mem_cons_of_mem other nextMember) other List.mem_cons_self
      · refine ih ?_ ?_ cleanRest other inRest
        · intro next nextMember
          exact established next (List.mem_cons_of_mem entry nextMember)
        · intro next nextMember another anotherMember
          exact kept next (List.mem_cons_of_mem entry nextMember) another
            (List.mem_cons_of_mem entry anotherMember)

/-- An entry that fails wherever a property holds fails in a pass that begins where it holds, if
every step keeps it. -/
theorem mem_failures_of_holds (holds : σ → Prop) {entries : List (Entry δ)} {entry : Entry δ}
    {cause : InjectError}
    (kept : ∀ other ∈ entries, ∀ state done, step other state = .ok done → holds state →
      holds done.state)
    (fails : ∀ state, holds state → step entry state = .error ⟨cause, state⟩)
    (member : entry ∈ entries) {state : σ} (initially : holds state) :
    ⟨Definition.kind δ, entry.key, cause⟩ ∈ (runPass step entries state).failures := by
  induction entries generalizing state with
  | nil => cases member
  | cons head rest ih =>
    have later := ih fun other otherMember => kept other (List.mem_cons_of_mem head otherMember)
    cases result : step head state with
    | error failure =>
      rw [runPass_cons_error result]
      rcases List.mem_cons.1 member with rfl | inRest
      · obtain rfl := Except.error.inj (result.symm.trans (fails state initially))
        exact List.mem_cons_self
      · exact List.mem_cons_of_mem _ (later inRest initially)
    | ok done =>
      rw [runPass_cons_ok result]
      rcases List.mem_cons.1 member with rfl | inRest
      · rw [fails state initially] at result
        cases result
      · exact later inRest (kept head List.mem_cons_self state done result initially)

/-! ## When nothing is done -/

/-- An entry finds nothing to do in a state: its step changes nothing, or fails. -/
def Idle (step : Entry δ → σ → Except (Halt σ) (Step σ)) (state : σ) (entry : Entry δ) :
    Prop :=
  (∃ record, step entry state = .ok ⟨.skipped, record, state⟩) ∨
    ∃ halt, step entry state = .error halt

/-- A pass over entries that find nothing to do changes nothing. -/
theorem runPass_of_idle {entries : List (Entry δ)} {state : σ}
    (idle : ∀ entry ∈ entries, Idle step state entry) :
    (runPass step entries state).state = state ∧
      (runPass step entries state).report.injected = 0 ∧
      (runPass step entries state).report.patched = 0 := by
  induction entries with
  | nil => exact ⟨rfl, rfl, rfl⟩
  | cons entry rest ih =>
    obtain ⟨unchanged, injected, patched⟩ := ih fun other member =>
      idle other (List.mem_cons_of_mem entry member)
    rcases idle entry List.mem_cons_self with ⟨record, skipped⟩ | ⟨halt, failed⟩
    · rw [runPass_cons_ok skipped]
      refine ⟨unchanged, ?_, ?_⟩
      · simp only [Report.merge, Report.ofOutcome, injected]
      · simp only [Report.merge, Report.ofOutcome, patched]
    · rw [runPass_cons_error failed]
      refine ⟨unchanged, ?_, ?_⟩
      · simp only [Report.merge, injected]
      · simp only [Report.merge, patched]

/-- Where a step changes nothing exactly when it skips, a pass that reports nothing done had
nothing to do for any entry. -/
theorem idle_of_report
    (skips : ∀ entry state done, step entry state = .ok done → done.outcome = .skipped →
      done.state = state) {entries : List (Entry δ)} {state : σ}
    (injected : (runPass step entries state).report.injected = 0)
    (patched : (runPass step entries state).report.patched = 0) :
    ∀ entry ∈ entries, Idle step state entry := by
  induction entries with
  | nil =>
    intro entry member
    cases member
  | cons entry rest ih =>
    have first : Idle step state entry ∧ (runPass step rest state).report.injected = 0 ∧
        (runPass step rest state).report.patched = 0 := by
      cases result : step entry state with
      | error halt =>
        rw [runPass_cons_error result] at injected patched
        simp only [Report.merge, Nat.zero_add] at injected patched
        exact ⟨.inr ⟨halt, result⟩, injected, patched⟩
      | ok done =>
        rw [runPass_cons_ok result] at injected patched
        simp only [Report.merge] at injected patched
        obtain ⟨outcome, record, after⟩ := done
        cases outcome with
        | skipped =>
          obtain rfl : after = state := skips entry state _ result rfl
          simp only [Report.ofOutcome, Nat.zero_add] at injected patched
          exact ⟨.inl ⟨record, result⟩, injected, patched⟩
        | injected | deferred | patched =>
          simp only [Report.ofOutcome] at injected patched
          omega
    intro other member
    rcases List.mem_cons.1 member with rfl | inRest
    · exact first.1
    · exact ih first.2.1 first.2.2 other inRest

/-- Where every step that is not idle makes a measure grow, a pass that leaves the measure as it
was had nothing to do for any entry. -/
theorem idle_of_measure {measure : σ → Nat}
    (grows : ∀ entry state done, step entry state = .ok done →
      (done.outcome = .skipped ∧ done.state = state) ∨ measure state < measure done.state)
    {entries : List (Entry δ)} {state : σ}
    (still : measure (runPass step entries state).state = measure state) :
    ∀ entry ∈ entries, Idle step state entry := by
  have grown (rest : List (Entry δ)) (from' : σ) :
      measure from' ≤ measure (runPass step rest from').state := by
    refine runPass_relates (fun before after => measure before ≤ measure after)
      (fun _ => Nat.le_refl _) Nat.le_trans ?_ from'
    intro entry _ before done ok
    rcases grows entry before done ok with ⟨_, same⟩ | more
    · exact Nat.le_of_eq (congrArg measure same.symm)
    · omega
  induction entries with
  | nil =>
    intro entry member
    cases member
  | cons entry rest ih =>
    have first : Idle step state entry ∧
        measure (runPass step rest state).state = measure state := by
      cases result : step entry state with
      | error halt =>
        rw [runPass_cons_error result] at still
        exact ⟨.inr ⟨halt, result⟩, still⟩
      | ok done =>
        rw [runPass_cons_ok result] at still
        rcases grows entry state done result with ⟨skipped, same⟩ | more
        · rw [same] at still
          obtain ⟨outcome, record, after⟩ := done
          obtain rfl : outcome = .skipped := skipped
          obtain rfl : after = state := same
          exact ⟨.inl ⟨record, result⟩, still⟩
        · have later : measure done.state ≤ measure (runPass step rest done.state).state :=
            grown rest done.state
          have still' : measure (runPass step rest done.state).state = measure state := still
          omega
    intro other member
    rcases List.mem_cons.1 member with rfl | inRest
    · exact first.1
    · exact ih first.2 other inRest

/-! ## Passes that answer alike -/

/-- Two results of steps that come to the same and leave related states. -/
def Alike (related : σ → τ → Prop) :
    Except (Halt σ) (Step σ) → Except (Halt τ) (Step τ) → Prop
  | .ok left, .ok right => left.outcome = right.outcome ∧ related left.state right.state
  | .error left, .error right => left.cause = right.cause
  | _, _ => False

/-- A pass whose steps do not look at the records written for the entries goes the same way
when these are forgotten. -/
theorem runPass_forget (blind : ∀ entry state, step (Entry.forget entry) state = step entry state)
    (entries : List (Entry δ)) (state : σ) :
    (runPass step (entries.map Entry.forget) state).state = (runPass step entries state).state ∧
      (runPass step (entries.map Entry.forget) state).report =
        (runPass step entries state).report := by
  induction entries generalizing state with
  | nil => exact ⟨rfl, rfl⟩
  | cons entry rest ih =>
    rw [List.map_cons]
    cases result : step entry state with
    | error halt =>
      rw [runPass_cons_error result, runPass_cons_error ((blind entry state).trans result)]
      exact ⟨(ih state).1, congrArg (Report.merge { failed := 1 }) (ih state).2⟩
    | ok done =>
      rw [runPass_cons_ok result, runPass_cons_ok ((blind entry state).trans result)]
      exact ⟨(ih done.state).1,
        congrArg (Report.merge (Report.ofOutcome done.outcome)) (ih done.state).2⟩

/-- Passes whose steps answer alike from related states report alike and end in related
states. -/
theorem runPass_alike {other : Entry δ → τ → Except (Halt τ) (Step τ)} [Atomic other]
    {related : σ → τ → Prop} {entries : List (Entry δ)}
    (alike : ∀ entry ∈ entries, ∀ left right, related left right →
      Alike related (step entry left) (other entry right))
    {left : σ} {right : τ} (start : related left right) :
    related (runPass step entries left).state (runPass other entries right).state ∧
      (runPass step entries left).report = (runPass other entries right).report := by
  induction entries generalizing left right with
  | nil => exact ⟨start, rfl⟩
  | cons entry rest ih =>
    have now := alike entry List.mem_cons_self left right start
    have later {left : σ} {right : τ} (start : related left right) :=
      ih (fun next member => alike next (List.mem_cons_of_mem entry member)) start
    cases first : step entry left with
    | error halt =>
      cases second : other entry right with
      | ok done =>
        rw [first, second] at now
        exact now.elim
      | error halt' =>
        rw [runPass_cons_error first, runPass_cons_error second]
        exact ⟨(later start).1, congrArg (Report.merge { failed := 1 }) (later start).2⟩
    | ok done =>
      cases second : other entry right with
      | error halt =>
        rw [first, second] at now
        exact now.elim
      | ok done' =>
        rw [first, second] at now
        obtain ⟨outcome, states⟩ := now
        rw [runPass_cons_ok first, runPass_cons_ok second, outcome]
        exact ⟨(later states).1,
          congrArg (Report.merge (Report.ofOutcome done'.outcome)) (later states).2⟩

end Modpack
