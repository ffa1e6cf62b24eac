import Cardiac.Proofs.Machine.Course

/-!
# The two policies

The policy decides nothing before an input instruction finds no card. There the run with the
abort policy fails, and the run with the reset policy ends by clearing its registers; what either
has done up to there is the same, and so is what it leaves in memory and on the cards.
-/
namespace Cardiac.Machine

variable {Port : Type}

theorem ne_inputExhausted_of_combine {machine left : Machine Port} {address : Int}
    {operation : Accumulator → Int64 → Accumulator} {fault : Fault}
    (fails : machine.combine address operation = (.error fault, left)) :
    fault ≠ .inputExhausted := by
  unfold combine at fails
  split at fails
  · cases fails
  · cases fails
    exact nofun

theorem ne_inputExhausted_of_commit {machine left : Machine Port}
    {written : Except MemoryError Unit × Memory} {fault : Fault}
    (fails : machine.commit written = (.error fault, left)) : fault ≠ .inputExhausted := by
  obtain ⟨_ | _, memory⟩ := written
  · cases fails
    exact nofun
  · cases fails

variable [CardPort Port]

/-- Only an input instruction runs out of cards. -/
theorem noCard_of_execute {machine left : Machine Port} {opcode : Opcode} {operand : UInt8}
    (fails : machine.execute ⟨opcode, operand⟩ = (.error .inputExhausted, left)) :
    opcode = .input ∧ (CardPort.read machine.port).1 = none := by
  cases opcode with
  | input =>
    simp only [execute] at fails
    cases taken : CardPort.read machine.port with
    | mk card port =>
      rw [taken] at fails
      cases card with
      | none => exact ⟨rfl, rfl⟩
      | some card => exact absurd rfl (ne_inputExhausted_of_commit fails)
  | clearAdd =>
    simp only [execute] at fails
    exact absurd rfl (ne_inputExhausted_of_combine fails)
  | add =>
    simp only [execute] at fails
    exact absurd rfl (ne_inputExhausted_of_combine fails)
  | test =>
    simp only [execute] at fails
    split at fails <;> cases fails
  | shift => cases fails
  | output =>
    simp only [execute] at fails
    split at fails <;> cases fails
  | store =>
    simp only [execute] at fails
    exact absurd rfl (ne_inputExhausted_of_commit fails)
  | subtract =>
    simp only [execute] at fails
    exact absurd rfl (ne_inputExhausted_of_combine fails)
  | jump =>
    simp only [execute] at fails
    split at fails <;> cases fails
  | halt => cases fails

/-- The next step fetches an input instruction, and there is no card. -/
structure Starves (machine left : Machine Port) : Prop where
  input : ∃ operand, machine.pending? = some ⟨.input, operand⟩
  noCard : (CardPort.read machine.port).1 = none
  /-- One past the instruction, unless the program counter cannot go on. -/
  pc : left.registers.pc.toNat = min (machine.registers.pc.toNat + 1) (UInt32.size - 1)

theorem starves_of_step {machine left : Machine Port}
    (fails : machine.step = (.error .inputExhausted, left)) : Starves machine left := by
  have outcome := outcome_step machine
  rw [fails] at outcome
  cases outcome with
  | @failed word opcode operand _ _ held digits failed =>
    obtain ⟨rfl, noCard⟩ := noCard_of_execute failed
    refine ⟨⟨_, pending?_of_decode held (Instruction.decode_of_eq digits)⟩, noCard, ?_⟩
    rw [execute_error failed]
    exact toNat_pc_fetched_eq_min machine word

/-! ### The same run under another policy -/

variable {machine final : Machine Port} {limit : Option Nat} {count : Nat}
  {result : Except Fault RunSummary}

omit [CardPort Port] in
theorem IsRunning.under (running : machine.IsRunning) (policy : ExhaustionPolicy) :
    (machine.under policy).IsRunning :=
  running

theorem step_under_of_step (policy : ExhaustionPolicy)
    {stepped : Except Fault Instruction} (step : machine.step = (stepped, final)) :
    (machine.under policy).step = (stepped, final.under policy) := by
  rw [step_under, step]

theorem afterSteps_under (policy : ExhaustionPolicy) (machine : Machine Port) (count : Nat) :
    (machine.under policy).afterSteps count = (machine.afterSteps count).under policy := by
  induction count with
  | zero => rfl
  | succ count ih =>
    rw [afterSteps, ih, step_under]
    rfl

theorem Passes.under (passes : Passes IsRunning count machine final) (policy : ExhaustionPolicy) :
    Passes IsRunning count (machine.under policy) (final.under policy) := by
  induction passes with
  | done => exact .done _
  | next here stepped _ ih => exact .next here (step_under_of_step policy stepped) ih

/-- A run that ends under one policy ends under the other, in one way or another. -/
theorem Ending.exists_under (ending : Ending limit count machine result final)
    (policy : ExhaustionPolicy) :
    ∃ result' final', Ending limit count (machine.under policy) result' final' := by
  cases ending with
  | halted stopped within => exact ⟨_, _, .halted stopped within⟩
  | cycleLimit running reached => exact ⟨_, _, .cycleLimit running reached⟩
  | inputExhausted running within starved =>
    obtain ⟨left, -, ending⟩ :=
      ending_of_step_error (running.under policy) within (step_under_of_step policy starved)
    exact ⟨_, left, ending⟩
  | failed running within fails =>
    obtain ⟨left, -, ending⟩ :=
      ending_of_step_error (running.under policy) within (step_under_of_step policy fails)
    exact ⟨_, left, ending⟩

/-- Where the abort policy lets a run end, the reset policy does the same, or clears the
registers. -/
theorem Ending.under_reset (ending : Ending limit count (machine.under .abort) result final) :
    Ending limit count (machine.under .reset) result (final.under .reset) ∨
      result = .error .inputExhausted ∧
        Ending limit count (machine.under .reset) (.ok ⟨count, .inputExhausted⟩)
          (final.under .reset).reset := by
  cases ending with
  | halted stopped within => exact .inl (.halted stopped within)
  | cycleLimit running reached => exact .inl (.cycleLimit running reached)
  -- the abort policy does not let a run end so
  | inputExhausted _ _ _ policy => cases policy
  | @failed fault _ running within fails =>
    have alsoFails := step_under_of_step .reset fails
    by_cases exhausted : fault = .inputExhausted
    · subst exhausted
      exact .inr ⟨rfl, .inputExhausted running within alsoFails rfl⟩
    · exact .inl (.failed running within alsoFails fun same => absurd same exhausted)

theorem Ending.ne_inputExhausted (ending : Ending limit count (machine.under .reset) result final) :
    result ≠ .error .inputExhausted := by
  rintro rfl
  cases ending with
  | failed _ _ _ policy => cases policy rfl

theorem course_under_iff {policy : ExhaustionPolicy} :
    Course (machine.under policy) limit count result final ↔
      Passes IsRunning count machine (machine.afterSteps count) ∧
        Ending limit count ((machine.afterSteps count).under policy) result final := by
  constructor
  · rintro ⟨passes, ending⟩
    rw [afterSteps_under] at passes ending
    -- the same steps lead from the machine under its own policy
    have back : Passes IsRunning count machine _ := passes.under machine.policy
    rw [← back.afterSteps_eq] at back
    exact ⟨back, ending⟩
  · rintro ⟨passes, ending⟩
    refine ⟨?_, ?_⟩
    · rw [afterSteps_under]
      exact passes.under policy
    · rw [afterSteps_under]
      exact ending

/-- Both runs have come to the same input instruction and found no card. The one has failed there
and the other has cleared its registers. -/
structure PartedAt (machine : Machine Port) (limit : Option Nat) (count : Nat)
    (aborted reset : Machine Port) : Prop where
  aborts : Course (machine.under .abort).started limit count (.error .inputExhausted) aborted
  resets : Course (machine.under .reset).started limit count (.ok ⟨count, .inputExhausted⟩) reset
  starves : Starves ((machine.under .abort).started.afterSteps count) aborted
  memory : reset.memory = aborted.memory
  port : reset.port = aborted.port
  cycles : reset.cycles = aborted.cycles
  registers : reset.registers = {}
  last : reset.last = none

theorem partedAt_of_passes
    (passes : Passes IsRunning count machine.started (machine.started.afterSteps count))
    (aborts : Ending limit count ((machine.started.afterSteps count).under .abort)
      (.error .inputExhausted) final)
    (resets : Ending limit count ((machine.started.afterSteps count).under .reset)
      (.ok ⟨count, .inputExhausted⟩) (final.under .reset).reset) :
    PartedAt machine limit count final (final.under .reset).reset where
  aborts := course_under_iff.mpr ⟨passes, aborts⟩
  resets := course_under_iff.mpr ⟨passes, resets⟩
  starves := by
    cases aborts with
    | failed _ _ fails =>
      rw [← afterSteps_under] at fails
      exact starves_of_step fails
  memory := rfl
  port := rfl
  cycles := rfl
  registers := rfl
  last := rfl

/-- The policies make no difference unless an input instruction finds no card. -/
theorem policies_part_at_exhaustion (machine : Machine Port) (limit : Option Nat) :
    ((∃ result final, (machine.under .abort).RunsTo limit result final) ↔
      ∃ result final, (machine.under .reset).RunsTo limit result final) ∧
    (∀ result final result' final', (machine.under .abort).RunsTo limit result final →
      (machine.under .reset).RunsTo limit result' final' →
      result' = result ∧ final' = final.under .reset ∨
      ∃ count, result = .error .inputExhausted ∧ result' = .ok ⟨count, .inputExhausted⟩ ∧
        PartedAt machine limit count final final') ∧
    ∀ result final, (machine.under .reset).RunsTo limit result final →
      result ≠ .error .inputExhausted := by
  -- either run is a course of the same steps, and only what follows them looks at the policy
  have runs (policy : ExhaustionPolicy) (result : Except Fault RunSummary) (final : Machine Port) :
      (machine.under policy).RunsTo limit result final ↔
        ∃ count, Course (machine.started.under policy) limit count result final := runsTo_iff
  simp only [runs, course_under_iff]
  refine ⟨⟨?_, ?_⟩, ?_, ?_⟩
  · rintro ⟨_, _, count, passes, ending⟩
    obtain ⟨result, final, ending⟩ := ending.exists_under .reset
    exact ⟨result, final, count, passes, ending⟩
  · rintro ⟨_, _, count, passes, ending⟩
    obtain ⟨result, final, ending⟩ := ending.exists_under .abort
    exact ⟨result, final, count, passes, ending⟩
  · rintro result final result' final' ⟨count, passes, aborts⟩ ⟨count', passes', resets⟩
    have other := course_under_iff.mpr ⟨passes', resets⟩
    rcases aborts.under_reset with same | ⟨rfl, exhausted⟩
    · -- the reset policy lets the run end just as the abort policy does
      obtain ⟨-, rfl, rfl⟩ := other.unique (course_under_iff.mpr ⟨passes, same⟩)
      exact .inl ⟨rfl, rfl⟩
    · -- the reset policy ends the run where the abort policy fails
      obtain ⟨-, rfl, rfl⟩ := other.unique (course_under_iff.mpr ⟨passes, exhausted⟩)
      exact .inr ⟨count, rfl, rfl, partedAt_of_passes passes aborts exhausted⟩
  · rintro result final ⟨count, -, ending⟩
    exact ending.ne_inputExhausted

/-- The only card is an input instruction, for which there is no card. -/
theorem parted_behind_only_card :
    let machine := fresh (Deck.ofCards ["000"]) { memorySize := 1 }
    let aborted := ((machine.under .abort).runLimited 2).2
    let reset := ((machine.under .reset).runLimited 2).2
    (machine.under .abort).RunsTo none (.error .inputExhausted) aborted ∧
      (machine.under .reset).RunsTo none (.ok ⟨1, .inputExhausted⟩) reset ∧
      PartedAt machine none 1 aborted reset := by
  intro machine aborted reset
  have aborts : (machine.under .abort).RunsTo none (.error .inputExhausted) aborted :=
    ⟨2, by decide +kernel⟩
  have resets : (machine.under .reset).RunsTo none (.ok ⟨1, .inputExhausted⟩) reset :=
    ⟨2, by decide +kernel⟩
  refine ⟨aborts, resets, ?_⟩
  have compared := (policies_part_at_exhaustion machine none).2.1
  rcases compared _ _ _ _ aborts resets with ⟨same, -⟩ | ⟨count, -, reported, parted⟩
  · cases same
  · cases reported
    exact parted

end Cardiac.Machine
