import Cardiac.Proofs.Machine.Running

/-!
# The course of a run

A run amounts to steps that succeed while the machine is running, and to an ending: a halt, the
limit, or a step that fails. `Course` says so without the recursion that runs, for a run under a
limit and for one without, and `ends_iff` says that nothing else is a run. What the observer has
seen is one snapshot for each of the steps.
-/
namespace Cardiac.Machine

variable {Port : Type}

def IsRunning (machine : Machine Port) : Prop := machine.registers.running = true

theorem IsRunning.ne_false {machine : Machine Port} (running : machine.IsRunning) :
    machine.registers.running ≠ false :=
  ne_false_of_eq_true running

theorem isRunning_started (machine : Machine Port) : machine.started.IsRunning := rfl

theorem started_of_isRunning {machine : Machine Port} (running : machine.IsRunning) :
    machine.started = machine := by
  unfold IsRunning at running
  rw [started, ← running]

variable [CardPort Port]

/-- The snapshots of so many steps, up to one that fails. -/
def snapshots : Nat → Machine Port → List Snapshot
  | 0, _ => []
  | count + 1, machine =>
    match machine.step with
    | (.ok instruction, next) =>
      next.snapshot machine.registers.pc instruction :: next.snapshots count
    | (.error _, _) => []

/-- How a run comes to its end at a machine, behind so many instructions. -/
inductive Ending (limit : Option Nat) (count : Nat) (machine : Machine Port) :
    Except Fault RunSummary → Machine Port → Prop where
  -- a halt comes before the limit, even if it is reached with the halt
  | halted (stopped : machine.registers.running = false) (within : ∀ most ∈ limit, count ≤ most) :
      Ending limit count machine (.ok ⟨count, .halted⟩) machine
  | cycleLimit (running : machine.IsRunning) (reached : limit = some count) :
      Ending limit count machine (.ok ⟨count, .cycleLimit⟩) machine
  -- a step is only tried if the limit allows one more
  | inputExhausted {left : Machine Port} (running : machine.IsRunning)
      (within : ∀ most ∈ limit, count < most)
      (starved : machine.step = (.error .inputExhausted, left)) (policy : machine.policy = .reset) :
      Ending limit count machine (.ok ⟨count, .inputExhausted⟩) left.reset
  | failed {fault : Fault} {left : Machine Port} (running : machine.IsRunning)
      (within : ∀ most ∈ limit, count < most) (fails : machine.step = (.error fault, left))
      (policy : fault = .inputExhausted → machine.policy = .abort) :
      Ending limit count machine (.error fault) left

/-- So many steps that succeed while the machine is running, and the ending behind them. -/
structure Course (machine : Machine Port) (limit : Option Nat) (count : Nat)
    (result : Except Fault RunSummary) (final : Machine Port) : Prop where
  passes : Passes IsRunning count machine (machine.afterSteps count)
  ending : Ending limit count (machine.afterSteps count) result final

/-! ### Steps one after the other -/

theorem afterSteps_succ (machine : Machine Port) (count : Nat) :
    machine.afterSteps (count + 1) = machine.step.2.afterSteps count := by
  induction count with
  | zero => rfl
  | succ count ih => exact congrArg (fun reached => reached.step.2) ih

theorem afterSteps_add (machine : Machine Port) (count more : Nat) :
    machine.afterSteps (count + more) = (machine.afterSteps count).afterSteps more := by
  induction more with
  | zero => rfl
  | succ more ih => exact congrArg (fun reached => reached.step.2) ih

namespace Passes

variable {property : Machine Port → Prop} {count : Nat} {machine final : Machine Port}

theorem afterSteps_eq (passes : Passes property count machine final) :
    machine.afterSteps count = final := by
  induction passes with
  | done => rfl
  | next _ stepped _ ih => rw [afterSteps_succ, stepped, ih]

theorem take (passes : Passes property count machine final) {fewer : Nat} (le : fewer ≤ count) :
    Passes property fewer machine (machine.afterSteps fewer) := by
  induction passes generalizing fewer with
  | done =>
    obtain rfl := Nat.le_zero.mp le
    exact .done _
  | next here stepped _ ih =>
    cases fewer with
    | zero => exact .done _
    | succ fewer =>
      rw [afterSteps_succ, stepped]
      exact .next here stepped (ih (Nat.le_of_succ_le_succ le))

/-- Every step that succeeds is counted. -/
theorem cycles_eq (passes : Passes property count machine final) :
    final.cycles = machine.cycles + UInt64.ofNat count := by
  induction passes with
  | done => exact (UInt64.add_zero _).symm
  | @next count _ _ _ _ _ stepped _ ih =>
    rw [ih, (succeeded_of_step stepped).cycles, Nat.add_comm count, UInt64.ofNat_add,
      ← UInt64.add_assoc]
    rfl

theorem length_snapshots (passes : Passes property count machine final) :
    (machine.snapshots count).length = count := by
  induction passes with
  | done => rfl
  | next _ stepped _ ih => simp only [snapshots, stepped, List.length_cons, ih]

/-- Every step on the way succeeds, and each snapshot is that of its step. -/
theorem step_of_lt (passes : Passes property count machine final) {i : Nat} (before : i < count) :
    property (machine.afterSteps i) ∧ ∃ instruction,
      (machine.afterSteps i).step = (.ok instruction, machine.afterSteps (i + 1)) ∧
      (machine.snapshots count)[i]? = some ((machine.afterSteps (i + 1)).snapshot
        (machine.afterSteps i).registers.pc instruction) := by
  -- the first step is that of the machine itself, and the others belong to the shorter passage
  induction passes generalizing i with
  | done => omega
  | @next _ machine _ _ instruction here stepped _ ih =>
    cases i with
    | zero =>
      refine ⟨here, instruction, ?_, ?_⟩
      · simp only [afterSteps, stepped]
      · simp only [afterSteps, snapshots, stepped, List.getElem?_cons_zero]
    | succ i =>
      rw [afterSteps_succ machine (i + 1), afterSteps_succ machine i, stepped]
      simp only [snapshots, stepped, List.getElem?_cons_succ]
      exact ih (Nat.lt_of_succ_lt_succ before)

end Passes

/-! ### The recursion that runs -/

variable {Seen : Type} {observe : Seen → Snapshot → Seen} {seen : Seen} {limit : Option Nat}
  {allowed executed count : Nat} {machine final last : Machine Port}
  {result : Except Fault RunSummary}

theorem Ending.count_le (ending : Ending limit count machine result final) :
    ∀ most ∈ limit, count ≤ most := by
  intro most member
  cases ending with
  | halted _ within => exact within most member
  | cycleLimit _ reached =>
    rw [reached, Option.mem_some_iff] at member
    exact Nat.le_of_eq member
  | inputExhausted _ within => exact Nat.le_of_lt (within most member)
  | failed _ within => exact Nat.le_of_lt (within most member)

theorem Ending.limit_eq {reported : Nat}
    (ending : Ending limit count machine (.ok ⟨reported, .cycleLimit⟩) final) :
    limit = some count := by
  cases ending with
  | cycleLimit _ reached => exact reached

/-- A step that fails ends the run, and the policy decides how. -/
theorem ending_of_step_error {fault : Fault} {left : Machine Port} (running : machine.IsRunning)
    (within : ∀ most ∈ limit, count < most) (fails : machine.step = (.error fault, left)) :
    ∃ left', machine.stepWithPolicy = (.error fault, left') ∧
      Ending limit count machine (endOfFault count left' fault) left' := by
  have kept := (failed_of_step fails).policy
  cases fault with
  | inputExhausted =>
    cases policy : left.policy with
    | reset =>
      refine ⟨left.reset, by simp only [stepWithPolicy, fails, policy], ?_⟩
      have keeps : left.reset.policy = .reset := policy
      simp only [endOfFault, keeps]
      exact .inputExhausted running within fails (kept.symm.trans policy)
    | abort =>
      refine ⟨left, by simp only [stepWithPolicy, fails, policy], ?_⟩
      simp only [endOfFault, policy]
      exact .failed running within fails fun _ => kept.symm.trans policy
  | memory error =>
    refine ⟨left, by simp only [stepWithPolicy, fails], .failed running within fails ?_⟩
    intro exhausted
    cases exhausted
  | invalidOperation error =>
    refine ⟨left, by simp only [stepWithPolicy, fails], .failed running within fails ?_⟩
    intro exhausted
    cases exhausted

/-- A summary reports the instructions executed. -/
theorem Ending.reported {reported : Nat} {reason : StopReason}
    (ending : Ending limit count machine (.ok ⟨reported, reason⟩) final) :
    reported = count ∧ final.cycles = machine.cycles := by
  cases ending with
  | halted => exact ⟨rfl, rfl⟩
  | cycleLimit => exact ⟨rfl, rfl⟩
  | inputExhausted _ _ starved => exact ⟨rfl, (failed_of_step starved).cycles⟩

/-- Whatever a run does under a limit, its course is one. -/
theorem exists_course (observe : Seen → Snapshot → Seen) (allowed executed : Nat) (seen : Seen)
    (machine : Machine Port) :
    let done := continueRun observe allowed executed seen machine
    ∃ count, Passes IsRunning count machine (machine.afterSteps count) ∧
      Ending (some (executed + allowed)) (executed + count) (machine.afterSteps count) done.result
        done.machine ∧
      done.seen = (machine.snapshots count).foldl observe seen := by
  induction allowed generalizing executed seen machine with
  | zero =>
    refine ⟨0, .done machine, ?_, rfl⟩
    cases running : machine.registers.running with
    | false =>
      simp only [continueRun, running, Bool.false_eq_true, if_false]
      exact .halted running (by simp)
    | true =>
      simp only [continueRun, running, if_true]
      exact .cycleLimit running rfl
  | succ allowed ih =>
    cases running : machine.registers.running with
    | false =>
      rw [continueRun_of_not_running running]
      exact ⟨0, .done machine, .halted running (by simp), rfl⟩
    | true =>
      cases stepped : machine.step with
      | mk result next =>
        cases result with
        | error fault =>
          have within : ∀ most ∈ some (executed + (allowed + 1)), executed < most := by simp
          obtain ⟨left, fails, ending⟩ := ending_of_step_error running within stepped
          rw [continueRun_of_error running fails]
          exact ⟨0, .done machine, ending, rfl⟩
        | ok instruction =>
          rw [continueRun_of_ok running (stepWithPolicy_of_ok stepped)]
          obtain ⟨count, passes, ending, seen⟩ := ih (executed + 1)
            (observe seen (next.snapshot machine.registers.pc instruction)) next
          -- one instruction more is executed and one fewer allowed
          rw [Nat.add_right_comm executed 1, Nat.add_right_comm executed 1] at ending
          refine ⟨count + 1, ?_, ?_, ?_⟩
          · rw [afterSteps_succ, stepped]
            exact .next running stepped passes
          · rw [afterSteps_succ, stepped]
            exact ending
          · simp only [snapshots, stepped, List.foldl_cons]
            exact seen

/-! ### One course only -/

theorem Ending.unique {result' : Except Fault RunSummary} {final' : Machine Port}
    (one : Ending limit count machine result final)
    (other : Ending limit count machine result' final') : result = result' ∧ final = final' := by
  cases one with
  | halted stopped =>
    rcases other with _ | ⟨running⟩ | ⟨running⟩ | ⟨running⟩
    · exact ⟨rfl, rfl⟩
    all_goals exact absurd stopped running.ne_false
  | cycleLimit running reached =>
    rcases other with ⟨stopped⟩ | _ | ⟨_, within⟩ | ⟨_, within⟩
    · exact absurd stopped running.ne_false
    · exact ⟨rfl, rfl⟩
    all_goals exact absurd (within count reached) (Nat.lt_irrefl count)
  | inputExhausted running within starved reset =>
    rcases other with ⟨stopped⟩ | ⟨_, reached⟩ | ⟨_, _, alsoStarved⟩ | ⟨_, _, fails, abort⟩
    · exact absurd stopped running.ne_false
    · exact absurd (within count reached) (Nat.lt_irrefl count)
    · rw [starved] at alsoStarved
      cases alsoStarved
      exact ⟨rfl, rfl⟩
    · rw [starved] at fails
      cases fails
      rw [abort rfl] at reset
      cases reset
  | failed running within fails abort =>
    rcases other with ⟨stopped⟩ | ⟨_, reached⟩ | ⟨_, _, starved, reset⟩ | ⟨_, _, alsoFails⟩
    · exact absurd stopped running.ne_false
    · exact absurd (within count reached) (Nat.lt_irrefl count)
    · rw [fails] at starved
      cases starved
      rw [abort rfl] at reset
      cases reset
    · rw [fails] at alsoFails
      cases alsoFails
      exact ⟨rfl, rfl⟩

/-- Where a run ends, no further step succeeds under its limit. -/
theorem Ending.not_lt (ending : Ending limit count machine result final)
    (running : machine.IsRunning) {instruction : Instruction} {next : Machine Port}
    (stepped : machine.step = (.ok instruction, next)) {later : Nat}
    (within : ∀ most ∈ limit, later ≤ most) : ¬count < later := by
  intro before
  cases ending with
  | halted stopped => exact absurd stopped running.ne_false
  | cycleLimit _ reached =>
    have below := within count reached
    omega
  | inputExhausted _ _ starved =>
    rw [stepped] at starved
    cases starved
  | failed _ _ fails =>
    rw [stepped] at fails
    cases fails

theorem Course.count_le_of {count' : Nat} {result' : Except Fault RunSummary}
    {final' : Machine Port} (one : Course machine limit count result final)
    (other : Course machine limit count' result' final') : count' ≤ count := by
  refine Nat.le_of_not_lt fun before => ?_
  obtain ⟨running, instruction, stepped, -⟩ := other.passes.step_of_lt before
  exact one.ending.not_lt running stepped other.ending.count_le before

/-- A machine has one course under a limit. -/
theorem Course.unique {count' : Nat} {result' : Except Fault RunSummary} {final' : Machine Port}
    (one : Course machine limit count result final)
    (other : Course machine limit count' result' final') :
    count = count' ∧ result = result' ∧ final = final' := by
  obtain rfl := Nat.le_antisymm (other.count_le_of one) (one.count_le_of other)
  exact ⟨rfl, one.ending.unique other.ending⟩

/-! ### Runs under a limit and runs without one -/

/-- The run ends so, within some patience if there is no limit. -/
def Ends (observe : Seen → Snapshot → Seen) (seen : Seen) (limit : Option Nat)
    (machine : Machine Port) (done : RunEnd Port Seen) : Prop :=
  ∃ patience, machine.runObserved? observe seen limit patience = some done

/-- Every run under a limit ends. -/
theorem ends_runObserved (observe : Seen → Snapshot → Seen) (seen : Seen) (limit : Nat)
    (machine : Machine Port) :
    Ends observe seen (some limit) machine (machine.runObserved observe seen limit) :=
  ⟨0, rfl⟩

/-- The run that nobody observes has the result and leaves the machine. -/
def RunsTo (machine : Machine Port) (limit : Option Nat) (result : Except Fault RunSummary)
    (final : Machine Port) : Prop :=
  match limit with
  | some limit => machine.runLimited limit = (result, final)
  | none => ∃ patience, machine.run? patience = some (result, final)

/-- An ending that is not due to the limit is one under another limit too, if that one allows as
many instructions. -/
theorem Ending.of_limit {limit' : Option Nat} (ending : Ending limit count machine result final)
    (settled : ∀ count, result ≠ .ok ⟨count, .cycleLimit⟩)
    (allows : ∀ more ≤ count + 1, (∀ most ∈ limit, more ≤ most) → ∀ most ∈ limit', more ≤ most) :
    Ending limit' count machine result final := by
  have same := allows count (Nat.le_succ count)
  have next := allows (count + 1) (Nat.le_refl _)
  cases ending with
  | halted stopped within => exact .halted stopped (same within)
  | cycleLimit => exact absurd rfl (settled count)
  | inputExhausted running within starved policy =>
    exact .inputExhausted running (next within) starved policy
  | failed running within fails policy => exact .failed running (next within) fails policy

theorem Ending.settled (ending : Ending none count machine result final) (reported : Nat) :
    result ≠ .ok ⟨reported, .cycleLimit⟩ := by
  rintro rfl
  cases ending with
  | cycleLimit _ reached => cases reached

omit [CardPort Port] in
theorem settled?_eq_some_iff {done done' : RunEnd Port Seen} :
    done.settled? = some done' ↔
      done = done' ∧ ∀ count, done.result ≠ .ok ⟨count, .cycleLimit⟩ := by
  unfold RunEnd.settled?
  split
  next reported ended => simp [ended]
  next other => simp only [Option.some.injEq, iff_self_and]; exact fun _ => other

theorem runObserved_eq_of_course {most : Nat} {done : RunEnd Port Seen}
    (course : Course machine.started (some most) count done.result done.machine)
    (shown : done.seen = (machine.started.snapshots count).foldl observe seen) :
    machine.runObserved observe seen most = done := by
  obtain ⟨count', passes, ending, shown'⟩ := exists_course observe most 0 seen machine.started
  rw [Nat.zero_add, Nat.zero_add] at ending
  obtain ⟨rfl, result, final⟩ := course.unique ⟨passes, ending⟩
  obtain ⟨_, _, _⟩ := done
  simp only at result final shown
  rw [runObserved, result, final, shown, ← shown']

theorem foldl_push_snapshots (count : Nat) (machine : Machine Port) :
    (machine.snapshots count).foldl Array.push #[] = (machine.snapshots count).toArray :=
  List.foldl_push_eq_append'.trans (Array.empty_append ..)

theorem runTraced_eq_of_course {most : Nat}
    (course : Course machine.started (some most) count result final) :
    machine.runTraced most = ⟨result, final, (machine.started.snapshots count).toArray⟩ :=
  runObserved_eq_of_course course (foldl_push_snapshots count machine.started).symm

/-- A run is its course, with a snapshot for each step. -/
theorem ends_iff {done : RunEnd Port Seen} :
    Ends observe seen limit machine done ↔
      ∃ count, Course machine.started limit count done.result done.machine ∧
        done.seen = (machine.started.snapshots count).foldl observe seen := by
  cases limit with
  | some most =>
    simp only [Ends, runObserved?, Option.some.injEq, exists_const]
    constructor
    · rintro rfl
      obtain ⟨count, passes, ending, shown⟩ := exists_course observe most 0 seen machine.started
      rw [Nat.zero_add, Nat.zero_add] at ending
      exact ⟨count, ⟨passes, ending⟩, shown⟩
    · rintro ⟨count, course, shown⟩
      exact runObserved_eq_of_course course shown
  | none =>
    simp only [Ends, runObserved?, settled?_eq_some_iff]
    constructor
    · rintro ⟨patience, rfl, settled⟩
      obtain ⟨count, passes, ending, shown⟩ :=
        exists_course observe patience 0 seen machine.started
      rw [Nat.zero_add, Nat.zero_add] at ending
      exact ⟨count, ⟨passes, ending.of_limit settled (by simp)⟩, shown⟩
    · rintro ⟨count, course, shown⟩
      -- one step more than the run takes is patience enough
      have settled := course.ending.settled
      have limited : Course machine.started (some (count + 1)) count done.result done.machine :=
        ⟨course.passes, course.ending.of_limit settled (by simp)⟩
      have reached := runObserved_eq_of_course limited shown
      exact ⟨count + 1, reached, reached ▸ settled⟩

/-- A run comes to one end only, however much patience there is. -/
theorem Ends.unique {done done' : RunEnd Port Seen} (one : Ends observe seen limit machine done)
    (other : Ends observe seen limit machine done') : done = done' := by
  obtain ⟨count, course, shown⟩ := ends_iff.mp one
  obtain ⟨count', course', shown'⟩ := ends_iff.mp other
  obtain ⟨rfl, result, final⟩ := course.unique course'
  cases done
  cases done'
  simp_all only

omit [CardPort Port] in
theorem eq_mk_unit_iff {done : RunEnd Port Unit} :
    done = ⟨result, final, ()⟩ ↔ (done.result, done.machine) = (result, final) := by
  obtain ⟨_, _, _⟩ := done
  simp

theorem runsTo_iff_ends :
    machine.RunsTo limit result final ↔
      Ends (fun (_ : Unit) _ => ()) () limit machine ⟨result, final, ()⟩ := by
  cases limit with
  | some most =>
    simp only [RunsTo, runLimited, Ends, runObserved?, Option.some.injEq, exists_const,
      eq_mk_unit_iff]
  | none =>
    simp only [RunsTo, run?, Ends, runObserved?, Option.map_eq_some_iff]
    refine exists_congr fun patience => ⟨?_, fun settled => ⟨_, settled, rfl⟩⟩
    rintro ⟨done, settled, same⟩
    rw [settled, eq_mk_unit_iff.mpr same]

theorem runsTo_iff :
    machine.RunsTo limit result final ↔ ∃ count, Course machine.started limit count result final := by
  simp only [runsTo_iff_ends, ends_iff, and_true]

end Cardiac.Machine
