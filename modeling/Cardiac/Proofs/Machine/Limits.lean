import Cardiac.Proofs.Machine.Course

/-!
# Limits

A run that its limit ends can be taken up again: what it does under a second limit is what it
would have done under the sum of both. A run that has ended in another way has ended for good,
whatever more it were allowed.
-/
namespace Cardiac

/-- The summary of a run together with so many instructions before it. -/
def RunSummary.behind (earlier : Nat) (summary : RunSummary) : RunSummary :=
  { summary with cycles := earlier + summary.cycles }

namespace Machine

variable {Port : Type} [CardPort Port] {machine middle final : Machine Port} {limit : Option Nat}
  {count more : Nat} {result : Except Fault RunSummary}

theorem runsTo_runLimited (machine : Machine Port) (limit : Nat) :
    machine.RunsTo (some limit) (machine.runLimited limit).1 (machine.runLimited limit).2 :=
  rfl

theorem Ending.behind {most : Nat} (ending : Ending (some most) count machine result final)
    (earlier : Nat) :
    Ending (some (earlier + most)) (earlier + count) machine (result.map (.behind earlier))
      final := by
  cases ending with
  | halted stopped within => exact .halted stopped (by simpa using within)
  | cycleLimit running reached =>
    cases reached
    exact .cycleLimit running rfl
  | inputExhausted running within starved policy =>
    exact .inputExhausted running (by simpa using within) starved policy
  | failed running within fails policy => exact .failed running (by simpa using within) fails policy

/-- The course of a run that its limit ends goes on in the run that is started from there. -/
theorem Course.trans {most allowed : Nat}
    (first : Course machine (some most) count (.ok ⟨count, .cycleLimit⟩) middle)
    (second : Course middle.started (some allowed) more result final) :
    Course machine (some (most + allowed)) (count + more) (result.map (.behind most)) final := by
  obtain ⟨passes, ending⟩ := first
  cases ending with
  | cycleLimit running reached =>
    cases reached
    -- the machine is still running, so there is nothing to start
    rw [started_of_isRunning running] at second
    refine ⟨?_, ?_⟩
    · rw [afterSteps_add, Nat.add_comm]
      exact passes.trans second.passes
    · rw [afterSteps_add]
      exact second.ending.behind count

theorem Ending.halted_iff (ending : Ending limit count machine result final) :
    (∃ reported, result = .ok ⟨reported, .halted⟩) ↔ machine.registers.running = false := by
  cases ending with
  | halted stopped => exact iff_of_true ⟨count, rfl⟩ stopped
  | cycleLimit running => exact iff_of_false nofun running.ne_false
  | inputExhausted running => exact iff_of_false nofun running.ne_false
  | failed running => exact iff_of_false nofun running.ne_false

/-- The machine has halted if and only if the last of its steps was a halt. -/
theorem Passes.halted_iff (passes : Passes IsRunning count machine final)
    (running : machine.IsRunning) :
    final.registers.running = false ↔
      ∃ snapshot ∈ (machine.snapshots count).getLast?, snapshot.instruction.opcode = .halt := by
  rw [List.getLast?_eq_getElem?, passes.length_snapshots]
  cases count with
  | zero =>
    cases passes
    exact iff_of_false running.ne_false (by simp [snapshots])
  | succ count =>
    obtain ⟨before, instruction, stepped, shown⟩ := passes.step_of_lt (Nat.lt_succ_self count)
    have flag := (succeeded_of_step stepped).running
    rw [passes.afterSteps_eq] at flag
    rw [Nat.add_sub_cancel, shown, flag]
    have still : (machine.afterSteps count).registers.running = true := before
    simp [snapshot, still]

theorem runLimited_add_of_cycleLimit {limit : Nat}
    (ended : (machine.runLimited limit).1 = .ok ⟨count, .cycleLimit⟩) (more : Nat) :
    let second := (machine.runLimited limit).2.runLimited more
    count = limit ∧
      machine.runLimited (limit + more) = (second.1.map (.behind limit), second.2) := by
  intro second
  obtain ⟨executed, first⟩ := runsTo_iff.mp (machine.runsTo_runLimited limit)
  rw [ended] at first
  obtain ⟨rfl, -⟩ := first.ending.reported
  obtain ⟨further, rest⟩ := runsTo_iff.mp ((machine.runLimited limit).2.runsTo_runLimited more)
  refine ⟨?_, runsTo_iff.mpr ⟨count + further, first.trans rest⟩⟩
  exact (Option.some.inj first.ending.limit_eq).symm

theorem runsTo_of_settled {limit : Nat} {limit' : Option Nat}
    (settled : ∀ count, (machine.runLimited limit).1 ≠ .ok ⟨count, .cycleLimit⟩)
    (allows : ∀ most ∈ limit', limit ≤ most) :
    machine.RunsTo limit' (machine.runLimited limit).1 (machine.runLimited limit).2 := by
  obtain ⟨count, course⟩ := runsTo_iff.mp (machine.runsTo_runLimited limit)
  refine runsTo_iff.mpr ⟨count, course.passes, course.ending.of_limit settled ?_⟩
  intro more _ within most member
  exact Nat.le_trans (within limit rfl) (allows most member)

/-- Limits add up, and only the limit itself keeps a run from being the one without a limit. -/
theorem limits_compose (machine : Machine Port) (limit more : Nat) :
    let first := machine.runLimited limit
    let second := first.2.runLimited more
    let both := machine.runLimited (limit + more)
    (∀ count, first.1 = .ok ⟨count, .cycleLimit⟩ →
      count = limit ∧ both = (second.1.map (.behind limit), second.2)) ∧
    ((∀ count, first.1 ≠ .ok ⟨count, .cycleLimit⟩) →
      both = first ∧ machine.RunsTo none first.1 first.2) ∧
    (∀ count reason, first.1 = .ok ⟨count, reason⟩ →
      count ≤ limit ∧ first.2.cycles = machine.cycles + UInt64.ofNat count) ∧
    ((∃ count, first.1 = .ok ⟨count, .halted⟩) ↔
      ∃ snapshot ∈ (machine.runTraced limit).seen.back?, snapshot.instruction.opcode = .halt) := by
  intro first second both
  obtain ⟨executed, course⟩ := runsTo_iff.mp (machine.runsTo_runLimited limit)
  refine ⟨?_, ?_, ?_, ?_⟩
  · intro count ended
    exact runLimited_add_of_cycleLimit ended more
  · intro settled
    have within : ∀ most ∈ some (limit + more), limit ≤ most := by simp
    have same : both = first := runsTo_of_settled settled within
    exact ⟨same, runsTo_of_settled settled nofun⟩
  · intro count reason ended
    rw [ended] at course
    obtain ⟨rfl, cycles⟩ := course.ending.reported
    exact ⟨course.ending.count_le limit rfl, cycles.trans course.passes.cycles_eq⟩
  · rw [runTraced_eq_of_course course, List.back?_toArray, course.ending.halted_iff]
    exact course.passes.halted_iff (isRunning_started machine)

/-- A card that is read to cell 1 and halts the machine there, in a second run. -/
theorem halted_behind_limit :
    let machine := fresh (Deck.ofCards ["917"]) { memorySize := 1 }
    (machine.runLimited 1).1 = .ok ⟨1, .cycleLimit⟩ ∧
      (machine.runLimited (1 + 1)).1 = .ok ⟨2, .halted⟩ := by
  intro machine
  have first : (machine.runLimited 1).1 = .ok ⟨1, .cycleLimit⟩ := by cbv
  have second : ((machine.runLimited 1).2.runLimited 1).1 = .ok ⟨1, .halted⟩ := by cbv
  obtain ⟨-, both⟩ := (limits_compose machine 1 1).1 1 first
  exact ⟨first, by rw [both, second]; rfl⟩

end Machine
end Cardiac
