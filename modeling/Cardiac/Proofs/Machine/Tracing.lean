import Cardiac.Proofs.Machine.Course

/-!
# Traces

A traced run is the run that nobody observes, and its trace has one snapshot for every
instruction executed. Each snapshot names the instruction that was in memory when the one before
it was taken, even if the instruction has overwritten its own cell since.
-/
namespace Cardiac

/-- The instruction shown is the word that the memory holds at the address shown. -/
def Snapshot.DecodedFrom (snapshot : Snapshot) (memory : Memory) : Prop :=
  ∃ word : Word, memory.get snapshot.address.toNat = .ok (some word) ∧
    Instruction.decode word.value = .ok snapshot.instruction

namespace Machine

/-- The snapshots show the instructions that the machine executes one after the other. -/
structure Faithful (machine : Machine Deck) (seen : Array Snapshot) : Prop where
  executed : ∀ i snapshot, seen[i]? = some snapshot →
    (machine.afterSteps i).step = (.ok snapshot.instruction, machine.afterSteps (i + 1))
  /-- The cycles are numbered on from those of the machine, as far as 64 bits count. -/
  cycle : ∀ i snapshot, seen[i]? = some snapshot →
    machine.cycles.toNat + (i + 1) < UInt64.size →
    snapshot.cycle.toNat = machine.cycles.toNat + (i + 1)
  first : ∀ snapshot, seen[0]? = some snapshot →
    snapshot.address = machine.registers.pc ∧ snapshot.DecodedFrom machine.memory
  next : ∀ i previous snapshot, seen[i]? = some previous → seen[i + 1]? = some snapshot →
    snapshot.address = previous.registers.pc ∧ snapshot.DecodedFrom previous.memory
  state : ∀ i snapshot, seen[i]? = some snapshot →
    let reached := machine.afterSteps (i + 1)
    snapshot.registers = reached.registers ∧ snapshot.memory = reached.memory ∧
      snapshot.nextInput = reached.port.input.head? ∧ snapshot.output = reached.port.output

section Steps

variable {Port : Type} [CardPort Port]

/-- What a step has executed is what its program counter has pointed to. -/
theorem held_of_step {machine next : Machine Port} {instruction : Instruction}
    (stepped : machine.step = (.ok instruction, next)) :
    ∃ word : Word, machine.memory.get machine.registers.pc.toNat = .ok (some word) ∧
      Instruction.decode word.value = .ok instruction :=
  exists_get_of_pending? (pending?_of_step (by rw [stepped]))

theorem Passes.of_getElem?_snapshots {property : Machine Port → Prop} {count i : Nat}
    {machine final : Machine Port} {snapshot : Snapshot}
    (passes : Passes property count machine final)
    (shown : (machine.snapshots count)[i]? = some snapshot) :
    i < count ∧
      (machine.afterSteps i).step = (.ok snapshot.instruction, machine.afterSteps (i + 1)) ∧
      snapshot = (machine.afterSteps (i + 1)).snapshot (machine.afterSteps i).registers.pc
        snapshot.instruction := by
  obtain ⟨before, -⟩ := List.getElem?_eq_some_iff.mp shown
  rw [passes.length_snapshots] at before
  obtain ⟨-, instruction, stepped, same⟩ := passes.step_of_lt before
  rw [shown, Option.some.injEq] at same
  subst same
  exact ⟨before, stepped, rfl⟩

end Steps

theorem Passes.faithful {property : Machine Deck → Prop} {count : Nat}
    {machine final : Machine Deck} (passes : Passes property count machine final) :
    Faithful machine (machine.snapshots count).toArray := by
  -- each snapshot is taken behind its step, of the machine that the step has left
  have taken (i : Nat) (snapshot : Snapshot)
      (shown : (machine.snapshots count).toArray[i]? = some snapshot) :=
    passes.of_getElem?_snapshots (List.getElem?_toArray.symm.trans shown)
  have fetched (i : Nat) (snapshot : Snapshot)
      (shown : (machine.snapshots count).toArray[i]? = some snapshot) :
      snapshot.address = (machine.afterSteps i).registers.pc ∧
        snapshot.DecodedFrom (machine.afterSteps i).memory := by
    obtain ⟨-, stepped, same⟩ := taken i snapshot shown
    have address : snapshot.address = (machine.afterSteps i).registers.pc :=
      congrArg Snapshot.address same
    rw [Snapshot.DecodedFrom, address]
    exact ⟨rfl, held_of_step stepped⟩
  refine ⟨?_, ?_, fetched 0, ?_, ?_⟩
  · intro i snapshot shown
    exact (taken i snapshot shown).2.1
  · intro i snapshot shown room
    obtain ⟨before, -, same⟩ := taken i snapshot shown
    have numbered : snapshot.cycle = machine.cycles + UInt64.ofNat (i + 1) :=
      (congrArg Snapshot.cycle same).trans (passes.take before).cycles_eq
    rw [numbered, UInt64.toNat_add, UInt64.toNat_ofNat', Nat.add_mod_mod]
    exact Nat.mod_eq_of_lt room
  · intro i previous snapshot before shown
    -- the machine that the previous snapshot shows is the one that the step begins with
    obtain ⟨-, -, same⟩ := taken i previous before
    rw [same]
    exact fetched (i + 1) snapshot shown
  · intro i snapshot shown
    obtain ⟨-, -, same⟩ := taken i snapshot shown
    rw [same]
    exact ⟨rfl, rfl, rfl, rfl⟩

/-- Tracing a run changes nothing about it, and the trace shows every instruction executed, each
once, and no step that fails. -/
theorem traces_show_runs {machine final : Machine Deck} {limit : Option Nat}
    {result : Except Fault RunSummary} (ends : machine.RunsTo limit result final) :
    ∃ seen : Array Snapshot,
      Ends Array.push #[] limit machine ⟨result, final, seen⟩ ∧
      Faithful machine.started seen ∧
      Ending limit seen.size (machine.started.afterSteps seen.size) result final ∧
      ∀ count reason, result = .ok ⟨count, reason⟩ → count = seen.size := by
  obtain ⟨executed, course⟩ := runsTo_iff.mp ends
  have size : (machine.started.snapshots executed).toArray.size = executed :=
    course.passes.length_snapshots
  refine ⟨(machine.started.snapshots executed).toArray, ?_, course.passes.faithful, ?_, ?_⟩
  · exact ends_iff.mpr ⟨executed, course, (foldl_push_snapshots ..).symm⟩
  · rw [size]
    exact course.ending
  · intro count reason ended
    rw [size]
    subst ended
    exact course.ending.reported.1

/-- The second of two instructions has been read from a card by the first. -/
theorem trace_shows_read_instruction :
    let machine := fresh (Deck.ofCards ["917"]) { memorySize := 1 }
    let final := (machine.runLimited 2).2
    machine.RunsTo none (.ok ⟨2, .halted⟩) final ∧
      ∃ seen : Array Snapshot, Faithful machine.started seen ∧ seen.size = 2 := by
  intro machine final
  have ends : machine.RunsTo none (.ok ⟨2, .halted⟩) final := ⟨2, by decide +kernel⟩
  obtain ⟨seen, -, faithful, -, size⟩ := traces_show_runs ends
  exact ⟨ends, seen, faithful, (size 2 .halted rfl).symm⟩

end Machine
end Cardiac
