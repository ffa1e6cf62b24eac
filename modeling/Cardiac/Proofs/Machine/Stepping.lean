import Cardiac.Machine.Step
import Cardiac.Proofs.Instruction
import Cardiac.Proofs.Memory.Cells

/-! How a step that succeeds is put together from its fetch and its instruction, and sequences
of steps that all succeed. -/
namespace Cardiac

namespace Registers

theorem toNat_pc_advance {registers : Registers}
    (room : registers.pc.toNat + 1 < UInt32.size) :
    registers.advance.pc.toNat = registers.pc.toNat + 1 := by
  rw [advance, if_pos room]
  simp only [UInt32.toNat_add, UInt32.toNat_one]
  exact Nat.mod_eq_of_lt room

theorem advance_of_le {registers : Registers} (short : registers.pc.toNat ≤ 99) :
    registers.advance = { registers with pc := registers.pc + 1 } := by
  have room : registers.pc.toNat + 1 < UInt32.size := by
    simp only [UInt32.size]
    omega
  exact if_pos room

end Registers

namespace Machine

variable {Port : Type}

/-- The machine behind the fetch of a word. -/
def fetched (machine : Machine Port) (word : Word) : Machine Port :=
  { machine with registers := { machine.registers with ir := Int64.ofInt word.value }.advance }

/-- The machine with one more instruction counted and remembered as the last one. -/
def counted (machine : Machine Port) (instruction : Instruction) : Machine Port :=
  { machine with cycles := machine.cycles + 1, last := some instruction }

theorem toInt_ir_fetched (machine : Machine Port) (word : Word) :
    (machine.fetched word).registers.ir.toInt = word.value := by
  -- whether or not the program counter moves, the register holds the word
  simp only [fetched, Registers.advance]
  split <;> exact word.toInt_ofInt_value

theorem fetch_of_get {machine : Machine Port} {word : Word}
    (held : machine.memory.get machine.registers.pc.toNat = .ok (some word)) :
    machine.fetch = .ok (machine.fetched word) := by
  rw [fetch, Memory.getInt_of_get held]
  rfl

section Steps

variable [CardPort Port]

/-- What a step makes of its carried out instruction: only one that succeeds is counted. -/
def concluded (instruction : Instruction) :
    Except Fault Unit × Machine Port → Except Fault Instruction × Machine Port
  | (.error fault, left) => (.error fault, left)
  | (.ok (), done) => (.ok instruction, done.counted instruction)

theorem step_of_fetch_error {machine : Machine Port} {error : MemoryError}
    (fails : machine.fetch = .error error) : machine.step = (.error (.memory error), machine) := by
  simp only [step, fails]

theorem step_of_decode_error {machine : Machine Port} {word : Word} {error : DecodeError}
    (fetches : machine.fetch = .ok (machine.fetched word))
    (unknown : Instruction.decode word.value = .error error) :
    machine.step = (.error (.invalidOperation error), machine.fetched word) := by
  simp only [step, fetches, toInt_ir_fetched, unknown]

theorem step_of_decode {machine : Machine Port} {word : Word} {instruction : Instruction}
    (fetches : machine.fetch = .ok (machine.fetched word))
    (decoded : Instruction.decode word.value = .ok instruction) :
    machine.step = concluded instruction ((machine.fetched word).execute instruction) := by
  simp only [step, fetches, toInt_ir_fetched, decoded]
  rfl

theorem step_of_execute {machine done : Machine Port} {word : Word} {instruction : Instruction}
    (held : machine.memory.get machine.registers.pc.toNat = .ok (some word))
    (decoded : Instruction.decode word.value = .ok instruction)
    (executed : (machine.fetched word).execute instruction = (.ok (), done)) :
    machine.step = (.ok instruction, done.counted instruction) := by
  rw [step_of_decode (fetch_of_get held) decoded, executed, concluded]

theorem execute_input {machine : Machine Port} {port : Port} {operand : UInt8} {card : Card}
    {word : Word} (waiting : CardPort.read machine.port = (some card, port))
    (parsed : Word.parse card = .ok word) (inside : machine.memory.Inside operand.toNat) :
    machine.execute ⟨.input, operand⟩ =
      (.ok (), { machine with port, memory := machine.memory.put operand.toNat word }) := by
  simp only [execute, waiting, Memory.setText, parsed, Memory.setReading_of_inside inside word,
    commit_ok]

/-- A jump leaves 800 and the program counter in cell 99, if that is a word. -/
theorem execute_jump {machine : Machine Port} {operand : UInt8} {word : Word}
    (inside : machine.memory.Inside returnCell)
    (back : word.value = 800 + machine.registers.pc.toNat) :
    machine.execute ⟨.jump, operand⟩ =
      (.ok (), { machine with
        memory := machine.memory.put returnCell word
        registers := machine.registers.jump operand }) := by
  simp only [execute, Memory.setInt, ← back, Word.ofInt_value, Memory.setReading_of_inside inside]

/-- Steps that all succeed, each from a machine with the property. -/
inductive Passes (property : Machine Port → Prop) : Nat → Machine Port → Machine Port → Prop where
  | done (machine : Machine Port) : Passes property 0 machine machine
  | next {count : Nat} {machine middle final : Machine Port} {instruction : Instruction} :
      property machine → machine.step = (.ok instruction, middle) →
      Passes property count middle final → Passes property (count + 1) machine final

namespace Passes

variable {property : Machine Port → Prop} {count more : Nat} {machine middle final : Machine Port}

theorem trans (first : Passes property count machine middle)
    (second : Passes property more middle final) :
    Passes property (more + count) machine final := by
  induction first with
  | done => exact second
  | next here stepped _ ih => exact .next here stepped (ih second)

/-- The machine that the passage reaches is the one that stepping reaches. -/
theorem stepMany_eq (passes : Passes property count machine final) :
    (machine.stepMany count).2 = (none, final) := by
  induction passes with
  | done => rfl
  | next _ stepped _ ih => simp only [stepMany, stepped, ih]

/-- Every machine on the way has the property. -/
theorem property_of_lt (passes : Passes property count machine final) {earlier : Nat}
    (before : earlier < count) :
    ∃ passed, (machine.stepMany earlier).2 = (none, passed) ∧ property passed := by
  -- the first machine is the one behind no steps, and the others belong to the shorter passage
  induction passes generalizing earlier with
  | done => omega
  | next here stepped _ ih =>
    cases earlier with
    | zero => exact ⟨_, rfl, here⟩
    | succ earlier =>
      obtain ⟨passed, reached, has⟩ := ih (Nat.lt_of_succ_lt_succ before)
      exact ⟨passed, by simp only [stepMany, stepped, reached], has⟩

end Passes

/-- Steps that all succeed take the machine to the target, and only the last of them gets there. -/
def FirstReaches (machine : Machine Port) (target : Nat) (arrived : Machine Port) : Prop :=
  ∃ count, (machine.stepMany count).2 = (none, arrived) ∧ arrived.registers.pc.toNat = target ∧
    ∀ earlier < count, ∃ passed, (machine.stepMany earlier).2 = (none, passed) ∧
      passed.registers.pc.toNat ≠ target

theorem Passes.firstReaches {property : Machine Port → Prop} {count target : Nat}
    {machine arrived : Machine Port} (passes : Passes property count machine arrived)
    (away : ∀ passed, property passed → passed.registers.pc.toNat ≠ target)
    (there : arrived.registers.pc.toNat = target) : FirstReaches machine target arrived := by
  refine ⟨count, passes.stepMany_eq, there, ?_⟩
  intro earlier before
  obtain ⟨passed, reached, has⟩ := passes.property_of_lt before
  exact ⟨passed, reached, away passed has⟩

end Steps
end Machine
end Cardiac
