import Cardiac.Proofs.Machine.Outcome

/-!
# What no step looks at

No step looks at the running flag or at the policy, and all that ever happens to them is that a
halt clears the flag. So a machine on which they are replaced steps as the machine itself does,
if the replaced flag is cleared as well when the flag is.
-/
namespace Cardiac

/-- The program counter moves on whatever the running flag is. -/
theorem Registers.advance_withRunning (registers : Registers) (running : Bool) :
    { registers with running }.advance = { registers.advance with running } := by
  by_cases room : registers.pc.toNat + 1 < UInt32.size
  · have alsoRoom : { registers with running }.pc.toNat + 1 < UInt32.size := room
    rw [advance, advance, if_pos room, if_pos alsoRoom]
  · have alsoFull : ¬{ registers with running }.pc.toNat + 1 < UInt32.size := room
    rw [advance, advance, if_neg room, if_neg alsoFull]

namespace Machine

variable {Port : Type}

/-- The machine with its running flag and its policy replaced. -/
def relabelled (flag : Bool → Bool) (policy : ExhaustionPolicy → ExhaustionPolicy)
    (machine : Machine Port) : Machine Port :=
  { machine with
    registers := { machine.registers with running := flag machine.registers.running }
    policy := policy machine.policy }

/-- The machine with its running flag cleared. -/
def stopped (machine : Machine Port) : Machine Port :=
  { machine with registers := { machine.registers with running := false } }

/-- The machine with another policy. -/
def under (policy : ExhaustionPolicy) (machine : Machine Port) : Machine Port :=
  { machine with policy }

variable {flag : Bool → Bool} {policy : ExhaustionPolicy → ExhaustionPolicy}

theorem fetched_relabelled (machine : Machine Port) (word : Word) :
    (machine.relabelled flag policy).fetched word =
      (machine.fetched word).relabelled flag policy := by
  have registers := Registers.advance_withRunning
    { machine.registers with ir := Int64.ofInt word.value } (flag machine.registers.running)
  -- the flag that is replaced behind the fetch is the one before it
  unfold relabelled
  rw [running_fetched]
  exact congrArg (fun registers => { machine with registers, policy := policy machine.policy })
    registers

theorem combine_relabelled (machine : Machine Port) (address : Int)
    (operation : Accumulator → Int64 → Accumulator) :
    (machine.relabelled flag policy).combine address operation =
      ((machine.combine address operation).1,
        (machine.combine address operation).2.relabelled flag policy) := by
  simp only [combine, relabelled]
  cases machine.memory.getInt address <;> rfl

theorem commit_relabelled (machine : Machine Port) (written : Except MemoryError Unit × Memory) :
    (machine.relabelled flag policy).commit written =
      ((machine.commit written).1, (machine.commit written).2.relabelled flag policy) := rfl

section Steps

variable [CardPort Port]

theorem execute_relabelled (cleared : flag false = false) (machine : Machine Port)
    (instruction : Instruction) :
    (machine.relabelled flag policy).execute instruction =
      ((machine.execute instruction).1,
        (machine.execute instruction).2.relabelled flag policy) := by
  obtain ⟨opcode, operand⟩ := instruction
  cases opcode with
  | input =>
    simp only [execute, relabelled]
    cases CardPort.read machine.port with
    | mk card port =>
      cases card with
      | none => rfl
      | some card => exact commit_relabelled { machine with port } _
  | clearAdd =>
    simp only [execute]
    exact combine_relabelled ..
  | add =>
    simp only [execute]
    exact combine_relabelled ..
  | test =>
    have acc : (machine.relabelled flag policy).registers.acc = machine.registers.acc := rfl
    simp only [execute, acc]
    by_cases negative : machine.registers.acc < 0
    · rw [if_pos negative, if_pos negative]
      rfl
    · rw [if_neg negative, if_neg negative]
  | shift => rfl
  | output =>
    simp only [execute, relabelled]
    cases machine.memory.getText operand.toNat <;> rfl
  | store =>
    simp only [execute]
    exact commit_relabelled ..
  | subtract =>
    simp only [execute]
    exact combine_relabelled ..
  | jump =>
    simp only [execute, relabelled]
    rcases machine.memory.setInt returnCell (800 + machine.registers.pc.toNat) with
      ⟨⟨⟩ | ⟨⟩, memory⟩ <;> rfl
  | halt =>
    -- the halt clears the flag, and the replaced flag is to be cleared with it
    simp only [execute, relabelled, Registers.jump, cleared]

variable (flag policy) in
theorem step_relabelled (cleared : flag false = false) (machine : Machine Port) :
    (machine.relabelled flag policy).step =
      (machine.step.1, machine.step.2.relabelled flag policy) := by
  have outcome := outcome_step machine
  generalize machine.step = done at outcome ⊢
  cases outcome with
  | outside out => exact step_of_fetch_error (fetch_of_get_error (Memory.get_of_outside out))
  | empty held => exact step_of_fetch_error (fetch_of_get_none held)
  | unknown held negative =>
    rw [← fetched_relabelled]
    exact step_of_decode_error (fetch_of_get held) (Instruction.decode_of_negative negative)
  | @failed word _ _ _ _ held digits fails =>
    have fetches : (machine.relabelled flag policy).fetch =
        .ok ((machine.relabelled flag policy).fetched word) := fetch_of_get held
    rw [step_of_decode fetches (Instruction.decode_of_eq digits), fetched_relabelled,
      execute_relabelled cleared, fails]
    rfl
  | @done word _ _ _ held digits executed =>
    have fetches : (machine.relabelled flag policy).fetch =
        .ok ((machine.relabelled flag policy).fetched word) := fetch_of_get held
    rw [step_of_decode fetches (Instruction.decode_of_eq digits), fetched_relabelled,
      execute_relabelled cleared, executed]
    rfl

/-- No step looks at the running flag. -/
theorem step_stopped (machine : Machine Port) :
    machine.stopped.step = (machine.step.1, machine.step.2.stopped) :=
  step_relabelled (fun _ => false) id rfl machine

/-- No step looks at the policy. -/
theorem step_under (policy : ExhaustionPolicy) (machine : Machine Port) :
    (machine.under policy).step = (machine.step.1, machine.step.2.under policy) :=
  step_relabelled id (fun _ => policy) rfl machine

end Steps
end Machine
end Cardiac
