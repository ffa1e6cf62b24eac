import Cardiac.Proofs.Machine.Policy
import Cardiac.Proofs.Machine.Relabelling

/-!
# The running flag

Only a halt touches the running flag, by clearing it, and no step looks at it. So a machine whose
flag is cleared steps like the machine itself. Only a run looks at the flag, before each step.
-/
namespace Cardiac

namespace Machine

variable {Port : Type} [CardPort Port]

theorem stepWithPolicy_stopped (machine : Machine Port) :
    machine.stopped.stepWithPolicy =
      (machine.stepWithPolicy.1, machine.stepWithPolicy.2.stopped) := by
  rw [stepWithPolicy, stepWithPolicy, step_stopped]
  cases machine.step with
  | mk result left =>
    cases result with
    | ok instruction => rfl
    | error fault =>
      cases fault with
      | inputExhausted =>
        -- the reset clears the flag of either machine
        have same : left.stopped.policy = left.policy := rfl
        simp only [same]
        cases left.policy <;> rfl
      | memory error => rfl
      | invalidOperation error => rfl

/-- What a step that succeeds has made of everything but registers, memory and cards. -/
structure Succeeded (machine : Machine Port) (instruction : Instruction) (next : Machine Port) :
    Prop where
  cycles : next.cycles = machine.cycles + 1
  last : next.last = some instruction
  policy : next.policy = machine.policy
  running : next.registers.running =
    if instruction.opcode = .halt then false else machine.registers.running

theorem Effect.succeeded {machine left : Machine Port} {instruction : Instruction}
    (effect : Effect machine instruction left) :
    Succeeded machine instruction (left.counted instruction) := by
  cases effect <;> exact ⟨rfl, rfl, rfl, rfl⟩

theorem succeeded_of_step {machine next : Machine Port} {instruction : Instruction}
    (stepped : machine.step = (.ok instruction, next)) : Succeeded machine instruction next := by
  have outcome := outcome_step machine
  rw [stepped] at outcome
  cases outcome with
  | @done word opcode operand left held digits executed =>
    obtain ⟨cycles, last, policy, running⟩ := (effect_of_execute executed).succeeded
    rw [running_fetched] at running
    exact ⟨cycles, last, policy, running⟩

theorem succeeded_of_stepWithPolicy {machine next : Machine Port} {instruction : Instruction}
    (stepped : machine.stepWithPolicy = (.ok instruction, next)) :
    Succeeded machine instruction next :=
  succeeded_of_step (step_of_stepWithPolicy_ok stepped)

/-- What a step that fails leaves alone. -/
structure Failed (machine left : Machine Port) : Prop where
  memory : left.memory = machine.memory
  policy : left.policy = machine.policy
  cycles : left.cycles = machine.cycles
  last : left.last = machine.last

theorem failed_of_step {machine left : Machine Port} {fault : Fault}
    (fails : machine.step = (.error fault, left)) : Failed machine left := by
  have outcome := outcome_step machine
  rw [fails] at outcome
  cases outcome with
  | outside => exact ⟨rfl, rfl, rfl, rfl⟩
  | empty => exact ⟨rfl, rfl, rfl, rfl⟩
  | unknown => exact ⟨rfl, rfl, rfl, rfl⟩
  | failed _ _ failed =>
    -- the instruction has taken a card at most
    rw [execute_error failed]
    exact ⟨rfl, rfl, rfl, rfl⟩

section Runs

variable {Seen : Type} {observe : Seen → Snapshot → Seen} {allowed executed : Nat} {seen : Seen}
  {machine : Machine Port}

/-- How a run ends whose step has failed, with the machine left. -/
def endOfFault (executed : Nat) (left : Machine Port) : Fault → Except Fault RunSummary
  | .inputExhausted =>
    match left.policy with
    | .reset => .ok ⟨executed, .inputExhausted⟩
    | .abort => .error .inputExhausted
  | fault => .error fault

theorem continueRun_of_not_running (stopped : machine.registers.running = false) :
    continueRun observe allowed executed seen machine =
      ⟨.ok ⟨executed, .halted⟩, machine, seen⟩ := by
  cases allowed <;> simp only [continueRun, stopped, Bool.false_eq_true, if_false]

theorem continueRun_of_ok {next : Machine Port} {instruction : Instruction}
    (running : machine.registers.running = true)
    (stepped : machine.stepWithPolicy = (.ok instruction, next)) :
    continueRun observe (allowed + 1) executed seen machine =
      continueRun observe allowed (executed + 1)
        (observe seen (next.snapshot machine.registers.pc instruction)) next := by
  simp only [continueRun, running, if_true, step_of_stepWithPolicy_ok stepped]

theorem continueRun_of_error {left : Machine Port} {fault : Fault}
    (running : machine.registers.running = true)
    (stepped : machine.stepWithPolicy = (.error fault, left)) :
    continueRun observe (allowed + 1) executed seen machine =
      ⟨endOfFault executed left fault, left, seen⟩ := by
  obtain ⟨first, fails, leftOver⟩ := exists_step_of_stepWithPolicy_error stepped
  simp only [continueRun, running, if_true, fails]
  cases leftOver with
  | reset policy =>
    have kept : first.reset.policy = .reset := policy
    simp only [endOfFault, policy, kept]
  | abort policy => simp only [endOfFault, policy]
  | memory error => rfl
  | invalidOperation error => rfl

end Runs
end Machine
end Cardiac
