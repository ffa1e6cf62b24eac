import Cardiac.Machine.Run

/-!
# Steps under the exhaustion policy

A run and a debugger look at the policy each by itself when the cards have run out. What becomes of
the machine is the same for both, and is put down here as one step.
-/
namespace Cardiac.Machine

variable {Port : Type} [CardPort Port] {machine left next : Machine Port}

/-- A step under the exhaustion policy: if the cards run out, the reset policy clears the
registers. -/
def stepWithPolicy (machine : Machine Port) : Except Fault Instruction × Machine Port :=
  match machine.step with
  | (.error .inputExhausted, left) =>
    match left.policy with
    | .reset => (.error .inputExhausted, left.reset)
    | .abort => (.error .inputExhausted, left)
  | done => done

theorem stepWithPolicy_of_ok {instruction : Instruction}
    (stepped : machine.step = (.ok instruction, next)) :
    machine.stepWithPolicy = (.ok instruction, next) := by
  simp only [stepWithPolicy, stepped]

/-- What a failed step leaves, and what the policy makes of it. -/
inductive LeftUnderPolicy : Fault → Machine Port → Machine Port → Prop where
  | reset {left : Machine Port} (policy : left.policy = .reset) :
      LeftUnderPolicy .inputExhausted left left.reset
  | abort {left : Machine Port} (policy : left.policy = .abort) :
      LeftUnderPolicy .inputExhausted left left
  | memory {left : Machine Port} (error : MemoryError) : LeftUnderPolicy (.memory error) left left
  | invalidOperation {left : Machine Port} (error : DecodeError) :
      LeftUnderPolicy (.invalidOperation error) left left

theorem step_of_stepWithPolicy_ok {instruction : Instruction}
    (stepped : machine.stepWithPolicy = (.ok instruction, next)) :
    machine.step = (.ok instruction, next) := by
  unfold stepWithPolicy at stepped
  split at stepped
  · split at stepped <;> cases stepped
  · exact stepped

theorem exists_step_of_stepWithPolicy_error {fault : Fault}
    (stepped : machine.stepWithPolicy = (.error fault, left)) :
    ∃ first, machine.step = (.error fault, first) ∧ LeftUnderPolicy fault first left := by
  unfold stepWithPolicy at stepped
  split at stepped
  next first fails =>
    split at stepped
    next policy =>
      cases stepped
      exact ⟨first, fails, .reset policy⟩
    next policy =>
      cases stepped
      exact ⟨_, fails, .abort policy⟩
  next other =>
    cases fault with
    | inputExhausted => exact absurd stepped (other left)
    | memory error => exact ⟨left, stepped, .memory error⟩
    | invalidOperation error => exact ⟨left, stepped, .invalidOperation error⟩

end Cardiac.Machine
