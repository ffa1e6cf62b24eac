import Cardiac.Machine.Basic

/-!
# One step

A step fetches the word at the program counter, decodes it and carries it out. A step that fails
returns its fault together with the machine it leaves: the fetch has moved the program counter
on, and an input instruction has taken its card, even if what follows fails.
-/
namespace Cardiac.Machine

variable {Port : Type} [CardPort Port]

/-- The cell in which a jump leaves the jump back. -/
def returnCell : Int := 99

omit [CardPort Port] in
/-- Loads the instruction register and moves the program counter on. -/
def fetch (machine : Machine Port) : Except MemoryError (Machine Port) :=
  match machine.memory.getInt machine.registers.pc.toNat with
  | .ok word =>
    let registers := { machine.registers with ir := Int64.ofInt word }
    .ok { machine with registers := registers.advance }
  | .error error => .error error

omit [CardPort Port] in
def combine (machine : Machine Port) (address : Int) (operation : Accumulator → Int64 → Accumulator) :
    Except Fault Unit × Machine Port :=
  match machine.memory.getInt address with
  | .ok value =>
    let acc := operation machine.registers.acc (Int64.ofInt value)
    (.ok (), { machine with registers := { machine.registers with acc } })
  | .error error => (.error (.memory error), machine)

omit [CardPort Port] in
/-- Takes over the memory that a write leaves. -/
def commit (machine : Machine Port) (written : Except MemoryError Unit × Memory) :
    Except Fault Unit × Machine Port :=
  (written.1.mapError .memory, { machine with memory := written.2 })

omit [CardPort Port] in
@[simp] theorem commit_ok (machine : Machine Port) (memory : Memory) :
    machine.commit (.ok (), memory) = (.ok (), { machine with memory }) := rfl

omit [CardPort Port] in
@[simp] theorem commit_error (machine : Machine Port) (error : MemoryError) (memory : Memory) :
    machine.commit (.error error, memory) = (.error (.memory error), { machine with memory }) := rfl

def execute (machine : Machine Port) (instruction : Instruction) :
    Except Fault Unit × Machine Port :=
  let operand := instruction.operand
  let address : Int := operand.toNat
  match instruction.opcode with
  | .input =>
    match CardPort.read machine.port with
    | (none, port) => (.error .inputExhausted, { machine with port })
    | (some card, port) => { machine with port }.commit (machine.memory.setText address card)
  | .clearAdd => machine.combine address fun _ value => value
  | .add => machine.combine address Accumulator.add
  | .test =>
    if machine.registers.acc < 0 then
      (.ok (), { machine with registers := machine.registers.jump operand })
    else (.ok (), machine)
  | .shift =>
    let acc := Accumulator.shift machine.registers.acc operand
    (.ok (), { machine with registers := { machine.registers with acc } })
  | .output =>
    match machine.memory.getText address with
    | .ok card => (.ok (), { machine with port := CardPort.punch machine.port card })
    | .error error => (.error (.memory error), machine)
  | .store => machine.commit (machine.memory.setInt address machine.registers.acc.toInt)
  | .subtract => machine.combine address Accumulator.subtract
  | .jump =>
    match machine.memory.setInt returnCell (800 + machine.registers.pc.toNat) with
    | (.ok (), memory) =>
      (.ok (), { machine with memory, registers := machine.registers.jump operand })
    | (.error error, memory) => (.error (.memory error), { machine with memory })
  | .halt => (.ok (), { machine with registers := ({} : Registers).jump operand })

def step (machine : Machine Port) : Except Fault Instruction × Machine Port :=
  match machine.fetch with
  | .error error => (.error (.memory error), machine)
  | .ok fetched =>
    match Instruction.decode fetched.registers.ir.toInt with
    | .error error => (.error (.invalidOperation error), fetched)
    | .ok instruction =>
      match fetched.execute instruction with
      | (.error fault, left) => (.error fault, left)
      | (.ok (), done) =>
        (.ok instruction, { done with cycles := done.cycles + 1, last := some instruction })

/-- Steps so often unless a step fails. Every executed instruction is returned with the
registers behind it, followed by the fault, if any, and the machine left. -/
def stepMany : Nat → Machine Port → List (Instruction × Registers) × Option Fault × Machine Port
  | 0, machine => ([], none, machine)
  | count + 1, machine =>
    match machine.step with
    | (.error fault, left) => ([], some fault, left)
    | (.ok instruction, next) =>
      let (executed, fault, last) := next.stepMany count
      ((instruction, next.registers) :: executed, fault, last)

end Cardiac.Machine
