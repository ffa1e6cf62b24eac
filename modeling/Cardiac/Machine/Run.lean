import Cardiac.Machine.Step

/-!
# Runs

A run steps until the machine halts, a step fails or a limit is reached. A limited run is a
recursion on the steps still allowed. A run without a limit is what all large enough limits
agree on: `run?` tries one limit and gives no answer if the machine is still running then.
-/
namespace Cardiac

inductive StopReason where
  | halted
  | inputExhausted
  | cycleLimit
  deriving DecidableEq, Repr

def StopReason.name : StopReason → String
  | .halted => "Halted"
  | .inputExhausted => "InputExhausted"
  | .cycleLimit => "CycleLimit"

structure RunSummary where
  cycles : Nat
  reason : StopReason
  deriving DecidableEq, Repr

/-- The machine after an executed instruction, as a trace shows it. -/
structure Snapshot where
  /-- The first instruction ever executed has number 1. -/
  cycle : UInt64
  /-- Where the instruction was fetched from. -/
  address : UInt32
  instruction : Instruction
  registers : Registers
  memory : Memory
  nextInput : Option Card
  output : Array Card
  deriving DecidableEq

/-- How a run ended, with the machine it left and what its observer collected. -/
structure RunEnd (Port Seen : Type) where
  result : Except Fault RunSummary
  machine : Machine Port
  seen : Seen

/-- What a limited run says about the run without a limit: nothing if the limit ended it. -/
def RunEnd.settled? {Port Seen : Type} (done : RunEnd Port Seen) : Option (RunEnd Port Seen) :=
  match done.result with
  | .ok ⟨_, .cycleLimit⟩ => none
  | _ => some done

namespace Machine

variable {Port : Type} [CardPort Port]

def snapshot (machine : Machine Port) (address : UInt32) (instruction : Instruction) :
    Snapshot where
  cycle := machine.cycles
  address := address
  instruction := instruction
  registers := machine.registers
  memory := machine.memory
  nextInput := CardPort.next? machine.port
  output := CardPort.tray machine.port

/-- Steps while the machine is running, at most `allowed` times, after `executed` instructions.
The observer sees a snapshot of every executed instruction. -/
def continueRun {Seen : Type} (observe : Seen → Snapshot → Seen) :
    (allowed executed : Nat) → Seen → Machine Port → RunEnd Port Seen
  | 0, executed, seen, machine =>
    let reason := if machine.registers.running then .cycleLimit else .halted
    ⟨.ok ⟨executed, reason⟩, machine, seen⟩
  | allowed + 1, executed, seen, machine =>
    if machine.registers.running then
      let address := machine.registers.pc
      match machine.step with
      | (.ok instruction, next) =>
        continueRun observe allowed (executed + 1)
          (observe seen (next.snapshot address instruction)) next
      | (.error .inputExhausted, left) =>
        match left.policy with
        | .reset => ⟨.ok ⟨executed, .inputExhausted⟩, left.reset, seen⟩
        | .abort => ⟨.error .inputExhausted, left, seen⟩
      | (.error fault, left) => ⟨.error fault, left, seen⟩
    else ⟨.ok ⟨executed, .halted⟩, machine, seen⟩

omit [CardPort Port] in
def started (machine : Machine Port) : Machine Port :=
  { machine with registers := { machine.registers with running := true } }

/-- Runs for at most `limit` instructions, folding an observer over the snapshots. -/
def runObserved {Seen : Type} (observe : Seen → Snapshot → Seen) (seen : Seen) (limit : Nat)
    (machine : Machine Port) : RunEnd Port Seen :=
  continueRun observe limit 0 seen machine.started

def runLimited (machine : Machine Port) (limit : Nat) :
    Except Fault RunSummary × Machine Port :=
  let done := machine.runObserved (fun (_ : Unit) _ => ()) () limit
  (done.result, done.machine)

def runTraced (machine : Machine Port) (limit : Nat) : RunEnd Port (Array Snapshot) :=
  machine.runObserved Array.push #[] limit

/-- A run under an optional limit. Without one, `patience` steps are tried. -/
def runObserved? {Seen : Type} (observe : Seen → Snapshot → Seen) (seen : Seen)
    (limit : Option Nat) (patience : Nat) (machine : Machine Port) : Option (RunEnd Port Seen) :=
  match limit with
  | some limit => some (machine.runObserved observe seen limit)
  | none => (machine.runObserved observe seen patience).settled?

/-- The run without a limit, if it ends within `patience` steps. -/
def run? (machine : Machine Port) (patience : Nat) :
    Option (Except Fault RunSummary × Machine Port) :=
  (machine.runObserved (fun (_ : Unit) _ => ()) () patience).settled?.map fun done =>
    (done.result, done.machine)

end Machine
end Cardiac
