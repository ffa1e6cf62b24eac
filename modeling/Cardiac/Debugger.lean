import Cardiac.Listing
import Cardiac.Machine.Run

/-!
# The debugger

A debugger holds a booted machine and drives it by key presses and clock ticks. A key steps,
starts or pauses the machine, toggles a breakpoint, boots anew or scrolls; a tick steps a machine
that was started, until it stops by itself, reaches a breakpoint or uses up its cycles.
-/
namespace Cardiac

namespace Debugger

inductive Key where
  | char (c : Char)
  | up
  | down
  | enter
  | escape
  /-- Any further key. None of them has a meaning here. -/
  | other
  deriving DecidableEq, Repr

inductive Status where
  | ready
  | executed (address : UInt32) (instruction : Instruction)
  | halted (cycles : UInt64) (next : UInt32)
  | cardsEnded (policy : ExhaustionPolicy)
  | failed (fault : Fault)
  | running
  | paused
  | limitReached (limit : Nat)
  | atBreakpoint (address : UInt32)
  | breakpointSet (address : UInt32)
  | breakpointRemoved (address : UInt32)
  | rebooted
  deriving DecidableEq, Repr

def addressText (address : UInt32) : String := Memory.addressText address.toNat

def Status.message : Status → String
  | ready => "Ready. Press 's' to step, 'r' to run, 'q' to quit."
  | executed address instruction => "PC=" ++ addressText address ++ ": " ++ instruction.text
  | halted cycles next =>
    "Halted after " ++ toString cycles.toNat ++ " cycles, next PC=" ++ addressText next
  | cardsEnded .abort => "End of input deck"
  | cardsEnded .reset => "End of input deck, registers reset"
  | failed fault => "Error: " ++ fault.message
  | running => "Running..."
  | paused => "Paused."
  | limitReached limit => "Cycle limit " ++ toString limit ++ " reached"
  | atBreakpoint address => "Breakpoint at PC=" ++ addressText address
  | breakpointSet address => "Set breakpoint at PC=" ++ addressText address
  | breakpointRemoved address => "Removed breakpoint at PC=" ++ addressText address
  | rebooted => "Reset. Ready."

end Debugger

structure Debugger where
  machine : Machine Deck
  image : CardImage
  /-- Cards that follow the image whenever the machine is booted. -/
  input : List Card
  config : Config
  /-- Addresses in ascending order. -/
  breakpoints : List UInt32 := []
  running : Bool := false
  quit : Bool := false
  status : Debugger.Status := .ready
  /-- The first row of the memory board that is shown. -/
  scroll : Nat := 0
  deriving DecidableEq

namespace Debugger

def bootedMachine (image : CardImage) (input : List Card) (config : Config) : Machine Deck :=
  (Machine.fresh (Deck.ofCards input) config).boot image

def start (image : CardImage) (input : List Card) (config : Config) : Debugger where
  machine := bootedMachine image input config
  image := image
  input := input
  config := config

def pc (debugger : Debugger) : UInt32 := debugger.machine.registers.pc

/-- Steps once. Whatever ends a program also stops the debugger. -/
def step (debugger : Debugger) : Debugger :=
  match debugger.machine.step with
  | (.ok instruction, machine) =>
    if instruction.opcode = .halt then
      { debugger with
        machine, running := false, status := .halted machine.cycles machine.registers.pc }
    else { debugger with machine, status := .executed debugger.pc instruction }
  | (.error .inputExhausted, machine) =>
    match machine.policy with
    | .abort => { debugger with machine, running := false, status := .cardsEnded .abort }
    | .reset =>
      { debugger with machine := machine.reset, running := false, status := .cardsEnded .reset }
  | (.error fault, machine) => { debugger with machine, running := false, status := .failed fault }

def run (debugger : Debugger) : Debugger := { debugger with running := true, status := .running }

/-- The machine may execute no more instructions. -/
def limitReached? (debugger : Debugger) : Option Nat :=
  debugger.config.maxCycles.filter (· ≤ debugger.machine.cycles.toNat)

def checkBreakpoint (debugger : Debugger) : Debugger :=
  if debugger.running && debugger.breakpoints.contains debugger.pc then
    { debugger with running := false, status := .atBreakpoint debugger.pc }
  else debugger

def tick (debugger : Debugger) : Debugger :=
  if debugger.running then
    match debugger.limitReached? with
    | some limit => { debugger with running := false, status := .limitReached limit }
    | none => debugger.step.checkBreakpoint
  else debugger

/-- Ticks while running, at most so often, and counts the ticks. -/
def tickWhileRunning : Nat → Debugger → Nat × Debugger
  | 0, debugger => (0, debugger)
  | most + 1, debugger =>
    if debugger.running then
      let (count, debugger) := tickWhileRunning most debugger.tick
      (count + 1, debugger)
    else (0, debugger)

def toggleBreakpoint (debugger : Debugger) : Debugger :=
  let pc := debugger.pc
  if debugger.breakpoints.contains pc then
    { debugger with
      breakpoints := debugger.breakpoints.filter (· ≠ pc), status := .breakpointRemoved pc }
  else
    { debugger with
      breakpoints :=
        debugger.breakpoints.filter (· < pc) ++ pc :: debugger.breakpoints.filter (pc < ·)
      status := .breakpointSet pc }

/-- Boots a fresh machine. Breakpoints and scroll position stay. -/
def reboot (debugger : Debugger) : Debugger :=
  { debugger with
    machine := bootedMachine debugger.image debugger.input debugger.config
    running := false
    status := .rebooted }

/-- The number of the memory board's last row; a row has ten cells. -/
def lastRow (debugger : Debugger) : Nat := debugger.machine.memory.size / 10

def press (debugger : Debugger) : Key → Debugger
  | .char 'q' => { debugger with quit := true }
  | .char 's' => { debugger with running := false }.step
  | .char 'r' => debugger.run
  | .char 'p' => { debugger with running := false, status := .paused }
  | .char 'b' => debugger.toggleBreakpoint
  | .char 'x' => debugger.reboot
  | .up => { debugger with scroll := debugger.scroll - 1 }
  | .down =>
    if debugger.scroll < debugger.lastRow then { debugger with scroll := debugger.scroll + 1 }
    else debugger
  | _ => debugger

structure ListingRow where
  address : Nat
  text : String
  atCounter : Bool
  deriving DecidableEq, Repr

/-- What stands at an address: the instruction, or three dashes for an empty cell. -/
def cellText (memory : Memory) (address : Nat) : String :=
  match memory.get address with
  | .ok (some word) => word.disassembled
  | _ => "---"

/-- The listing of so many rows around the program counter. Rows, addresses and the size are
counted in 32 bits. -/
def window (debugger : Debugger) (rows : Nat) : List ListingRow :=
  let pc := debugger.pc.toNat
  let last := debugger.machine.memory.size % UInt32.size
  let first := pc - rows % UInt32.size / 2
  (List.range' first (min rows (last + 1 - first))).map fun address =>
    ⟨address, cellText debugger.machine.memory address, address = pc⟩

end Debugger
end Cardiac
