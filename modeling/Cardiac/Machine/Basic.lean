import Cardiac.Accumulator
import Cardiac.CardImage
import Cardiac.Config
import Cardiac.Instruction

/-!
# The machine

Registers, a memory and a card port. The accumulator and the instruction register are 64 bits
wide, the program counter 32 and the cycle counter 64. Two ways of loading a program are here:
`boot` queues its cards for the loader that starts in cell 0, `load` writes it to memory.
-/
namespace Cardiac

structure Registers where
  acc : Accumulator := 0
  pc : UInt32 := 0
  ir : Int64 := 0
  running : Bool := false
  deriving DecidableEq, Repr

namespace Registers

/-- The program counter stays at its greatest value once it is there. -/
def advance (registers : Registers) : Registers :=
  if registers.pc.toNat + 1 < UInt32.size then { registers with pc := registers.pc + 1 } else registers

def jump (registers : Registers) (address : UInt8) : Registers :=
  { registers with pc := address.toUInt32 }

def summary (registers : Registers) : String :=
  "Registers \x7b acc: " ++ toString registers.acc.toInt ++ ", pc: " ++ toString registers.pc.toNat ++
    ", ir: " ++ toString registers.ir.toInt ++ ", running: " ++ toString registers.running ++ " \x7d"

end Registers

structure Machine (Port : Type) where
  registers : Registers
  memory : Memory
  port : Port
  policy : ExhaustionPolicy
  cycles : UInt64
  last : Option Instruction
  deriving DecidableEq

inductive Fault where
  | memory (error : MemoryError)
  | invalidOperation (error : DecodeError)
  | inputExhausted
  deriving DecidableEq, Repr

def Fault.message : Fault → String
  | .memory error => "memory error: " ++ error.message
  | .invalidOperation error => "invalid operation: " ++ error.message
  | .inputExhausted => "end of input"

namespace Machine

variable {Port : Type}

def fresh (port : Port) (config : Config) : Machine Port where
  registers := {}
  memory := Memory.ofSize config.memorySize
  port := port
  policy := config.onExhausted
  cycles := 0
  last := none

/-- Clears the registers and forgets the last instruction. Memory and cards stay. -/
def reset (machine : Machine Port) : Machine Port :=
  { machine with registers := {}, last := none }

/-- Puts the image's cards in front of the waiting ones and starts at the loader in cell 0. -/
def boot (machine : Machine Deck) (image : CardImage) : Machine Deck :=
  { machine with
    port := machine.port.putInFront image.cards
    registers := { machine.registers with pc := 0 } }

/-- Writes the image to memory and starts at its jump in cell 2. Pairs before one that fails
stay written. -/
def load (machine : Machine Port) (image : CardImage) :
    Except MemoryError Unit × Machine Port :=
  match machine.memory.write image.pairs with
  | (.ok (), memory) =>
    (.ok (), { machine with memory, registers := { machine.registers with pc := 2 } })
  | (.error error, memory) => (.error error, { machine with memory })

def summary (machine : Machine Port) : String :=
  "Cpu \x7b cycles: " ++ toString machine.cycles.toNat ++ ", regs: " ++ machine.registers.summary ++
    ", mem: " ++ machine.memory.summary ++ " \x7d"

end Machine
end Cardiac
