import Cardiac.Machine.Run
import Cardiac.Stored.Record

/-!
# Stored forms

How words, memories, decks, machines, configurations and snapshots are written as JSON, and how
they are read back. A stored memory is checked before it becomes one: the number of its cells
must be one more than its size, and its first cell must not be empty.
-/
namespace Cardiac

open Stored

variable [RecordReader]

namespace Word

def toJson (word : Word) : Json := .integer word.value

def ofJson : Decoder Word := fun json => do
  let value ← integer Text.least64 Text.greatest64 json
  match ofInt value with
  | .ok word => .ok word
  | .error error => .error (.word error)

end Word

/-- A memory as it is stored, before it is checked. -/
structure MemoryRecord where
  size : UInt64
  cells : List (Option Word)
  deriving DecidableEq, Repr

namespace Memory

/-- The memory of a record, if its layout is right. The number of cells that the size asks for is
added up in 64 bits before it is compared, and the comparison comes before the first cell. -/
def ofRecord (record : MemoryRecord) : Except Panic (Except MemoryError Memory) :=
  let layout := MemoryError.layout record.size.toNat record.cells.length
  if record.size = 0 then .ok (.error layout)
  else if countable : record.size.toNat + 1 < UInt64.size then
    if counted : record.cells.length = record.size.toNat + 1 then
      match record.cells.head? with
      | none => .error (.outOfBounds 0 0)
      | some none => .ok (.error layout)
      | some (some _) => .ok (.ok ⟨record.size.toNat, ⟨record.cells.toArray, counted⟩, countable⟩)
    else .ok (.error layout)
  else .error .addOverflow

def cellsToJson (memory : Memory) : Json :=
  .array (memory.cells.toList.map (Json.ofOption Word.toJson))

def toJson (memory : Memory) : Json :=
  .object [("size", .ofNat memory.size), ("cells", memory.cellsToJson)]

def recordForm : Record MemoryRecord :=
  (fun size cells => ⟨UInt64.ofNat size, cells⟩) <$> .required "size" (natural 64)
    <*> .required "cells" (list (optional Word.ofJson))

def ofJson : Decoder Memory := fun json => do
  match ofRecord (← RecordReader.read recordForm json) with
  | .ok (.ok memory) => .ok memory
  | .ok (.error error) => .error (.memory error)
  | .error panic => .error (.stopped panic)

end Memory

namespace Opcode

/-- The mnemonic with one capital. -/
def storedName : Opcode → String
  | input => "Inp"
  | clearAdd => "Cla"
  | add => "Add"
  | test => "Tac"
  | shift => "Sft"
  | output => "Out"
  | store => "Sto"
  | subtract => "Sub"
  | jump => "Jmp"
  | halt => "Hrs"

def ofStoredName? (name : String) : Option Opcode :=
  all.find? fun opcode => opcode.storedName = name

end Opcode

namespace Instruction

def toJson (instruction : Instruction) : Json :=
  .object [("opcode", .text instruction.opcode.storedName),
    ("operand", .ofNat instruction.operand.toNat)]

def ofJson : Decoder Instruction :=
  RecordReader.read <|
    (fun opcode operand => ⟨opcode, UInt8.ofNat operand⟩) <$>
      .required "opcode" (oneOf Opcode.ofStoredName?) <*> .required "operand" (natural 8)

end Instruction

namespace Registers

def toJson (registers : Registers) : Json :=
  .object [("acc", .integer registers.acc.toInt), ("pc", .ofNat registers.pc.toNat),
    ("ir", .integer registers.ir.toInt), ("running", .bool registers.running)]

def ofJson : Decoder Registers :=
  RecordReader.read <|
    (fun acc pc ir running => ⟨Int64.ofInt acc, UInt32.ofNat pc, Int64.ofInt ir, running⟩) <$>
      .required "acc" (integer Text.least64 Text.greatest64) <*> .required "pc" (natural 32) <*>
      .required "ir" (integer Text.least64 Text.greatest64) <*> .required "running" bool

end Registers

namespace Deck

def toJson (deck : Deck) : Json :=
  .object [("input", .array (deck.input.map .text)),
    ("output", .array (deck.output.toList.map .text))]

def ofJson : Decoder Deck :=
  RecordReader.read <|
    (fun input output => ⟨input, output.toArray⟩) <$>
      .required "input" (list text) <*> .required "output" (list text)

end Deck

namespace ExhaustionPolicy

def name : ExhaustionPolicy → String
  | abort => "Abort"
  | reset => "Reset"

def ofName? (name : String) : Option ExhaustionPolicy :=
  [abort, reset].find? fun policy => policy.name = name

end ExhaustionPolicy

namespace Config

def toJson (config : Config) : Json :=
  .object [("memory_size", .ofNat config.memorySize),
    ("on_input_exhausted", .text config.onExhausted.name),
    ("max_cycles", .ofOption Json.ofNat config.maxCycles)]

def ofJson : Decoder Config :=
  RecordReader.read <|
    Config.mk <$> .required "memory_size" (natural 64) <*>
      .required "on_input_exhausted" (oneOf ExhaustionPolicy.ofName?) <*>
      .defaulted "max_cycles" (natural 64)

end Config

namespace Machine

def toJson (machine : Machine Deck) : Json :=
  .object [("regs", machine.registers.toJson), ("mem", machine.memory.toJson),
    ("io", machine.port.toJson), ("policy", .text machine.policy.name),
    ("cycles", .ofNat machine.cycles.toNat),
    ("last_instr", .ofOption Instruction.toJson machine.last)]

def ofJson : Decoder (Machine Deck) :=
  RecordReader.read <|
    (fun registers memory port policy cycles last =>
      ⟨registers, memory, port, policy, UInt64.ofNat cycles, last⟩) <$>
      .required "regs" Registers.ofJson <*> .required "mem" Memory.ofJson <*>
      .required "io" Deck.ofJson <*> .required "policy" (oneOf ExhaustionPolicy.ofName?) <*>
      .required "cycles" (natural 64) <*> .defaulted "last_instr" Instruction.ofJson

end Machine

namespace Snapshot

def toJson (snapshot : Snapshot) : Json :=
  .object [("cycle", .ofNat snapshot.cycle.toNat), ("address", .ofNat snapshot.address.toNat),
    ("instruction", snapshot.instruction.toJson), ("registers", snapshot.registers.toJson),
    ("memory", snapshot.memory.cellsToJson), ("next_input", .ofOption .text snapshot.nextInput),
    ("output", .array (snapshot.output.toList.map .text))]

end Snapshot
end Cardiac
