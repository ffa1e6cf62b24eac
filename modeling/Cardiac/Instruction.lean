import Cardiac.Word

/-!
# Instructions

An instruction word splits into an opcode, its hundreds, and an operand, the remaining two
digits. The split rounds down, so a negative word has a negative opcode and is no instruction.
-/
namespace Cardiac

inductive Opcode where
  /-- A card is read into the operand's cell. -/
  | input
  /-- The accumulator becomes the operand's cell. -/
  | clearAdd
  /-- The operand's cell is added. -/
  | add
  /-- A jump is taken if the accumulator is negative. -/
  | test
  /-- The accumulator's digits move left, then right. -/
  | shift
  /-- The operand's cell is punched. -/
  | output
  /-- The accumulator goes to the operand's cell. -/
  | store
  /-- The operand's cell is subtracted. -/
  | subtract
  /-- A jump that leaves a jump back in cell 99. -/
  | jump
  /-- The registers are cleared, and the machine stops at the operand. -/
  | halt
  deriving DecidableEq, Repr

namespace Opcode

/-- The opcodes in the order of their digits. -/
def all : List Opcode :=
  [input, clearAdd, add, test, shift, output, store, subtract, jump, halt]

def digit : Opcode → Nat
  | input => 0
  | clearAdd => 1
  | add => 2
  | test => 3
  | shift => 4
  | output => 5
  | store => 6
  | subtract => 7
  | jump => 8
  | halt => 9

def mnemonic : Opcode → String
  | input => "INP"
  | clearAdd => "CLA"
  | add => "ADD"
  | test => "TAC"
  | shift => "SFT"
  | output => "OUT"
  | store => "STO"
  | subtract => "SUB"
  | jump => "JMP"
  | halt => "HRS"

def ofDigit? (digit : Int) : Option Opcode := all.find? fun opcode => (opcode.digit : Int) = digit

/-- Mnemonics are upper case throughout. -/
def ofMnemonic? (name : String) : Option Opcode := all.find? fun opcode => opcode.mnemonic = name

theorem mem_all (opcode : Opcode) : opcode ∈ all := by cases opcode <;> decide

theorem digit_le (opcode : Opcode) : opcode.digit ≤ 9 := by cases opcode <;> decide

@[simp] theorem ofDigit?_digit (opcode : Opcode) : ofDigit? opcode.digit = some opcode := by
  cases opcode <;> decide

@[simp] theorem ofMnemonic?_mnemonic (opcode : Opcode) :
    ofMnemonic? opcode.mnemonic = some opcode := by
  cases opcode <;> decide

end Opcode

/-- An opcode with an operand. Decoding gives operands of two digits; an instruction that was
kept elsewhere may have any operand of eight bits. -/
structure Instruction where
  opcode : Opcode
  operand : UInt8
  deriving DecidableEq, Repr

inductive DecodeError where
  | unknownOpcode (digit : Int)
  deriving DecidableEq, Repr

def DecodeError.message : DecodeError → String
  | .unknownOpcode digit => "opcode " ++ toString digit ++ " not available"

namespace Instruction

/-- The value in eight bits, if it has no more. -/
def byte? (value : Int) : Option UInt8 :=
  if 0 ≤ value ∧ value < UInt8.size then some (UInt8.ofNat value.toNat) else none

/-- Instructions are made with operands of two digits only. -/
def make? (opcode : Opcode) (operand : UInt8) : Option Instruction :=
  if operand < 100 then some ⟨opcode, operand⟩ else none

def text (instruction : Instruction) : String :=
  instruction.opcode.mnemonic ++ " " ++ Text.zeroPadded 2 instruction.operand.toNat

def decode (raw : Int) : Except DecodeError Instruction :=
  match Opcode.ofDigit? (raw / 100) with
  | some opcode => .ok ⟨opcode, UInt8.ofNat (raw % 100).toNat⟩
  | none => .error (.unknownOpcode (raw / 100))

/-- The instruction's word. Of a longer operand the last two digits remain. -/
def encode (instruction : Instruction) : Word where
  value := 100 * instruction.opcode.digit + instruction.operand.toNat % 100
  lower := by omega
  upper := by have := instruction.opcode.digit_le; omega

end Instruction
end Cardiac
