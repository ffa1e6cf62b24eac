import Cardiac.Proofs.Instruction
import Cardiac.Proofs.Memory.Growth
import Cardiac.Proofs.Stored.Records
import Cardiac.Stored.Forms

/-!
# Stored forms read back

Every stored form is read back as the value that it was written for. For a memory this is so
because it is well-formed: then its record passes the check on reading, and all that passes the
check is well-formed.
-/
namespace Cardiac

open Stored Stored.Record

theorem Stored.integer_int64 (value : Int64) :
    integer Text.least64 Text.greatest64 (.integer value.toInt) = .ok value.toInt :=
  integer_of_between value.le_toInt (Int.le_of_lt_add_one value.toInt_lt)

namespace Word

theorem toJson_ne_null (word : Word) : word.toJson ≠ .null := nofun

theorem ofJson_toJson (word : Word) : ofJson word.toJson = .ok word := by
  have lower := word.lower
  have upper := word.upper
  have read : integer Text.least64 Text.greatest64 (.integer word.value) = .ok word.value := by
    refine integer_of_between ?_ ?_
    · simp only [Text.least64]
      omega
    · simp only [Text.greatest64]
      omega
  unfold ofJson toJson
  rw [read, ok_bind, ofInt_value]

end Word

namespace Instruction

theorem toJson_ne_null (instruction : Instruction) : instruction.toJson ≠ .null := nofun

variable [RecordReader] [LawfulRecordReader]

theorem ofJson_toJson (instruction : Instruction) :
    ofJson instruction.toJson = .ok instruction := by
  have named : Opcode.ofStoredName? instruction.opcode.storedName = some instruction.opcode := by
    cases instruction.opcode <;> decide
  have opcode := reads_required "opcode" (oneOf_text named)
  have operand := reads_required "operand" (natural_of_lt instruction.operand.toNat_lt)
  refine (LawfulRecordReader.read_object ((opcode.map _).seq operand) (by simp)).trans ?_
  rw [UInt8.ofNat_toNat]

end Instruction

namespace Registers

variable [RecordReader] [LawfulRecordReader]

theorem ofJson_toJson (registers : Registers) : ofJson registers.toJson = .ok registers := by
  have acc := reads_required "acc" (integer_int64 registers.acc)
  have pc := reads_required "pc" (natural_of_lt registers.pc.toNat_lt)
  have ir := reads_required "ir" (integer_int64 registers.ir)
  have running := reads_required "running" (show Stored.bool (.bool registers.running) = _ from rfl)
  refine (LawfulRecordReader.read_object ((((acc.map _).seq pc).seq ir).seq running) (by simp)).trans ?_
  rw [Int64.ofInt_toInt, UInt32.ofNat_toNat, Int64.ofInt_toInt]

end Registers

namespace Deck

variable [RecordReader] [LawfulRecordReader]

theorem ofJson_toJson (deck : Deck) : ofJson deck.toJson = .ok deck := by
  have card (card : Card) : text (.text card) = .ok card := rfl
  have input := reads_required "input" (list_map card deck.input)
  have output := reads_required "output" (list_map card deck.output.toList)
  exact LawfulRecordReader.read_object ((input.map _).seq output) (by simp)

end Deck

theorem ExhaustionPolicy.ofName?_name (policy : ExhaustionPolicy) :
    ofName? policy.name = some policy := by
  cases policy <;> decide

namespace Memory

/-- The record that a memory is stored as. -/
def record (memory : Memory) : MemoryRecord := ⟨UInt64.ofNat memory.size, memory.cells.toList⟩

/-- The number of cells says what the size is. -/
theorem eq_of_cells {first second : Memory}
    (cells : first.cells.toArray = second.cells.toArray) : first = second := by
  obtain ⟨size, ⟨array, counted⟩, countable⟩ := first
  obtain ⟨_, ⟨_, countedToo⟩, _⟩ := second
  -- one array, of which either size is known to be one less
  simp only at cells
  subst cells
  have sizes := counted.symm.trans countedToo
  rw [Nat.add_right_cancel_iff] at sizes
  subst sizes
  rfl

theorem get_zero_eq_iff {memory : Memory} {cell : Option Word} :
    memory.get 0 = .ok cell ↔ memory.cells.toList.head? = some cell := by
  have inside : memory.Inside 0 := by
    unfold Inside
    omega
  rw [get_of_inside inside]
  simp [List.head?_eq_getElem?]

/-- Accepted are the records of well-formed memories, each as the memory that it is of. -/
theorem ofRecord_eq_ok_iff {record : MemoryRecord} {memory : Memory} :
    ofRecord record = .ok (.ok memory) ↔ memory.WellFormed ∧ memory.record = record := by
  constructor
  · intro accepted
    simp only [ofRecord] at accepted
    split at accepted
    · cases accepted
    next positive =>
      split at accepted
      next countable =>
        split at accepted
        next counted =>
          split at accepted
          · cases accepted
          · cases accepted
          next word first =>
            cases accepted
            refine ⟨⟨?_, word, get_zero_eq_iff.mpr first⟩, ?_⟩
            · exact Nat.pos_of_ne_zero fun zero => positive (UInt64.toNat_inj.mp zero)
            · simp [Memory.record]
        · cases accepted
      · cases accepted
  · rintro ⟨⟨positive, word, first⟩, rfl⟩
    -- the size is not cut off by 64 bits, so all the checks pass
    have size : (UInt64.ofNat memory.size).toNat = memory.size :=
      UInt64.toNat_ofNat_of_lt' (Nat.lt_of_succ_lt memory.countable)
    have ordinary : UInt64.ofNat memory.size ≠ 0 := by
      intro zero
      rw [zero] at size
      exact Nat.ne_of_lt positive size
    simp only [ofRecord, Memory.record, ordinary, size, get_zero_eq_iff.mp first, memory.countable,
      Vector.length_toList, if_false, dif_pos]
    exact congrArg (Except.ok ∘ Except.ok) (eq_of_cells rfl)

variable [RecordReader] [LawfulRecordReader]

theorem read_toJson (memory : Memory) :
    RecordReader.read recordForm memory.toJson = .ok memory.record := by
  have countable : memory.size < 2 ^ 64 := Nat.lt_of_succ_lt memory.countable
  have size := reads_required "size" (natural_of_lt countable)
  have cells := reads_required "cells"
    (list_map (optional_ofOption Word.ofJson_toJson Word.toJson_ne_null) memory.cells.toList)
  exact LawfulRecordReader.read_object ((size.map _).seq cells) (by simp)

theorem ofJson_toJson {memory : Memory} (wellFormed : memory.WellFormed) :
    ofJson memory.toJson = .ok memory := by
  have accepted := ofRecord_eq_ok_iff.mpr ⟨wellFormed, rfl⟩
  unfold ofJson
  rw [read_toJson, ok_bind, accepted]

omit [LawfulRecordReader] in
theorem wellFormed_of_ofJson {json : Json} {memory : Memory}
    (accepted : ofJson json = .ok memory) : memory.WellFormed := by
  obtain ⟨record, -, built⟩ := bind_eq_ok_iff.mp accepted
  split at built
  next passed =>
    cases built
    exact (ofRecord_eq_ok_iff.mp passed).1
  · cases built
  · cases built

end Memory

namespace Machine

variable [RecordReader] [LawfulRecordReader]

/-- A machine with a well-formed memory is read back, whatever else it holds. -/
theorem ofJson_toJson {machine : Machine Deck} (wellFormed : machine.memory.WellFormed) :
    ofJson machine.toJson = .ok machine := by
  have registers := reads_required "regs" (Registers.ofJson_toJson machine.registers)
  have memory := reads_required "mem" (Memory.ofJson_toJson wellFormed)
  have deck := reads_required "io" (Deck.ofJson_toJson machine.port)
  have policy := reads_required "policy" (oneOf_text machine.policy.ofName?_name)
  have cycles := reads_required "cycles" (natural_of_lt machine.cycles.toNat_lt)
  have last := reads_defaulted "last_instr"
    (optional_ofOption Instruction.ofJson_toJson Instruction.toJson_ne_null machine.last)
  refine (LawfulRecordReader.read_object
    ((((((registers.map _).seq memory).seq deck).seq policy).seq cycles).seq last) (by simp)).trans ?_
  rw [UInt64.ofNat_toNat]

/-- No machine is read back with another memory. -/
theorem wellFormed_of_ofJson {json : Json} {machine : Machine Deck}
    (accepted : ofJson json = .ok machine) : machine.memory.WellFormed := by
  -- the fields are taken off from the last to the memory, the second
  obtain ⟨_, toLast⟩ := LawfulRecordReader.exists_build accepted
  obtain ⟨_, _, toCycles, -, rfl⟩ := exists_of_build_seq toLast
  obtain ⟨_, _, toPolicy, -, rfl⟩ := exists_of_build_seq toCycles
  obtain ⟨_, _, toPort, -, rfl⟩ := exists_of_build_seq toPolicy
  obtain ⟨_, _, toMemory, -, rfl⟩ := exists_of_build_seq toPort
  obtain ⟨_, _, toRegisters, memory, rfl⟩ := exists_of_build_seq toMemory
  obtain ⟨_, -, rfl⟩ := exists_of_build_map toRegisters
  obtain ⟨_, read⟩ := exists_of_build_required memory
  exact Memory.wellFormed_of_ofJson read

end Machine
end Cardiac
