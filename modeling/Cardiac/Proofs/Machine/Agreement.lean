import Cardiac.Proofs.Machine.Stepping
import Cardiac.Proofs.Memory.Agreement

/-!
# Machines that differ in a few cells

A step looks at one cell when it fetches and perhaps at another when it carries out its
instruction. Two machines that agree everywhere else cannot tell their difference apart until a
step looks at a cell in which they differ, so they stay in step: they return the same
instructions and the same faults, and what they write they both write. Their ports may be of two
kinds, as long as these deal cards that are parsed alike: a machine does nothing else with a card.
-/
namespace Cardiac

namespace Instruction

/-- The instruction looks at the address's cell. -/
def Reads (instruction : Instruction) (address : Int) : Prop :=
  instruction.opcode ∈ [.clearAdd, .add, .output, .subtract] ∧ instruction.operand.toNat = address

instance (instruction : Instruction) (address : Int) : Decidable (instruction.Reads address) :=
  inferInstanceAs (Decidable (_ ∧ _))

theorem notMem_of_not_reads {opcode : Opcode} {operand : UInt8} {excepted : List Int}
    (unread : ∀ address ∈ excepted, ¬Reads ⟨opcode, operand⟩ address)
    (looks : opcode ∈ [.clearAdd, .add, .output, .subtract]) :
    (operand.toNat : Int) ∉ excepted :=
  fun member => unread _ member ⟨looks, rfl⟩

end Instruction

namespace Machine

variable {Port : Type}

/-- The instruction that the next step fetches, if it fetches one. -/
def pending? (machine : Machine Port) : Option Instruction :=
  match machine.memory.get machine.registers.pc.toNat with
  | .ok (some word) => (Instruction.decode word.value).toOption
  | _ => none

/-- The next step looks at the address's cell: it fetches from there, or its instruction reads
the cell. -/
def LooksAt (machine : Machine Port) (address : Int) : Prop :=
  machine.registers.pc.toNat = address ∨
    ∃ instruction ∈ machine.pending?, instruction.Reads address

instance (machine : Machine Port) (address : Int) : Decidable (machine.LooksAt address) :=
  inferInstanceAs (Decidable (_ ∨ _))

/-- Ports in the relation deal cards that are parsed alike, and stay in it. -/
structure PortsAlike {First Second : Type} [CardPort First] [CardPort Second]
    (alike : First → Second → Prop) : Prop where
  reading : ∀ {first second}, alike first second →
    (CardPort.read first).1.map Word.parse = (CardPort.read second).1.map Word.parse
  rest : ∀ {first second}, alike first second →
    alike (CardPort.read first).2 (CardPort.read second).2
  punch : ∀ {first second}, alike first second → ∀ card,
    alike (CardPort.punch first card) (CardPort.punch second card)

theorem portsAlike_eq [CardPort Port] : PortsAlike (Eq : Port → Port → Prop) where
  reading := by
    rintro port _ rfl
    rfl
  rest := by
    rintro port _ rfl
    rfl
  punch := by
    rintro port _ rfl card
    rfl

variable {First Second : Type}

/-- The machines are equal, save that their ports are in a relation, that the given cells may differ
and that the first has counted some more cycles. -/
structure AlikeOff (alike : First → Second → Prop) (excepted : List Int) (offset : UInt64)
    (first : Machine First) (second : Machine Second) : Prop where
  registers : first.registers = second.registers
  memory : Memory.AgreeOff excepted first.memory second.memory
  port : alike first.port second.port
  policy : first.policy = second.policy
  cycles : first.cycles = second.cycles + offset
  last : first.last = second.last

/-- The same result, and machines that are alike. -/
def SameOutcome {Result : Type} (alike : First → Second → Prop) (excepted : List Int)
    (offset : UInt64) (first : Result × Machine First) (second : Result × Machine Second) : Prop :=
  first.1 = second.1 ∧ AlikeOff alike excepted offset first.2 second.2

variable {alike : First → Second → Prop} {excepted : List Int} {offset : UInt64}
  {first : Machine First} {second : Machine Second}

namespace AlikeOff

theorem withRegisters (same : AlikeOff alike excepted offset first second) (registers : Registers) :
    AlikeOff alike excepted offset { first with registers } { second with registers } :=
  { same with registers := rfl }

theorem withPort (same : AlikeOff alike excepted offset first second) {firstPort : First}
    {secondPort : Second} (port : alike firstPort secondPort) :
    AlikeOff alike excepted offset { first with port := firstPort }
      { second with port := secondPort } :=
  { same with port }

theorem withMemory (same : AlikeOff alike excepted offset first second)
    {firstMemory secondMemory : Memory}
    (memory : Memory.AgreeOff excepted firstMemory secondMemory) :
    AlikeOff alike excepted offset { first with memory := firstMemory }
      { second with memory := secondMemory } :=
  { same with memory }

theorem counted (same : AlikeOff alike excepted offset first second) (instruction : Instruction) :
    AlikeOff alike excepted offset (first.counted instruction) (second.counted instruction) := by
  refine { same with cycles := ?_, last := rfl }
  simp only [Machine.counted, same.cycles, UInt64.add_assoc, UInt64.add_comm offset]

theorem combine (same : AlikeOff alike excepted offset first second) {address : Int}
    (other : address ∉ excepted) (operation : Accumulator → Int64 → Accumulator) :
    SameOutcome alike excepted offset (first.combine address operation)
      (second.combine address operation) := by
  rw [Machine.combine, Machine.combine, same.memory.getInt_eq other, same.registers]
  cases second.memory.getInt address with
  | error error => exact ⟨rfl, same⟩
  | ok value => exact ⟨rfl, same.withRegisters _⟩

theorem commit (same : AlikeOff alike excepted offset first second) (address : Int)
    (reading : Except WordError Word) :
    SameOutcome alike excepted offset (first.commit (first.memory.setReading address reading))
      (second.commit (second.memory.setReading address reading)) := by
  rcases same.memory.setReading address reading with
    ⟨error, firstFails, secondFails⟩ | ⟨_, _, firstWrites, secondWrites, memory⟩
  · rw [firstFails, secondFails]
    exact ⟨rfl, same⟩
  · rw [firstWrites, secondWrites]
    exact ⟨rfl, same.withMemory memory⟩

theorem fetch (same : AlikeOff alike excepted offset first second)
    (elsewhere : (second.registers.pc.toNat : Int) ∉ excepted) :
    (∃ error, first.fetch = .error error ∧ second.fetch = .error error) ∨
    ∃ word, second.memory.get second.registers.pc.toNat = .ok (some word) ∧
      first.fetch = .ok (first.fetched word) ∧ second.fetch = .ok (second.fetched word) := by
  have equal := same.memory.cells _ elsewhere
  -- what the second machine finds at its program counter, the first one finds as well
  cases held : second.memory.get second.registers.pc.toNat with
  | error error =>
    refine .inl ⟨error, ?_, ?_⟩
    · simp only [Machine.fetch, Memory.getInt_eq, same.registers, equal, held]
    · simp only [Machine.fetch, Memory.getInt_eq, held]
  | ok cell =>
    cases cell with
    | none =>
      refine .inl ⟨.emptyCell second.registers.pc.toNat, ?_, ?_⟩
      · simp only [Machine.fetch, Memory.getInt_eq, same.registers, equal, held, Int.toNat_natCast]
      · simp only [Machine.fetch, Memory.getInt_eq, held, Int.toNat_natCast]
    | some word =>
      refine .inr ⟨word, rfl, fetch_of_get ?_, fetch_of_get held⟩
      rw [same.registers, equal, held]

theorem fetched (same : AlikeOff alike excepted offset first second) (word : Word) :
    AlikeOff alike excepted offset (first.fetched word) (second.fetched word) := by
  refine { same with registers := ?_ }
  simp only [Machine.fetched, same.registers]

end AlikeOff

theorem SameOutcome.concluded {firstDone : Except Fault Unit × Machine First}
    {secondDone : Except Fault Unit × Machine Second}
    (same : SameOutcome alike excepted offset firstDone secondDone) (instruction : Instruction) :
    SameOutcome alike excepted offset (concluded instruction firstDone)
      (concluded instruction secondDone) := by
  obtain ⟨firstResult, firstLeft⟩ := firstDone
  obtain ⟨secondResult, secondLeft⟩ := secondDone
  obtain ⟨rfl, left⟩ := same
  cases firstResult with
  | error fault => exact ⟨rfl, left⟩
  | ok => exact ⟨rfl, left.counted instruction⟩

/-- The machine behind so many calls of `step`, some of which may fail. -/
def afterSteps [CardPort Port] (machine : Machine Port) : Nat → Machine Port
  | 0 => machine
  | count + 1 => (machine.afterSteps count).step.2

section Steps

variable [CardPort First] [CardPort Second] (ports : PortsAlike alike)

include ports

/-- The card that is read need not be the same one, if it is parsed alike. -/
theorem AlikeOff.execute_input (same : AlikeOff alike excepted offset first second)
    (operand : UInt8) :
    SameOutcome alike excepted offset (first.execute ⟨.input, operand⟩)
      (second.execute ⟨.input, operand⟩) := by
  have reading := ports.reading same.port
  have rest := ports.rest same.port
  simp only [execute]
  cases firstRead : CardPort.read first.port with
  | mk firstCard firstPort =>
    cases secondRead : CardPort.read second.port with
    | mk secondCard secondPort =>
      rw [firstRead, secondRead] at reading rest
      -- the card is taken even if it cannot be stored
      have left := same.withPort rest
      cases firstCard with
      | none =>
        cases secondCard with
        | none => exact ⟨rfl, left⟩
        | some card => cases reading
      | some firstCard =>
        cases secondCard with
        | none => cases reading
        | some secondCard =>
          simp only [Memory.setText, Option.some.inj reading]
          exact left.commit operand.toNat (Word.parse secondCard)

/-- An instruction that reads none of the differing cells does the same to both machines. -/
theorem AlikeOff.execute (same : AlikeOff alike excepted offset first second)
    (instruction : Instruction) (unread : ∀ address ∈ excepted, ¬instruction.Reads address) :
    SameOutcome alike excepted offset (first.execute instruction) (second.execute instruction) := by
  obtain ⟨opcode, operand⟩ := instruction
  have other := Instruction.notMem_of_not_reads unread
  cases opcode with
  | input => exact same.execute_input ports operand
  | clearAdd => exact same.combine (other (by decide)) _
  | add => exact same.combine (other (by decide)) _
  | test =>
    simp only [Machine.execute, same.registers]
    split
    · exact ⟨rfl, same.withRegisters _⟩
    · exact ⟨rfl, same⟩
  | shift =>
    simp only [Machine.execute, same.registers]
    exact ⟨rfl, same.withRegisters _⟩
  | output =>
    have text := same.memory.getText_eq (other (by decide))
    simp only [Machine.execute, text]
    split
    · exact ⟨rfl, same.withPort (ports.punch same.port _)⟩
    · exact ⟨rfl, same⟩
  | store =>
    simp only [Machine.execute, same.registers]
    exact same.commit _ (Word.ofInt second.registers.acc.toInt)
  | subtract => exact same.combine (other (by decide)) _
  | jump =>
    simp only [Machine.execute, Memory.setInt, same.registers]
    rcases same.memory.setReading returnCell (Word.ofInt (800 + second.registers.pc.toNat)) with
      ⟨error, firstFails, secondFails⟩ | ⟨_, _, firstWrites, secondWrites, memory⟩
    · simp only [firstFails, secondFails]
      exact ⟨rfl, same.withRegisters _⟩
    · simp only [firstWrites, secondWrites]
      exact ⟨rfl, (same.withMemory memory).withRegisters _⟩
  -- a halt clears the registers of both
  | halt => exact ⟨rfl, same.withRegisters _⟩

/-- A step that looks at none of the differing cells is the same step on both machines. -/
theorem AlikeOff.step (same : AlikeOff alike excepted offset first second)
    (unseen : ∀ address ∈ excepted, ¬second.LooksAt address) :
    SameOutcome alike excepted offset first.step second.step := by
  have elsewhere : (second.registers.pc.toNat : Int) ∉ excepted :=
    fun member => unseen _ member (.inl rfl)
  rcases same.fetch elsewhere with
    ⟨error, firstFails, secondFails⟩ | ⟨word, held, firstFetches, secondFetches⟩
  · -- nothing has happened yet if the fetch fails
    rw [step_of_fetch_error firstFails, step_of_fetch_error secondFails]
    exact ⟨rfl, same⟩
  · cases decoded : Instruction.decode word.value with
    | error error =>
      -- the word is no instruction, but the program counters have moved on
      rw [step_of_decode_error firstFetches decoded, step_of_decode_error secondFetches decoded]
      exact ⟨rfl, same.fetched word⟩
    | ok instruction =>
      have pending : second.pending? = some instruction := by
        simp only [pending?, held, decoded]
        rfl
      -- the step would look at a cell that its instruction reads
      have unread : ∀ address ∈ excepted, ¬instruction.Reads address :=
        fun address member reads => unseen address member (.inr ⟨instruction, pending, reads⟩)
      rw [step_of_decode firstFetches decoded, step_of_decode secondFetches decoded]
      exact ((same.fetched word).execute ports instruction unread).concluded instruction

theorem AlikeOff.afterSteps (same : AlikeOff alike excepted offset first second) {count : Nat}
    (unseen : ∀ earlier < count, ∀ address ∈ excepted,
      ¬(second.afterSteps earlier).LooksAt address) :
    AlikeOff alike excepted offset (first.afterSteps count) (second.afterSteps count) := by
  induction count with
  | zero => exact same
  | succ count ih =>
    have before := ih fun earlier less => unseen earlier (Nat.lt_succ_of_lt less)
    exact (before.step ports (unseen count (Nat.lt_succ_self count))).2

/-- As long as no step of the second machine looks at a differing cell, every step of the first
returns what the same step of the second returns. -/
theorem AlikeOff.result_afterSteps (same : AlikeOff alike excepted offset first second) {count : Nat}
    (unseen : ∀ earlier < count, ∀ address ∈ excepted,
      ¬(second.afterSteps earlier).LooksAt address) {earlier : Nat} (less : earlier < count) :
    (first.afterSteps earlier).step.1 = (second.afterSteps earlier).step.1 := by
  have reached := same.afterSteps ports fun sooner before => unseen sooner (Nat.lt_trans before less)
  exact (reached.step ports (unseen earlier less)).1

end Steps

/-! ### Machines with the same cells -/

namespace AlikeOff

theorem memory_eq (same : AlikeOff alike [] offset first second) : first.memory = second.memory :=
  same.memory.eq_of_get nofun

theorem cycles_eq (same : AlikeOff alike excepted 0 first second) : first.cycles = second.cycles := by
  rw [same.cycles, UInt64.add_zero]

/-- Machines whose cells are all the same stay in step for ever. -/
theorem lockstep [CardPort First] [CardPort Second] (same : AlikeOff alike [] offset first second)
    (ports : PortsAlike alike) (count : Nat) :
    SameOutcome alike [] offset (first.afterSteps count).step (second.afterSteps count).step :=
  (same.afterSteps ports fun _ _ => nofun).step ports nofun

end AlikeOff

/-! ### Machines with one port -/

/-- The machines are equal, save that the given cells may differ and that the first has counted
some more cycles. -/
structure AgreeOff (excepted : List Int) (offset : UInt64) (first second : Machine Port) : Prop where
  registers : first.registers = second.registers
  memory : Memory.AgreeOff excepted first.memory second.memory
  port : first.port = second.port
  policy : first.policy = second.policy
  cycles : first.cycles = second.cycles + offset
  last : first.last = second.last

theorem agreeOff_iff_alikeOff {first second : Machine Port} :
    AgreeOff excepted offset first second ↔ AlikeOff Eq excepted offset first second := by
  constructor
  · intro agree
    exact { agree with }
  · intro same
    exact { same with }

section Steps

variable [CardPort Port] {first second : Machine Port}

theorem AgreeOff.afterSteps (agree : AgreeOff excepted offset first second) {count : Nat}
    (unseen : ∀ earlier < count, ∀ address ∈ excepted,
      ¬(second.afterSteps earlier).LooksAt address) :
    AgreeOff excepted offset (first.afterSteps count) (second.afterSteps count) := by
  rw [agreeOff_iff_alikeOff] at agree ⊢
  exact agree.afterSteps portsAlike_eq unseen

theorem AgreeOff.result_afterSteps (agree : AgreeOff excepted offset first second) {count : Nat}
    (unseen : ∀ earlier < count, ∀ address ∈ excepted,
      ¬(second.afterSteps earlier).LooksAt address) {earlier : Nat} (less : earlier < count) :
    (first.afterSteps earlier).step.1 = (second.afterSteps earlier).step.1 := by
  rw [agreeOff_iff_alikeOff] at agree
  exact agree.result_afterSteps portsAlike_eq unseen less

end Steps
end Machine
end Cardiac
