import Cardiac.Proofs.Machine.Outcome

/-!
# When a step succeeds

An instruction needs a card, a word in its cell, an accumulator that fits a word, or nothing at
all. If every operand has a cell and every way back is a word, then what it needs decides whether
it is carried out; in smaller memories the operand may be missing, and in larger ones the way
back.
-/
namespace Cardiac.Machine

variable {Port : Type} [CardPort Port]

/-- What an instruction needs to be carried out: a card that is a word, a word in the cell that
it looks at, or an accumulator that fits a word. -/
def Ready (machine : Machine Port) (opcode : Opcode) (operand : Int) : Prop :=
  match opcode with
  | .input => ∃ card word, (CardPort.read machine.port).1 = some card ∧ Word.parse card = .ok word
  | .clearAdd | .add | .subtract => ∃ word, machine.memory.get operand = .ok (some word)
  | .store => -999 ≤ machine.registers.acc.toInt ∧ machine.registers.acc.toInt ≤ 999
  | .test | .shift | .output | .jump | .halt => True

/-- What keeps an instruction from being carried out. -/
inductive Obstacle (machine : Machine Port) : Opcode → Int → Fault → Prop where
  | noCard {operand : Int} (none : (CardPort.read machine.port).1 = none) :
      Obstacle machine .input operand .inputExhausted
  | badCard {operand : Int} {card : Card} {error : WordError}
      (taken : (CardPort.read machine.port).1 = some card)
      (fails : Word.parse card = .error error) :
      Obstacle machine .input operand (.memory (.data error))
  | emptyCell {opcode : Opcode} {operand : Int} (reads : opcode ∈ [.clearAdd, .add, .subtract])
      (held : machine.memory.get operand = .ok none) :
      Obstacle machine opcode operand (.memory (.emptyCell operand.toNat))
  | tooLarge {operand : Int}
      (large : machine.registers.acc.toInt < -999 ∨ 999 < machine.registers.acc.toInt) :
      Obstacle machine .store operand (.memory (.data (.overflow machine.registers.acc.toInt)))

theorem Obstacle.not_ready {machine : Machine Port} {opcode : Opcode} {operand : Int}
    {fault : Fault} (obstacle : Obstacle machine opcode operand fault) :
    ¬machine.Ready opcode operand := by
  cases obstacle with
  | noCard none => simp [Ready, none]
  | badCard taken fails => simp [Ready, taken, fails]
  | emptyCell reads held =>
    simp only [List.mem_cons, List.not_mem_nil, or_false] at reads
    rcases reads with rfl | rfl | rfl <;> simp [Ready, held]
  | tooLarge large =>
    rintro ⟨lower, upper⟩
    omega

/-- The result of an instruction goes by what the machine has for it. -/
inductive Decision (machine : Machine Port) (opcode : Opcode) (operand : Int) :
    Except Fault Unit → Prop where
  | ready (ready : machine.Ready opcode operand) : Decision machine opcode operand (.ok ())
  | obstacle {fault : Fault} (obstacle : Obstacle machine opcode operand fault) :
      Decision machine opcode operand (.error fault)

/-- Whichever way an instruction combines, its cell decides whether it can. -/
theorem combine_decision {machine : Machine Port} {opcode : Opcode} {address : Int}
    (reads : opcode ∈ [.clearAdd, .add, .subtract]) (inside : machine.memory.Inside address)
    (operation : Accumulator → Int64 → Accumulator) :
    Decision machine opcode address (machine.combine address operation).1 := by
  obtain ⟨cell, held⟩ := Memory.exists_get_of_inside inside
  cases cell with
  | none =>
    simp only [combine, Memory.getInt_eq, held]
    exact .obstacle (.emptyCell reads held)
  | some word =>
    simp only [combine, Memory.getInt_of_get held]
    simp only [List.mem_cons, List.not_mem_nil, or_false] at reads
    rcases reads with rfl | rfl | rfl <;> exact .ready ⟨word, held⟩

/-- With cells for all operands and for the way back, an instruction is carried out or meets an
obstacle. -/
theorem execute_decision {machine : Machine Port} (room : 99 ≤ machine.memory.size)
    (here : machine.registers.pc.toNat ≤ 199) (opcode : Opcode) (operand : Fin 100) :
    Decision machine opcode operand.val
      (machine.execute ⟨opcode, UInt8.ofNat operand⟩).1 := by
  have inside : machine.memory.Inside operand.val :=
    Memory.inside_of_room room (by omega) (by omega)
  cases opcode with
  | input =>
    simp only [execute, toNat_ofNat_address, Memory.setText]
    cases taken : CardPort.read machine.port with
    | mk card port =>
      have front : (CardPort.read machine.port).1 = card := by rw [taken]
      cases card with
      | none => exact .obstacle (.noCard front)
      | some card =>
        cases parsed : Word.parse card with
        | error error =>
          simp only [parsed, Memory.setReading_of_error inside, commit_error]
          exact .obstacle (.badCard front parsed)
        | ok word =>
          simp only [parsed, Memory.setReading_of_inside inside, commit_ok]
          exact .ready ⟨card, word, front, parsed⟩
  | clearAdd =>
    simp only [execute, toNat_ofNat_address]
    exact combine_decision (by decide) inside _
  | add =>
    simp only [execute, toNat_ofNat_address]
    exact combine_decision (by decide) inside _
  | test =>
    simp only [execute]
    split <;> exact .ready trivial
  | shift => exact .ready trivial
  | output =>
    obtain ⟨card, text⟩ := Memory.exists_getText_of_inside inside
    simp only [execute, toNat_ofNat_address, text]
    exact .ready trivial
  | store =>
    simp only [execute, toNat_ofNat_address, Memory.setInt]
    by_cases fits : -999 ≤ machine.registers.acc.toInt ∧ machine.registers.acc.toInt ≤ 999
    · simp only [Word.ofInt, dif_pos fits, Memory.setReading_of_inside inside, commit_ok]
      exact .ready fits
    · simp only [Word.ofInt, dif_neg fits, Memory.setReading_of_error inside, commit_error]
      exact .obstacle (.tooLarge (by omega))
  | subtract =>
    simp only [execute, toNat_ofNat_address]
    exact combine_decision (by decide) inside _
  | jump =>
    have back : machine.memory.Inside returnCell :=
      Memory.inside_of_room room (by decide) (by decide)
    -- the way back is a word as long as the program counter stays below 200
    have fits : -999 ≤ (800 + machine.registers.pc.toNat : Int) ∧
        (800 + machine.registers.pc.toNat : Int) ≤ 999 := by omega
    simp only [execute, Memory.setInt, Word.ofInt, dif_pos fits, Memory.setReading_of_inside back]
    exact .ready trivial
  | halt => exact .ready trivial

/-- The fetch moves neither what an instruction needs nor where it looks. -/
theorem Decision.of_fetched {machine : Machine Port} {word : Word} {opcode : Opcode} {operand : Int}
    {result : Except Fault Unit}
    (decision : Decision (machine.fetched word) opcode operand result) :
    Decision machine opcode operand result := by
  have acc := acc_fetched machine word
  cases decision with
  | ready ready =>
    refine .ready ?_
    cases opcode <;> simp only [Ready, acc] at ready ⊢ <;> exact ready
  | obstacle obstacle =>
    refine .obstacle ?_
    cases obstacle with
    | noCard none => exact .noCard none
    | badCard taken fails => exact .badCard taken fails
    | emptyCell reads held => exact .emptyCell reads held
    | tooLarge large =>
      rw [acc] at large ⊢
      exact .tooLarge large

/-- What makes a step fail, in its fetch, its decoding or its instruction. -/
inductive Cause (machine : Machine Port) : Fault → Prop where
  | outside (out : ¬machine.memory.Inside machine.registers.pc.toNat) :
      Cause machine (.memory (.outOfRange machine.registers.pc.toNat machine.memory.size))
  | empty (held : machine.memory.get machine.registers.pc.toNat = .ok none) :
      Cause machine (.memory (.emptyCell machine.registers.pc.toNat))
  | unknown {word : Word} (held : machine.memory.get machine.registers.pc.toNat = .ok (some word))
      (negative : word.value < 0) :
      Cause machine (.invalidOperation (.unknownOpcode (word.value / 100)))
  | obstacle {opcode : Opcode} {operand : Fin 100} {fault : Fault}
      (pending : machine.pending? = some ⟨opcode, UInt8.ofNat operand⟩)
      (obstacle : Obstacle machine opcode operand.val fault) : Cause machine fault

section Bounded

variable {machine : Machine Port} (lower : 99 ≤ machine.memory.size)
  (upper : machine.memory.size ≤ 198)

include lower upper

theorem fetched_decision {word : Word}
    (held : machine.memory.get machine.registers.pc.toNat = .ok (some word)) (opcode : Opcode)
    (operand : Fin 100) : Decision machine opcode operand.val
      ((machine.fetched word).execute ⟨opcode, UInt8.ofNat operand⟩).1 := by
  have inside := Memory.inside_of_get held
  unfold Memory.Inside at inside
  have small : machine.registers.pc.toNat + 1 < UInt32.size := by
    simp only [UInt32.size]
    omega
  -- the program counter stands behind the last cell at most
  have here : (machine.fetched word).registers.pc.toNat ≤ 199 := by
    rw [toNat_pc_fetched small]
    omega
  have room : 99 ≤ (machine.fetched word).memory.size := lower
  exact (execute_decision room here opcode operand).of_fetched

theorem step_ok_iff : (∃ instruction, machine.step.1 = .ok instruction) ↔
    ∃ (word : Word) (opcode : Opcode) (operand : Fin 100),
      machine.memory.get machine.registers.pc.toNat = .ok (some word) ∧
      word.value = 100 * opcode.digit + operand ∧ machine.Ready opcode operand.val := by
  have outcome := outcome_step machine
  generalize machine.step = done at outcome ⊢
  constructor
  · rintro ⟨instruction, succeeds⟩
    cases outcome with
    | outside => cases succeeds
    | empty => cases succeeds
    | unknown => cases succeeds
    | failed => cases succeeds
    | @done word opcode operand _ held digits executed =>
      have decision := fetched_decision lower upper held opcode operand
      rw [executed] at decision
      cases decision with
      | ready ready => exact ⟨word, opcode, operand, held, digits, ready⟩
  · rintro ⟨word, opcode, operand, held, digits, ready⟩
    cases outcome with
    | outside out => exact absurd (Memory.inside_of_get held) out
    | empty empty =>
      rw [held] at empty
      cases empty
    | unknown other negative =>
      rw [held] at other
      cases other
      omega
    | @failed _ otherOpcode otherOperand fault left other otherDigits fails =>
      -- the word has only one opcode and operand
      rw [held] at other
      cases other
      obtain rfl : opcode = otherOpcode := Instruction.eq_of_digit_eq (by omega)
      obtain rfl : operand = otherOperand := Fin.ext (by omega)
      have decision := fetched_decision lower upper held opcode operand
      rw [fails] at decision
      cases decision with
      | obstacle obstacle => exact absurd ready obstacle.not_ready
    | done => exact ⟨_, rfl⟩

theorem cause_of_step {fault : Fault} (fails : machine.step.1 = .error fault) :
    Cause machine fault := by
  have outcome := outcome_step machine
  generalize machine.step = done at outcome fails
  cases outcome with
  | outside out =>
    cases fails
    exact .outside out
  | empty held =>
    cases fails
    exact .empty held
  | unknown held negative =>
    cases fails
    exact .unknown held negative
  | @failed word opcode operand _ _ held digits failed =>
    cases fails
    have decision := fetched_decision lower upper held opcode operand
    rw [failed] at decision
    cases decision with
    | obstacle obstacle =>
      exact .obstacle (pending?_of_decode held (Instruction.decode_of_eq digits)) obstacle
  | done => cases fails

end Bounded

/-- A step succeeds exactly if there is an instruction at the program counter that is ready. An
address is out of range only at the fetch, an opcode is unknown only if its word is negative, and
a value is too large only for an input or a store. -/
theorem step_succeeds_iff {machine : Machine Port} (lower : 99 ≤ machine.memory.size)
    (upper : machine.memory.size ≤ 198) :
    ((∃ instruction, machine.step.1 = .ok instruction) ↔
      machine.registers.pc.toNat ≤ machine.memory.size ∧
      ∃ word, machine.memory.get machine.registers.pc.toNat = .ok (some word) ∧ 0 ≤ word.value ∧
        ∃ opcode : Opcode, (opcode.digit : Int) = word.value / 100 ∧
          machine.Ready opcode (word.value % 100)) ∧
    (∀ address size, machine.step.1 = .error (.memory (.outOfRange address size)) →
      machine.memory.size < machine.registers.pc.toNat) ∧
    (∀ digit, machine.step.1 = .error (.invalidOperation (.unknownOpcode digit)) →
      ∃ word, machine.memory.get machine.registers.pc.toNat = .ok (some word) ∧ word.value < 0) ∧
    (∀ value, machine.step.1 = .error (.memory (.data (.overflow value))) →
      ∃ instruction ∈ machine.pending?, instruction.opcode ∈ [.input, .store]) := by
  refine ⟨?_, ?_, ?_, ?_⟩
  · rw [step_ok_iff lower upper]
    constructor
    · rintro ⟨word, opcode, operand, held, digits, ready⟩
      have inside := Memory.inside_of_get held
      unfold Memory.Inside at inside
      have rest : word.value % 100 = operand.val := by omega
      refine ⟨by omega, word, held, by omega, opcode, by omega, ?_⟩
      rwa [rest]
    · rintro ⟨-, word, held, -, opcode, digit, ready⟩
      obtain ⟨operand, rest⟩ : ∃ operand : Fin 100, word.value % 100 = operand.val :=
        ⟨⟨(word.value % 100).toNat, by omega⟩, by simp only; omega⟩
      rw [rest] at ready
      exact ⟨word, opcode, operand, held, by omega, ready⟩
  · intro address size fails
    cases cause_of_step lower upper fails with
    | outside out =>
      unfold Memory.Inside at out
      omega
    | obstacle _ obstacle => cases obstacle
  · intro digit fails
    cases cause_of_step lower upper fails with
    | unknown held negative => exact ⟨_, held, negative⟩
    | obstacle _ obstacle => cases obstacle
  · intro value fails
    cases cause_of_step lower upper fails with
    | obstacle pending obstacle =>
      refine ⟨_, pending, ?_⟩
      cases obstacle with
      | badCard => exact List.mem_cons_self
      | tooLarge => exact List.mem_cons_of_mem _ List.mem_cons_self

/-- In the last cell of the largest such memory a jump can still leave its way back. -/
theorem jump_succeeds_in_last_cell :
    let machine : Machine Deck := { fresh Deck.empty {} with
      memory := (Memory.ofSize 198).put 198 (.jumpTo 3), registers := { pc := 198 } }
    99 ≤ machine.memory.size ∧ machine.memory.size ≤ 198 ∧
      ∃ instruction, machine.step.1 = .ok instruction := by
  intro machine
  have size : machine.memory.size = 198 := Memory.size_put ..
  have inside : (Memory.ofSize 198).Inside 198 := by decide
  have held : machine.memory.get machine.registers.pc.toNat = .ok (some (.jumpTo 3)) :=
    Memory.get_put_self inside _
  have lower : 99 ≤ machine.memory.size := by omega
  have upper : machine.memory.size ≤ 198 := by omega
  have succeeds := step_succeeds_iff lower upper
  refine ⟨lower, upper, succeeds.1.mpr ⟨?_, ?_⟩⟩
  · exact Nat.le_of_eq size.symm
  · exact ⟨.jumpTo 3, held, by decide, .jump, by decide, trivial⟩

end Cardiac.Machine
