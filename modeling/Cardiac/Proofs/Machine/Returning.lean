import Cardiac.Proofs.Machine.Growth

/-!
# The way back of a jump

A jump leaves 800 and the advanced program counter in cell 99. Up to cell 98 the sum is the jump
back, but a jump from cell 99 itself leaves 900, which is a halt. Farther up there are no jumps:
images and instructions name their cells with two digits, so no word gets above cell 99.
-/
namespace Cardiac

namespace Memory

/-- No cell above cell 99 holds a word. -/
def Short (memory : Memory) : Prop :=
  ∀ (address : Int) (word : Word), memory.get address = .ok (some word) → address ≤ 99

theorem short_ofSize (size : Nat) : (ofSize size).Short := by
  intro address word held
  by_cases first : address = 0
  · omega
  · rw [get_ofSize_of_ne_zero (inside_of_get held) first] at held
    cases held

theorem Short.put {memory : Memory} (short : memory.Short) {address : Int} (low : address ≤ 99)
    (word : Word) : (memory.put address word).Short := by
  intro other held found
  by_cases same : other = address
  · rwa [same]
  · rw [get_put_of_ne same] at found
    exact short other held found

theorem Short.write {memory : Memory} (short : memory.Short) (pairs : List (Fin 100 × Word)) :
    (memory.write pairs).2.Short := by
  induction pairs generalizing memory with
  | nil => exact short
  | cons pair rest ih =>
    obtain ⟨address, word⟩ := pair
    simp only [Memory.write]
    split
    next written done =>
      obtain ⟨_, -, -, rfl⟩ := exists_of_setReading done
      exact ih (short.put (by omega) _)
    next left done =>
      rw [eq_of_setReading_error done]
      exact short

end Memory

namespace Machine

variable {Port : Type}

section Steps

variable [CardPort Port] {machine left : Machine Port}

theorem short_step (short : machine.memory.Short) : machine.step.2.memory.Short := by
  rcases machine.putsOne_step with same | ⟨address, word, written⟩
  · rwa [same]
  · rw [written]
    exact short.put (by omega) word

/-- A jump leaves 801 and its own address in cell 99, if that is a word. -/
theorem step_of_jump {word back : Word} {target : UInt8}
    (held : machine.memory.get machine.registers.pc.toNat = .ok (some word))
    (decoded : Instruction.decode word.value = .ok ⟨.jump, target⟩)
    (inside : machine.memory.Inside returnCell)
    (sum : back.value = 801 + machine.registers.pc.toNat) :
    ∃ left, machine.step = (.ok ⟨.jump, target⟩, left) ∧
      left.memory = machine.memory.put returnCell back ∧
      left.registers.pc = target.toUInt32 := by
  have upper := back.upper
  -- the fetch has moved the program counter on before the jump looks at it
  have counter : (machine.fetched word).registers.pc.toNat = machine.registers.pc.toNat + 1 := by
    refine toNat_pc_fetched ?_ word
    simp only [UInt32.size]
    omega
  have advanced : back.value = 800 + (machine.fetched word).registers.pc.toNat := by omega
  rw [step_of_execute held decoded (execute_jump inside advanced)]
  exact ⟨_, rfl, rfl, rfl⟩

theorem step_of_halt {word : Word} {target : UInt8}
    (held : machine.memory.get machine.registers.pc.toNat = .ok (some word))
    (decoded : Instruction.decode word.value = .ok ⟨.halt, target⟩) :
    ∃ left, machine.step = (.ok ⟨.halt, target⟩, left) ∧ left.registers.pc = target.toUInt32 := by
  have executed : (machine.fetched word).execute ⟨.halt, target⟩ = (.ok (),
    { machine.fetched word with registers := ({} : Registers).jump target }) := rfl
  rw [step_of_execute held decoded executed]
  exact ⟨_, rfl, rfl⟩

/-- Cell 99 holds the instruction, and a machine that comes there while the cell is unmodified
carries it out and goes to its operand. -/
structure Leaves (left : Machine Port) (opcode : Opcode) (operand : Nat) : Prop where
  decoded : ∃ word, left.memory.get returnCell = .ok (some word) ∧
    Instruction.decode word.value = .ok ⟨opcode, UInt8.ofNat operand⟩
  followed : ∀ later : Machine Port, later.registers.pc.toNat = returnCell →
    later.memory.get returnCell = left.memory.get returnCell →
    later.step.1 = .ok ⟨opcode, UInt8.ofNat operand⟩ ∧ later.step.2.registers.pc.toNat = operand

theorem leaves_of_get {opcode : Opcode} {operand : Fin 100} {word : Word}
    (held : left.memory.get returnCell = .ok (some word))
    (digits : word.value = 100 * opcode.digit + operand)
    (goes : opcode = .jump ∨ opcode = .halt) : Leaves left opcode operand where
  decoded := ⟨word, held, Instruction.decode_of_eq digits⟩
  followed := by
    intro later here unmodified
    have found : later.memory.get later.registers.pc.toNat = .ok (some word) := by
      rw [here, unmodified, held]
    have decoded := Instruction.decode_of_eq digits
    have target : (UInt8.ofNat operand).toUInt32.toNat = operand.val := by
      rw [UInt8.toNat_toUInt32, toNat_ofNat_address]
    rcases goes with rfl | rfl
    · have inside : later.memory.Inside returnCell := here ▸ Memory.inside_of_get found
      -- carried out in cell 99, the jump leaves a halt there in its place
      have sum : (⟨900, by decide, by decide⟩ : Word).value = 801 + later.registers.pc.toNat := by
        rw [here]
        rfl
      obtain ⟨final, stepped, -, there⟩ := step_of_jump found decoded inside sum
      rw [stepped, there]
      exact ⟨rfl, target⟩
    · obtain ⟨final, stepped, there⟩ := step_of_halt found decoded
      rw [stepped, there]
      exact ⟨rfl, target⟩

/-- What a jump leaves that can leave something: the instruction of the sum of 801 and its address. -/
theorem leaves_of_jump {opcode : Opcode} {operand : Fin 100} {target : UInt8}
    (pending : machine.pending? = some ⟨.jump, target⟩) (room : 99 ≤ machine.memory.size)
    (sum : 100 * opcode.digit + operand = 801 + machine.registers.pc.toNat)
    (goes : opcode = .jump ∨ opcode = .halt) :
    machine.step.1 = .ok ⟨.jump, target⟩ ∧ machine.step.2.registers.pc.toNat = target.toNat ∧
      Leaves machine.step.2 opcode operand := by
  obtain ⟨word, held, decoded⟩ := exists_get_of_pending? pending
  have inside : machine.memory.Inside returnCell :=
    Memory.inside_of_room room (by decide) (by decide)
  -- what begins with the digit of an opcode is a word
  have short := opcode.digit_le
  let back : Word := ⟨100 * opcode.digit + operand, by omega, by omega⟩
  have value : back.value = 801 + machine.registers.pc.toNat := by
    simp only [back]
    omega
  obtain ⟨left, stepped, written, there⟩ := step_of_jump held decoded inside value
  have kept : left.memory.get returnCell = .ok (some back) := by
    rw [written]
    exact Memory.get_put_self inside back
  rw [stepped]
  refine ⟨rfl, ?_, leaves_of_get kept rfl goes⟩
  rw [there, UInt8.toNat_toUInt32]

/-- Without a cell 99 a jump fails. -/
theorem step_jump_of_small {target : UInt8} (pending : machine.pending? = some ⟨.jump, target⟩)
    (small : machine.memory.size < 99) :
    machine.step.1 = .error (.memory (.outOfRange returnCell machine.memory.size)) ∧
      machine.step.2.memory = machine.memory := by
  obtain ⟨word, held, decoded⟩ := exists_get_of_pending? pending
  have outside : ¬(machine.fetched word).memory.Inside returnCell := by
    simp only [Memory.Inside, returnCell, fetched]
    omega
  rw [step_of_decode (fetch_of_get held) decoded]
  simp only [execute, Memory.setInt, Memory.setReading_of_outside outside, concluded]
  exact ⟨rfl, rfl⟩

end Steps

/-- The machines that come from a fresh one by loading images and stepping. -/
inductive Reached (config : Config) : Machine Deck → Prop
  | fresh (cards : Deck) : Reached config (fresh cards config)
  | boot {machine : Machine Deck} (image : CardImage) (reached : Reached config machine) :
      Reached config (machine.boot image)
  -- loading and stepping may fail, and what they leave is reached as well
  | load {machine : Machine Deck} (image : CardImage) (reached : Reached config machine) :
      Reached config (machine.load image).2
  | step {machine : Machine Deck} (reached : Reached config machine) :
      Reached config machine.step.2
  -- a run starts the machine, and under the policy a step may reset it
  | started {machine : Machine Deck} (reached : Reached config machine) :
      Reached config machine.started
  | reset {machine : Machine Deck} (reached : Reached config machine) :
      Reached config machine.reset

theorem memory_load {Port : Type} (machine : Machine Port) (image : CardImage) :
    (machine.load image).2.memory = (machine.memory.write image.pairs).2 := by
  unfold load
  split <;> simp only [*]

section Reaches

variable {config : Config} {machine : Machine Deck}

theorem short_of_reached (reached : Reached config machine) : machine.memory.Short := by
  -- only loading and stepping touch the memory
  induction reached with
  | fresh cards => exact Memory.short_ofSize config.memorySize
  | boot image _ ih => exact ih
  | load image _ ih =>
    rw [memory_load]
    exact ih.write image.pairs
  | step _ ih => exact short_step ih
  | started _ ih => exact ih
  | reset _ ih => exact ih

theorem size_of_reached (reached : Reached config machine) :
    machine.memory.size = (Memory.ofSize config.memorySize).size := by
  induction reached with
  | fresh cards => rfl
  | boot image _ ih => exact ih
  | load image _ ih =>
    rw [memory_load, (Memory.Grows.write _ image.pairs).size, ih]
  | @step machine _ ih => rw [machine.grows_step.size, ih]
  | started _ ih => exact ih
  | reset _ ih => exact ih

/-- In a memory with a cell 99 every jump is carried out. It leaves the jump back to the cell behind
it, unless it is itself in cell 99: then it leaves a halt. -/
theorem jump_leaves {target : UInt8} (reached : Reached config machine)
    (pending : machine.pending? = some ⟨.jump, target⟩) :
    let address := machine.registers.pc.toNat
    address ≤ 99 ∧
      (config.memorySize < 99 →
        machine.step.1 = .error (.memory (.outOfRange returnCell machine.memory.size)) ∧
          machine.step.2.memory = machine.memory) ∧
      (99 ≤ config.memorySize →
        machine.step.1 = .ok ⟨.jump, target⟩ ∧
          machine.step.2.registers.pc.toNat = target.toNat ∧
          (address < 99 → Leaves machine.step.2 .jump (address + 1)) ∧
          (address = 99 → Leaves machine.step.2 .halt 0)) := by
  intro address
  obtain ⟨word, held, -⟩ := exists_get_of_pending? pending
  have low : address ≤ 99 := by
    have bound := short_of_reached reached _ word held
    omega
  have size := size_of_reached reached
  refine ⟨low, ?_, ?_⟩
  · intro small
    refine step_jump_of_small pending ?_
    simp only [size, Memory.ofSize]
    omega
  · intro room
    have memoryRoom : 99 ≤ machine.memory.size := size ▸ Memory.le_size_ofSize room
    -- from cell 99 the sum is past the last jump, and the first of the halts
    rcases Nat.lt_or_eq_of_le low with before | last
    · let back : Fin 100 := ⟨address + 1, by omega⟩
      have sum : 100 * Opcode.jump.digit + back = 801 + address := by
        simp only [back, Opcode.digit]
        omega
      obtain ⟨stepped, there, leaves⟩ := leaves_of_jump pending memoryRoom sum (.inl rfl)
      exact ⟨stepped, there, fun _ => leaves, fun last => by omega⟩
    · have sum : 100 * Opcode.halt.digit + (0 : Fin 100) = 801 + address := by
        rw [last]
        rfl
      obtain ⟨stepped, there, leaves⟩ := leaves_of_jump pending memoryRoom sum (.inr rfl)
      exact ⟨stepped, there, fun before => by omega, fun _ => leaves⟩

/-- The jump that starts a loaded program leaves the jump back to cell 3. -/
theorem first_jump_leaves :
    let machine := ((fresh Deck.empty {}).load ⟨[(2, .jumpTo 40)]⟩).2
    Reached {} machine ∧ machine.pending? = some ⟨.jump, 40⟩ ∧ Leaves machine.step.2 .jump 3 := by
  intro machine
  have reached : Reached {} machine := .load _ (.fresh Deck.empty)
  have pending : machine.pending? = some ⟨.jump, 40⟩ := by cbv
  obtain ⟨-, -, leaves⟩ := jump_leaves reached pending
  obtain ⟨-, -, back, -⟩ := leaves (by decide)
  exact ⟨reached, pending, back (by decide)⟩

/-- A jump to cell 99 leaves the jump back there, which is the next to be carried out. It succeeds
and leaves no jump at all. -/
theorem jump_from_return_cell_lost :
    let machine := ((fresh Deck.empty {}).load ⟨[(2, .jumpTo 99)]⟩).2.step.2
    Reached {} machine ∧ machine.registers.pc.toNat = 99 ∧
      machine.pending? = some ⟨.jump, 3⟩ ∧ machine.step.1 = .ok ⟨.jump, 3⟩ ∧
      ∀ word, machine.step.2.memory.get returnCell = .ok (some word) →
        ∀ operand, Instruction.decode word.value ≠ .ok ⟨.jump, operand⟩ := by
  intro machine
  have reached : Reached {} machine := .step (.load _ (.fresh Deck.empty))
  have pending : machine.pending? = some ⟨.jump, 3⟩ := by cbv
  have left : machine.step.2.memory.get returnCell =
      .ok (some ⟨900, by decide, by decide⟩) := by cbv
  refine ⟨reached, by cbv, pending, by cbv, ?_⟩
  intro word held operand decoded
  rw [left] at held
  cases held
  cases decoded

end Reaches

end Machine
end Cardiac
