import Mathlib
import Cardiac.Proofs.Machine.Agreement

/-!
# How a step can go

A step ends at its fetch, at its decoding, in its instruction or behind it, and `Outcome` says
what it leaves at each of these ends. A step that fails leaves the machine as the fetch has left
it, except that an input instruction does not give back the card that it has taken.
-/
namespace Cardiac

theorem Deck.snd_read (deck : Deck) :
    (CardPort.read deck).2 = { deck with input := deck.input.tail } := by
  obtain ⟨input, output⟩ := deck
  cases input <;> rfl

namespace Machine

variable {Port : Type}

theorem toNat_pc_fetched {machine : Machine Port}
    (room : machine.registers.pc.toNat + 1 < UInt32.size) (word : Word) :
    (machine.fetched word).registers.pc.toNat = machine.registers.pc.toNat + 1 :=
  Registers.toNat_pc_advance room

theorem toNat_pc_fetched_eq_min (machine : Machine Port) (word : Word) :
    (machine.fetched word).registers.pc.toNat =
      min (machine.registers.pc.toNat + 1) (UInt32.size - 1) := by
  by_cases room : machine.registers.pc.toNat + 1 < UInt32.size
  · rw [toNat_pc_fetched room]
    omega
  · have bound := machine.registers.pc.toNat_lt_size
    rw [fetched, Registers.advance, if_neg room]
    simp only
    omega

theorem acc_fetched (machine : Machine Port) (word : Word) :
    (machine.fetched word).registers.acc = machine.registers.acc := by
  rw [fetched, Registers.advance]
  split <;> rfl

theorem running_fetched (machine : Machine Port) (word : Word) :
    (machine.fetched word).registers.running = machine.registers.running := by
  rw [fetched, Registers.advance]
  split <;> rfl

theorem fetch_of_get_none {machine : Machine Port}
    (empty : machine.memory.get machine.registers.pc.toNat = .ok none) :
    machine.fetch = .error (.emptyCell machine.registers.pc.toNat) := by
  simp only [fetch, Memory.getInt_eq, empty, Int.toNat_natCast]

theorem fetch_of_get_error {machine : Machine Port} {error : MemoryError}
    (fails : machine.memory.get machine.registers.pc.toNat = .error error) :
    machine.fetch = .error error := by
  simp only [fetch, Memory.getInt_eq, fails]

theorem pending?_of_decode {machine : Machine Port} {word : Word} {instruction : Instruction}
    (held : machine.memory.get machine.registers.pc.toNat = .ok (some word))
    (decoded : Instruction.decode word.value = .ok instruction) :
    machine.pending? = some instruction := by
  simp only [pending?, held, decoded]
  rfl

theorem pending?_of_decode_error {machine : Machine Port} {word : Word} {error : DecodeError}
    (held : machine.memory.get machine.registers.pc.toNat = .ok (some word))
    (unknown : Instruction.decode word.value = .error error) : machine.pending? = none := by
  simp only [pending?, held, unknown]
  rfl

theorem exists_get_of_pending? {machine : Machine Port} {instruction : Instruction}
    (pending : machine.pending? = some instruction) :
    ∃ word, machine.memory.get machine.registers.pc.toNat = .ok (some word) ∧
      Instruction.decode word.value = .ok instruction := by
  unfold pending? at pending
  split at pending
  next word held =>
    cases decoded : Instruction.decode word.value with
    | ok found =>
      rw [decoded] at pending
      cases pending
      exact ⟨word, held, decoded⟩
    | error error =>
      rw [decoded] at pending
      cases pending
  · cases pending

section Steps

variable [CardPort Port]

/-- The ends that a step can come to, each with the result and the machine that it leaves. -/
inductive Outcome (machine : Machine Port) : Except Fault Instruction × Machine Port → Prop where
  | outside (out : ¬machine.memory.Inside machine.registers.pc.toNat) :
      Outcome machine
        (.error (.memory (.outOfRange machine.registers.pc.toNat machine.memory.size)), machine)
  | empty (held : machine.memory.get machine.registers.pc.toNat = .ok none) :
      Outcome machine (.error (.memory (.emptyCell machine.registers.pc.toNat)), machine)
  | unknown {word : Word} (held : machine.memory.get machine.registers.pc.toNat = .ok (some word))
      (negative : word.value < 0) :
      Outcome machine
        (.error (.invalidOperation (.unknownOpcode (word.value / 100))), machine.fetched word)
  | failed {word : Word} {opcode : Opcode} {operand : Fin 100} {fault : Fault} {left : Machine Port}
      (held : machine.memory.get machine.registers.pc.toNat = .ok (some word))
      (digits : word.value = 100 * opcode.digit + operand)
      (fails :
        (machine.fetched word).execute ⟨opcode, UInt8.ofNat operand⟩ = (.error fault, left)) :
      Outcome machine (.error fault, left)
  | done {word : Word} {opcode : Opcode} {operand : Fin 100} {left : Machine Port}
      (held : machine.memory.get machine.registers.pc.toNat = .ok (some word))
      (digits : word.value = 100 * opcode.digit + operand)
      (executed : (machine.fetched word).execute ⟨opcode, UInt8.ofNat operand⟩ = (.ok (), left)) :
      Outcome machine
        (.ok ⟨opcode, UInt8.ofNat operand⟩, left.counted ⟨opcode, UInt8.ofNat operand⟩)

theorem outcome_step (machine : Machine Port) : Outcome machine machine.step := by
  by_cases inside : machine.memory.Inside machine.registers.pc.toNat
  · obtain ⟨cell, held⟩ := Memory.exists_get_of_inside inside
    cases cell with
    | none =>
      rw [step_of_fetch_error (fetch_of_get_none held)]
      exact .empty held
    | some word =>
      by_cases negative : word.value < 0
      · rw [step_of_decode_error (fetch_of_get held) (Instruction.decode_of_negative negative)]
        exact .unknown held negative
      · obtain ⟨opcode, operand, digits⟩ := Instruction.exists_digits (Int.not_lt.mp negative)
        rw [step_of_decode (fetch_of_get held) (Instruction.decode_of_eq digits)]
        cases executed : (machine.fetched word).execute ⟨opcode, UInt8.ofNat operand⟩ with
        | mk result left =>
          cases result with
          | error fault => exact .failed held digits executed
          | ok => exact .done held digits executed
  · rw [step_of_fetch_error (fetch_of_get_error (Memory.get_of_outside inside))]
    exact .outside inside

/-- A step that finds an instruction carries it out. -/
theorem step_of_pending {machine : Machine Port} {instruction : Instruction}
    (pending : machine.pending? = some instruction) : ∃ word,
      machine.step = concluded instruction ((machine.fetched word).execute instruction) := by
  obtain ⟨word, held, decoded⟩ := exists_get_of_pending? pending
  exact ⟨word, step_of_decode (fetch_of_get held) decoded⟩

/-- A step that finds none fails, and leaves the cards alone. -/
theorem step_of_not_pending {machine : Machine Port} (nothing : machine.pending? = none) :
    ∃ fault left, machine.step = (.error fault, left) ∧ left.port = machine.port := by
  have outcome := outcome_step machine
  generalize machine.step = done at outcome ⊢
  cases outcome with
  | outside => exact ⟨_, _, rfl, rfl⟩
  | empty => exact ⟨_, _, rfl, rfl⟩
  | unknown => exact ⟨_, _, rfl, rfl⟩
  | failed held digits =>
    rw [pending?_of_decode held (Instruction.decode_of_eq digits)] at nothing
    cases nothing
  | done held digits =>
    rw [pending?_of_decode held (Instruction.decode_of_eq digits)] at nothing
    cases nothing

/-- Only an instruction that was found is carried out. -/
theorem pending?_of_step {machine : Machine Port} {instruction : Instruction}
    (succeeds : machine.step.1 = .ok instruction) : machine.pending? = some instruction := by
  have outcome := outcome_step machine
  generalize machine.step = done at outcome succeeds
  cases outcome with
  | done held digits =>
    cases succeeds
    exact pending?_of_decode held (Instruction.decode_of_eq digits)
  | _ => cases succeeds

end Steps

theorem combine_error {machine left : Machine Port} {address : Int} {fault : Fault}
    {operation : Accumulator → Int64 → Accumulator}
    (fails : machine.combine address operation = (.error fault, left)) : left = machine := by
  unfold combine at fails
  split at fails
  · cases fails
  · cases fails
    rfl

theorem eq_of_commit_error {machine left : Machine Port} {address : Int}
    {reading : Except WordError Word} {fault : Fault}
    (fails : machine.commit (machine.memory.setReading address reading) = (.error fault, left)) :
    left = machine := by
  rcases written : machine.memory.setReading address reading with ⟨⟨⟩ | ⟨⟩, memory⟩
  · rw [written] at fails
    cases fails
    rw [Memory.eq_of_setReading_error written]
  · rw [written] at fails
    cases fails

section Steps

variable [CardPort Port]

/-- What the instructions do that are carried out. -/
inductive Effect (machine : Machine Port) : Instruction → Machine Port → Prop where
  | input {operand : UInt8} {card : Card} {port : Port} {word : Word}
      (taken : CardPort.read machine.port = (some card, port)) (parsed : Word.parse card = .ok word)
      (inside : machine.memory.Inside operand.toNat) :
      Effect machine ⟨.input, operand⟩
        { machine with port, memory := machine.memory.put operand.toNat word }
  | clearAdd {operand : UInt8} {word : Word}
      (held : machine.memory.get operand.toNat = .ok (some word)) :
      Effect machine ⟨.clearAdd, operand⟩
        { machine with registers := { machine.registers with acc := Int64.ofInt word.value } }
  | add {operand : UInt8} {word : Word}
      (held : machine.memory.get operand.toNat = .ok (some word)) :
      Effect machine ⟨.add, operand⟩
        { machine with registers := { machine.registers with
            acc := Accumulator.add machine.registers.acc (Int64.ofInt word.value) } }
  | branch {operand : UInt8} (negative : machine.registers.acc < 0) :
      Effect machine ⟨.test, operand⟩ { machine with registers := machine.registers.jump operand }
  | pass {operand : UInt8} (positive : ¬machine.registers.acc < 0) :
      Effect machine ⟨.test, operand⟩ machine
  | shift {operand : UInt8} :
      Effect machine ⟨.shift, operand⟩
        { machine with registers := { machine.registers with
            acc := Accumulator.shift machine.registers.acc operand } }
  | output {operand : UInt8} {card : Card}
      (text : machine.memory.getText operand.toNat = .ok card) :
      Effect machine ⟨.output, operand⟩ { machine with port := CardPort.punch machine.port card }
  | store {operand : UInt8} {word : Word}
      (fits : Word.ofInt machine.registers.acc.toInt = .ok word)
      (inside : machine.memory.Inside operand.toNat) :
      Effect machine ⟨.store, operand⟩
        { machine with memory := machine.memory.put operand.toNat word }
  | subtract {operand : UInt8} {word : Word}
      (held : machine.memory.get operand.toNat = .ok (some word)) :
      Effect machine ⟨.subtract, operand⟩
        { machine with registers := { machine.registers with
            acc := Accumulator.subtract machine.registers.acc (Int64.ofInt word.value) } }
  | jump {operand : UInt8} {word : Word}
      (back : Word.ofInt (800 + machine.registers.pc.toNat) = .ok word)
      (inside : machine.memory.Inside returnCell) :
      Effect machine ⟨.jump, operand⟩
        { machine with
          memory := machine.memory.put returnCell word
          registers := machine.registers.jump operand }
  | halt {operand : UInt8} :
      Effect machine ⟨.halt, operand⟩
        { machine with registers := ({} : Registers).jump operand }

omit [CardPort Port] in
theorem combine_ok {machine left : Machine Port} {address : Int}
    {operation : Accumulator → Int64 → Accumulator}
    (combined : machine.combine address operation = (.ok (), left)) :
    ∃ word, machine.memory.get address = .ok (some word) ∧
      left = { machine with registers := { machine.registers with
        acc := operation machine.registers.acc (Int64.ofInt word.value) } } := by
  unfold combine at combined
  split at combined
  next value read =>
    obtain ⟨word, held, rfl⟩ := Memory.exists_get_of_getInt read
    cases combined
    exact ⟨word, held, rfl⟩
  · cases combined

omit [CardPort Port] in
theorem exists_of_commit {machine left : Machine Port} {memory : Memory} {address : Int}
    {reading : Except WordError Word}
    (committed : machine.commit (memory.setReading address reading) = (.ok (), left)) :
    ∃ word, reading = .ok word ∧ memory.Inside address ∧
      left = { machine with memory := memory.put address word } := by
  rcases written : memory.setReading address reading with ⟨⟨⟩ | ⟨⟩, later⟩
  · rw [written] at committed
    cases committed
  · obtain ⟨word, read, inside, rfl⟩ := Memory.exists_of_setReading written
    rw [written] at committed
    cases committed
    exact ⟨word, read, inside, rfl⟩

theorem effect_of_execute {machine left : Machine Port} {instruction : Instruction}
    (executed : machine.execute instruction = (.ok (), left)) :
    Effect machine instruction left := by
  obtain ⟨opcode, operand⟩ := instruction
  cases opcode with
  | input =>
    simp only [execute] at executed
    cases taken : CardPort.read machine.port with
    | mk card port =>
      rw [taken] at executed
      cases card with
      | none => cases executed
      | some card =>
        obtain ⟨word, parsed, inside, rfl⟩ := exists_of_commit executed
        exact .input taken parsed inside
  | clearAdd =>
    simp only [execute] at executed
    obtain ⟨word, held, rfl⟩ := combine_ok executed
    exact .clearAdd held
  | add =>
    simp only [execute] at executed
    obtain ⟨word, held, rfl⟩ := combine_ok executed
    exact .add held
  | test =>
    simp only [execute] at executed
    split at executed
    next negative =>
      cases executed
      exact .branch negative
    next positive =>
      cases executed
      exact .pass positive
  | shift =>
    cases executed
    exact .shift
  | output =>
    simp only [execute] at executed
    split at executed
    next card text =>
      cases executed
      exact .output text
    · cases executed
  | store =>
    simp only [execute] at executed
    obtain ⟨word, fits, inside, rfl⟩ := exists_of_commit executed
    exact .store fits inside
  | subtract =>
    simp only [execute] at executed
    obtain ⟨word, held, rfl⟩ := combine_ok executed
    exact .subtract held
  | jump =>
    simp only [execute] at executed
    split at executed
    next memory written =>
      obtain ⟨word, back, inside, rfl⟩ := Memory.exists_of_setReading written
      cases executed
      exact .jump back inside
    · cases executed
  | halt =>
    cases executed
    exact .halt

/-- What a step that succeeds has done: its word was fetched, its instruction carried out, and both
counted. -/
theorem exists_effect_of_step {machine : Machine Port} {instruction : Instruction}
    (succeeds : machine.step.1 = .ok instruction) : ∃ word left,
      Effect (machine.fetched word) instruction left ∧ machine.step.2 = left.counted instruction := by
  obtain ⟨word, stepped⟩ := step_of_pending (pending?_of_step succeeds)
  rw [stepped] at succeeds ⊢
  cases executed : (machine.fetched word).execute instruction with
  | mk result left =>
    rw [executed] at succeeds
    cases result with
    | error fault => cases succeeds
    | ok => exact ⟨word, left, effect_of_execute executed, rfl⟩

/-- An instruction that fails has changed nothing, except that a card is taken before it is
looked at. -/
theorem execute_error {machine left : Machine Port} {opcode : Opcode} {operand : UInt8}
    {fault : Fault} (fails : machine.execute ⟨opcode, operand⟩ = (.error fault, left)) :
    left = { machine with
      port := if opcode = .input then (CardPort.read machine.port).2 else machine.port } := by
  cases opcode with
  | input =>
    simp only [execute] at fails
    rw [if_pos rfl]
    cases taken : CardPort.read machine.port with
    | mk card port =>
      rw [taken] at fails
      cases card with
      | none =>
        cases fails
        rfl
      | some card => exact eq_of_commit_error fails
  | clearAdd =>
    simp only [execute] at fails
    exact (combine_error fails).trans rfl
  | add =>
    simp only [execute] at fails
    exact (combine_error fails).trans rfl
  | test =>
    simp only [execute] at fails
    split at fails <;> cases fails
  | shift => cases fails
  | output =>
    simp only [execute] at fails
    split at fails
    · cases fails
    · cases fails
      rfl
  | store =>
    simp only [execute] at fails
    exact (eq_of_commit_error fails).trans rfl
  | subtract =>
    simp only [execute] at fails
    exact (combine_error fails).trans rfl
  | jump =>
    simp only [execute] at fails
    split at fails
    · cases fails
    next written =>
      cases fails
      rw [Memory.eq_of_setReading_error written, if_neg (by decide)]
  | halt => cases fails

end Steps

/-- What a failing step leaves of a machine. -/
structure LeftByFailure (machine left : Machine Deck) : Prop where
  memory : left.memory = machine.memory
  output : left.port.output = machine.port.output
  acc : left.registers.acc = machine.registers.acc
  running : left.registers.running = machine.registers.running
  cycles : left.cycles = machine.cycles
  last : left.last = machine.last
  unfetched : ¬machine.memory.Inside machine.registers.pc.toNat ∨
    machine.memory.get machine.registers.pc.toNat = .ok none → left = machine
  fetched : ∀ word, machine.memory.get machine.registers.pc.toNat = .ok (some word) →
    left.registers.ir.toInt = word.value ∧
      left.registers.pc.toNat = machine.registers.pc.toNat + 1
  /-- A fetched input instruction has taken the front card, if there is one. -/
  taken : (∃ operand, machine.pending? = some ⟨.input, operand⟩) →
    left.port.input = machine.port.input.tail
  kept : (∀ operand, machine.pending? ≠ some ⟨.input, operand⟩) →
    left.port.input = machine.port.input

theorem leftByFailure_unfetched {machine : Machine Deck}
    (nothing : ∀ word, machine.memory.get machine.registers.pc.toNat ≠ .ok (some word)) :
    LeftByFailure machine machine where
  memory := rfl
  output := rfl
  acc := rfl
  running := rfl
  cycles := rfl
  last := rfl
  unfetched _ := rfl
  fetched word held := absurd held (nothing word)
  taken := by
    rintro ⟨operand, pending⟩
    unfold pending? at pending
    split at pending
    next word held => exact absurd held (nothing word)
    · cases pending
  kept _ := rfl

theorem leftByFailure_fetched {machine : Machine Deck} {word : Word} {port : Deck}
    (small : machine.memory.size + 1 < UInt32.size)
    (held : machine.memory.get machine.registers.pc.toNat = .ok (some word))
    (output : port.output = machine.port.output)
    (taken : (∃ operand, machine.pending? = some ⟨.input, operand⟩) →
      port.input = machine.port.input.tail)
    (kept : (∀ operand, machine.pending? ≠ some ⟨.input, operand⟩) →
      port.input = machine.port.input) :
    LeftByFailure machine { machine.fetched word with port } where
  memory := rfl
  output := output
  acc := acc_fetched machine word
  running := running_fetched machine word
  cycles := rfl
  last := rfl
  unfetched := by
    rintro (outside | empty)
    · exact absurd (Memory.inside_of_get held) outside
    · rw [held] at empty
      cases empty
  fetched := by
    intro other same
    rw [held] at same
    cases same
    have inside := Memory.inside_of_get held
    unfold Memory.Inside at inside
    exact ⟨toInt_ir_fetched machine word, toNat_pc_fetched (by omega) word⟩
  taken := taken
  kept := kept

/-- A step that fails has fetched its word and perhaps taken its card, and nothing else. -/
theorem failing_step_leaves {machine : Machine Deck} {fault : Fault}
    (small : machine.memory.size + 1 < UInt32.size) (fails : machine.step.1 = .error fault) :
    LeftByFailure machine machine.step.2 := by
  have outcome := outcome_step machine
  generalize machine.step = done at fails outcome
  cases outcome with
  | outside out =>
    exact leftByFailure_unfetched fun word held => out (Memory.inside_of_get held)
  | empty held =>
    refine leftByFailure_unfetched fun word other => ?_
    rw [held] at other
    cases other
  | unknown held negative =>
    refine leftByFailure_fetched small held rfl ?_ fun _ => rfl
    rintro ⟨operand, pending⟩
    rw [pending?_of_decode_error held (Instruction.decode_of_negative negative)] at pending
    cases pending
  | @failed word opcode operand _ _ held digits failed =>
    have pending := pending?_of_decode held (Instruction.decode_of_eq digits)
    rw [execute_error failed]
    by_cases input : opcode = .input
    · -- the card is gone, whether or not it was one that could be stored
      rw [if_pos input, Deck.snd_read]
      refine leftByFailure_fetched small held rfl (fun _ => rfl) fun other => ?_
      subst input
      exact absurd pending (other _)
    · rw [if_neg input]
      refine leftByFailure_fetched small held rfl ?_ fun _ => rfl
      rintro ⟨_, same⟩
      rw [pending] at same
      cases same
      exact absurd rfl input
  | done => cases fails

/-- A card that is no word is gone, though nothing has been stored. -/
theorem bad_card_leaves :
    let machine := fresh (Deck.ofCards ["x", "8"]) {}
    machine.memory.size + 1 < UInt32.size ∧
      machine.step.1 = .error (.memory (.data (.notInteger "x"))) ∧
      LeftByFailure machine machine.step.2 := by
  intro machine
  have small : machine.memory.size + 1 < UInt32.size := by decide
  have fails : machine.step.1 = .error (.memory (.data (.notInteger "x"))) := by cbv
  exact ⟨small, fails, failing_step_leaves small fails⟩

end Machine
end Cardiac
