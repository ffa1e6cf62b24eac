import Mathlib
import Cardiac.Proofs.Cards.Values
import Cardiac.Proofs.Machine.Growth
import Cardiac.Proofs.Machine.Punching

/-!
# What steps do to cards and cells

No card is lost, doubled or moved past another. The input loses its front card with every input
instruction that is fetched while there is one, even if the step then fails, and the tray gains a
card with every output instruction that is carried out. A step writes one cell at most, which its
instruction names, and a step that fails writes none.
-/
namespace Cardiac

/-- The address that the instruction writes to, if it writes at all. -/
def Instruction.target? (instruction : Instruction) : Option Int :=
  match instruction.opcode with
  | .input | .store => some instruction.operand.toNat
  | .jump => some Machine.returnCell
  | .clearAdd | .add | .test | .shift | .output | .subtract | .halt => none

namespace Machine

/-- The next step fetches an input instruction. -/
def FetchesInput {Port : Type} (machine : Machine Port) : Prop :=
  machine.pending?.map Instruction.opcode = some .input

instance {Port : Type} (machine : Machine Port) : Decidable machine.FetchesInput :=
  inferInstanceAs (Decidable (_ = _))

/-- The next step fetches an input instruction while there is a card. -/
def TakesCard (machine : Machine Deck) : Prop :=
  machine.FetchesInput ∧ machine.port.input ≠ []

instance (machine : Machine Deck) : Decidable machine.TakesCard :=
  inferInstanceAs (Decidable (_ ∧ _))

/-- The cell has the card as its text: three digits and perhaps a sign for a word, and nothing for
an empty cell. -/
def CellReads (memory : Memory) (address : Int) (card : Card) : Prop :=
  memory.get address = .ok none ∧ card = "" ∨
    ∃ word, memory.get address = .ok (some word) ∧ card = word.text ∧ word.IsWritten card

/-- What the next step does to the cards and cells of a machine. -/
structure Accounted (machine : Machine Deck) : Prop where
  /-- The step punches a card exactly if it carries out an output instruction. -/
  punched : ∀ card, machine.punched? = some card ↔
    ∃ operand, machine.step.1 = .ok ⟨.output, operand⟩ ∧
      CellReads machine.memory operand.toNat card
  size : machine.step.2.memory.size = machine.memory.size
  failed : ∀ fault, machine.step.1 = .error fault → machine.step.2.memory = machine.memory
  kept : ∀ instruction, machine.step.1 = .ok instruction →
    ∀ address, instruction.target? ≠ some address →
      machine.step.2.memory.get address = machine.memory.get address
  /-- An input instruction that is carried out stores the card that it has taken. -/
  stored : ∀ operand, machine.step.1 = .ok ⟨.input, operand⟩ →
    ∃ card rest word, machine.port.input = card :: rest ∧ machine.step.2.port.input = rest ∧
      Word.parse card = .ok word ∧ machine.step.2.memory.get operand.toNat = .ok (some word)

variable {machine left : Machine Deck}

/-! ### The input -/

theorem input_read {deck port : Deck} {card : Option Card}
    (taken : CardPort.read deck = (card, port)) :
    card = deck.input.head? ∧ port.input = deck.input.tail := by
  obtain ⟨input, output⟩ := deck
  cases input <;> cases taken <;> exact ⟨rfl, rfl⟩

/-- A card is taken before it is looked at, so it is gone even if it cannot be stored. -/
theorem input_execute {instruction : Instruction} {result : Except Fault Unit}
    (executed : machine.execute instruction = (result, left)) : left.port.input =
      if instruction.opcode = .input then machine.port.input.tail else machine.port.input := by
  cases result with
  | error fault =>
    obtain ⟨opcode, operand⟩ := instruction
    rw [execute_error executed]
    by_cases input : opcode = .input
    · simp only [if_pos input, Deck.snd_read]
    · simp only [if_neg input]
  | ok =>
    cases effect_of_execute executed with
    | input taken => exact (input_read taken).2
    | _ => rfl

theorem input_step (machine : Machine Deck) : machine.step.2.port.input =
    if machine.FetchesInput then machine.port.input.tail else machine.port.input := by
  cases pending : machine.pending? with
  | none =>
    obtain ⟨fault, left, stepped, port⟩ := step_of_not_pending pending
    rw [stepped, if_neg (by simp [FetchesInput, pending])]
    exact congrArg Deck.input port
  | some instruction =>
    obtain ⟨word, stepped⟩ := step_of_pending pending
    have fetches : machine.FetchesInput ↔ instruction.opcode = .input := by
      simp [FetchesInput, pending]
    simp only [stepped, fetches]
    cases executed : (machine.fetched word).execute instruction with
    | mk result left =>
      have kept := input_execute executed
      cases result <;> exact kept

/-- The input is what has been taken and what is left, in this order. -/
theorem input_afterSteps (machine : Machine Deck) (steps : Nat) :
    ∃ consumed, machine.port.input = consumed ++ (machine.afterSteps steps).port.input ∧
      consumed.length = Nat.count (fun earlier => (machine.afterSteps earlier).TakesCard) steps := by
  induction steps with
  | zero => exact ⟨[], rfl, rfl⟩
  | succ steps ih =>
    obtain ⟨consumed, split, count⟩ := ih
    rw [afterSteps, input_step, Nat.count_succ, ← count]
    generalize machine.afterSteps steps = reached at split ⊢
    by_cases takes : reached.TakesCard
    · obtain ⟨card, rest, waiting⟩ := List.exists_cons_of_ne_nil takes.2
      refine ⟨consumed ++ [card], ?_, ?_⟩
      · rw [if_pos takes.1, List.append_assoc, split, waiting]
        rfl
      · rw [if_pos takes, List.length_append, List.length_singleton]
    · refine ⟨consumed, ?_, by rw [if_neg takes, Nat.add_zero]⟩
      -- an input instruction that finds no card leaves none
      split
      next fetches =>
        have empty : reached.port.input = [] := by
          by_contra waiting
          exact takes ⟨fetches, waiting⟩
        rw [split, empty, List.tail_nil]
      · exact split

/-! ### The tray -/

theorem cellReads_iff {memory : Memory} {address : Int} {card : Card} :
    CellReads memory address card ↔ memory.getText address = .ok card := by
  rw [CellReads, Memory.getText_eq_ok_iff]
  refine or_congr_right (exists_congr fun word => and_congr_right fun _ => ?_)
  constructor
  · exact And.left
  · rintro rfl
    exact ⟨rfl, Word.isWritten_text word⟩

/-- An output instruction needs nothing but a cell. -/
theorem step_of_output {operand : UInt8} {card : Card}
    (pending : machine.pending? = some ⟨.output, operand⟩)
    (text : machine.memory.getText operand.toNat = .ok card) :
    machine.step.1 = .ok ⟨.output, operand⟩ := by
  obtain ⟨word, stepped⟩ := step_of_pending pending
  have same : (machine.fetched word).memory.getText operand.toNat = .ok card := text
  rw [stepped]
  simp only [execute, same, concluded]

theorem punched?_eq_some_iff_step {card : Card} :
    machine.punched? = some card ↔ ∃ operand, machine.step.1 = .ok ⟨.output, operand⟩ ∧
      CellReads machine.memory operand.toNat card := by
  simp only [punched?_eq_some_iff, cellReads_iff]
  refine exists_congr fun operand => and_congr_left fun text => ?_
  exact ⟨fun pending => step_of_output pending text, pending?_of_step⟩

/-! ### The cells -/

theorem Effect.get_of_ne {instruction : Instruction} (effect : Effect machine instruction left)
    {address : Int} (other : instruction.target? ≠ some address) :
    left.memory.get address = machine.memory.get address := by
  have apart {target : Int} (written : instruction.target? = some target) : address ≠ target := by
    rintro rfl
    exact other written
  cases effect with
  | input => exact Memory.get_put_of_ne (apart rfl) _
  | store => exact Memory.get_put_of_ne (apart rfl) _
  | jump => exact Memory.get_put_of_ne (apart rfl) _
  | _ => rfl

theorem Effect.stored {operand : UInt8} (effect : Effect machine ⟨.input, operand⟩ left) :
    ∃ card rest word, machine.port.input = card :: rest ∧ left.port.input = rest ∧
      Word.parse card = .ok word ∧ left.memory.get operand.toNat = .ok (some word) := by
  cases effect with
  | @input _ card port word taken parsed inside =>
    obtain ⟨front, rest⟩ := input_read taken
    have waiting : machine.port.input = card :: port.input := by
      rw [rest]
      exact List.eq_cons_of_mem_head? front.symm
    exact ⟨card, port.input, word, waiting, rfl, parsed, Memory.get_put_self inside word⟩

theorem accounted (machine : Machine Deck) : Accounted machine where
  punched card := punched?_eq_some_iff_step
  size := machine.grows_step.size
  failed fault fails := (failed_of_step (Prod.ext fails rfl)).memory
  kept instruction succeeds address other := by
    obtain ⟨word, left, effect, next⟩ := exists_effect_of_step succeeds
    rw [next]
    exact effect.get_of_ne other
  stored operand succeeds := by
    obtain ⟨word, left, effect, next⟩ := exists_effect_of_step succeeds
    rw [next]
    exact effect.stored

/-- Over any steps, whether they succeed or fail, the cards that were waiting are those that have
been taken and those that still wait, and the tray has gained what was punched. Each of the steps
is accounted for. -/
theorem cards_conserved (machine : Machine Deck) (steps : Nat) :
    let final := machine.afterSteps steps
    (∃ consumed, machine.port.input = consumed ++ final.port.input ∧
        consumed.length =
          Nat.count (fun earlier => (machine.afterSteps earlier).TakesCard) steps) ∧
      final.port.output.toList = machine.port.output.toList ++
        (List.range steps).filterMap (fun earlier => (machine.afterSteps earlier).punched?) ∧
      ∀ earlier, Accounted (machine.afterSteps earlier) :=
  ⟨input_afterSteps machine steps, tray_afterSteps machine steps, fun _ => accounted _⟩

/-- Two cards are taken, of which the first is none that could be stored, and two are punched, of
which the second is empty. -/
theorem bad_card_taken :
    let words := [⟨50, by decide, by decide⟩, ⟨51, by decide, by decide⟩,
      ⟨551, by decide, by decide⟩, ⟨552, by decide, by decide⟩]
    let machine : Machine Deck := { fresh (Deck.ofCards ["x", "-7", "8"]) {} with
      memory := Memory.standard.putAll (List.zip [0, 1, 2, 3] words) }
    Nat.count (fun earlier => (machine.afterSteps earlier).TakesCard) 4 = 2 ∧
      machine.step.1 = .error (.memory (.data (.notInteger "x"))) ∧
      (machine.afterSteps 4).port.input = ["8"] ∧
      (machine.afterSteps 4).port.output.toList = ["-007", ""] := by
  intro words machine
  obtain ⟨⟨consumed, split, length⟩, tray, -⟩ := cards_conserved machine 4
  have count : Nat.count (fun earlier => (machine.afterSteps earlier).TakesCard) 4 = 2 := by
    decide +kernel
  rw [count] at length
  refine ⟨count, by cbv, ?_, tray.trans ?_⟩
  · obtain ⟨first, second, rfl⟩ := List.length_eq_two.mp length
    exact (List.cons.inj (List.cons.inj split).2).2.symm
  · decide +kernel

end Machine
end Cardiac
