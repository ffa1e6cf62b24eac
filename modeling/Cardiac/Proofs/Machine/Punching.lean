import Cardiac.Proofs.Machine.Course
import Cardiac.Proofs.Text.Numerals

/-!
# What the machine punches

Only an output instruction adds to the tray, and what it adds is the text of its cell: a word of
three digits, or an empty card if the cell is empty. So the tray behind any steps is the one before
them, followed by one card for each output instruction that was carried out.
-/
namespace Cardiac

/-- The card that the instruction punches, if it is an output instruction and has a cell. -/
def Instruction.punched? (instruction : Instruction) (memory : Memory) : Option Card :=
  if instruction.opcode = .output then (memory.getText instruction.operand.toNat).toOption else none

/-- A cell's text, of which there are two kinds. -/
theorem Memory.getText_eq_ok_iff {memory : Memory} {address : Int} {card : Card} :
    memory.getText address = .ok card ↔
      memory.get address = .ok none ∧ card = "" ∨
        ∃ word, memory.get address = .ok (some word) ∧ card = word.text := by
  unfold getText
  split
  next word held => simp [held, eq_comm]
  next held => simp [held, eq_comm]
  next error fails => simp [fails]

namespace Machine

section Steps

variable {Port : Type}

/-- The card that the next step punches, if it punches one. -/
def punched? (machine : Machine Port) : Option Card :=
  machine.pending?.bind fun instruction => instruction.punched? machine.memory

/-- The next step punches an empty card, for nothing has been written to the cell. -/
def PunchesEmptyCell (machine : Machine Port) : Prop :=
  ∃ operand, machine.pending? = some ⟨.output, operand⟩ ∧
    machine.memory.get operand.toNat = .ok none

variable {machine left : Machine Port}

theorem punched?_of_pending {instruction : Instruction}
    (pending : machine.pending? = some instruction) :
    machine.punched? = instruction.punched? machine.memory := by
  rw [punched?, pending, Option.bind_some]

theorem punched?_of_not_pending (nothing : machine.pending? = none) : machine.punched? = none := by
  rw [punched?, nothing, Option.bind_none]

theorem punched?_eq_some_iff {card : Card} :
    machine.punched? = some card ↔ ∃ operand, machine.pending? = some ⟨.output, operand⟩ ∧
      machine.memory.getText operand.toNat = .ok card := by
  constructor
  · intro punches
    obtain ⟨⟨opcode, operand⟩, pending, punches⟩ := Option.bind_eq_some_iff.mp punches
    unfold Instruction.punched? at punches
    split at punches
    next output =>
      cases text : machine.memory.getText operand.toNat with
      | error error =>
        rw [text] at punches
        cases punches
      | ok found =>
        rw [text] at punches
        cases punches
        exact ⟨operand, output ▸ pending, text⟩
    · cases punches
  · rintro ⟨operand, pending, text⟩
    rw [punched?_of_pending pending, Instruction.punched?, if_pos rfl, text]
    rfl

theorem punched?_eq_empty_iff : machine.punched? = some "" ↔ machine.PunchesEmptyCell := by
  rw [punched?_eq_some_iff]
  refine exists_congr fun operand => and_congr_right fun _ => ?_
  rw [Memory.getText_eq_ok_iff]
  constructor
  · rintro (⟨held, -⟩ | ⟨word, -, empty⟩)
    · exact held
    · exact absurd empty.symm word.text_ne_empty
  · intro held
    exact .inl ⟨held, rfl⟩

variable [CardPort Port]

theorem punched?_of_execute_error {instruction : Instruction} {fault : Fault}
    (fails : machine.execute instruction = (.error fault, left)) :
    instruction.punched? machine.memory = none := by
  obtain ⟨opcode, operand⟩ := instruction
  unfold Instruction.punched?
  split
  next output =>
    obtain rfl : opcode = .output := output
    simp only [execute] at fails
    split at fails
    · cases fails
    next error unreadable => simp only [unreadable, Except.toOption]
  · rfl

end Steps

/-! ### The tray of a deck -/

variable {machine left final : Machine Deck}

theorem Effect.tray {instruction : Instruction} (effect : Effect machine instruction left) :
    left.port.output.toList =
      machine.port.output.toList ++ (instruction.punched? machine.memory).toList := by
  cases effect with
  | input taken =>
    have read := congrArg Deck.output machine.port.snd_read
    rw [taken] at read
    simpa [Instruction.punched?] using congrArg Array.toList read
  | @output operand card text =>
    have punches : (⟨.output, operand⟩ : Instruction).punched? machine.memory = some card := by
      rw [Instruction.punched?, if_pos rfl, text]
      rfl
    rw [punches]
    exact Array.toList_push ..
  | _ => simp [Instruction.punched?]

/-- A step adds to the tray what it punches, and nothing if it fails. -/
theorem tray_step (machine : Machine Deck) :
    machine.step.2.port.output.toList =
        machine.port.output.toList ++ machine.punched?.toList ∧
      ∀ fault, machine.step.1 = .error fault → machine.punched? = none := by
  cases pending : machine.pending? with
  | none =>
    obtain ⟨fault, left, stepped, port⟩ := step_of_not_pending pending
    simp [stepped, port, punched?_of_not_pending pending]
  | some instruction =>
    obtain ⟨word, stepped⟩ := step_of_pending pending
    rw [stepped]
    cases executed : (machine.fetched word).execute instruction with
    | mk result left =>
      cases result with
      | error fault =>
        have unread : instruction.punched? (machine.fetched word).memory = none :=
          punched?_of_execute_error executed
        have nothing : machine.punched? = none := (punched?_of_pending pending).trans unread
        refine ⟨?_, fun _ _ => nothing⟩
        -- a card that was taken was taken from the other side
        rw [nothing, concluded, execute_error executed]
        by_cases input : instruction.opcode = .input
        · simp only [if_pos input, Deck.snd_read, Option.toList_none, List.append_nil, fetched]
        · simp only [if_neg input, Option.toList_none, List.append_nil, fetched]
      | ok =>
        rw [punched?_of_pending pending]
        refine ⟨(effect_of_execute executed).tray, ?_⟩
        intro fault fails
        cases fails

/-- The cards that so many steps punch, one after the other. -/
def punchedBy (machine : Machine Deck) (steps : Nat) : List Card :=
  (List.range steps).filterMap fun earlier => (machine.afterSteps earlier).punched?

theorem mem_punchedBy_iff {steps : Nat} {card : Card} :
    card ∈ machine.punchedBy steps ↔
      ∃ earlier < steps, (machine.afterSteps earlier).punched? = some card := by
  simp [punchedBy, List.mem_filterMap]

theorem tray_afterSteps (machine : Machine Deck) (steps : Nat) :
    (machine.afterSteps steps).port.output.toList =
      machine.port.output.toList ++ machine.punchedBy steps := by
  induction steps with
  | zero => simp [afterSteps, punchedBy]
  | succ steps ih =>
    rw [afterSteps, (tray_step _).1, ih, punchedBy, punchedBy, List.range_succ,
      List.filterMap_append, List.append_assoc]
    cases punches : (machine.afterSteps steps).punched? <;> simp [punches]

theorem Ending.tray {limit : Option Nat} {count : Nat} {result : Except Fault RunSummary}
    (ending : Ending limit count machine result final) :
    final.port.output = machine.port.output := by
  have last := tray_step machine
  cases ending with
  | halted => rfl
  | cycleLimit => rfl
  | @inputExhausted left _ _ starved =>
    rw [starved] at last
    -- the reset leaves the cards alone
    have kept : left.port.output = machine.port.output := by simpa [last.2 _ rfl] using last.1
    exact kept
  | failed _ _ fails =>
    rw [fails] at last
    simpa [last.2 _ rfl] using last.1

/-- The tray behind a run holds what the instructions have punched that it has executed. -/
theorem Course.tray {limit : Option Nat} {count : Nat} {result : Except Fault RunSummary}
    (course : Course machine limit count result final) :
    final.port.output.toList = machine.port.output.toList ++ machine.punchedBy count := by
  rw [course.ending.tray, tray_afterSteps]

end Machine
end Cardiac
