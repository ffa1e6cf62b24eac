import Cardiac.Proofs.Machine.Course
import Cardiac.Proofs.Memory.Growth

/-! A step puts one word to memory at most, so neither a step nor a run empties a cell. -/
namespace Cardiac.Machine

variable {Port : Type} [CardPort Port] {machine left final : Machine Port}

/-- One word at most is put to memory, at an address of two digits. -/
def PutsOne (earlier later : Memory) : Prop :=
  later = earlier ∨ ∃ (address : Fin 100) (word : Word), later = earlier.put address.val word

theorem Effect.putsOne {opcode : Opcode} {operand : Fin 100}
    (effect : Effect machine ⟨opcode, UInt8.ofNat operand⟩ left) :
    PutsOne machine.memory left.memory := by
  have here (word : Word) : PutsOne machine.memory
      (machine.memory.put (UInt8.ofNat operand).toNat word) := by
    rw [toNat_ofNat_address]
    exact .inr ⟨operand, word, rfl⟩
  -- three instructions write a word, and the others leave the memory alone
  cases effect with
  | input => exact here _
  | store => exact here _
  | jump => exact .inr ⟨99, _, rfl⟩
  | _ => exact .inl rfl

theorem putsOne_step (machine : Machine Port) :
    PutsOne machine.memory machine.step.2.memory := by
  have outcome := outcome_step machine
  cases stepped : machine.step with
  | mk result left =>
    rw [stepped] at outcome
    cases outcome with
    | done _ _ executed => exact (effect_of_execute executed).putsOne
    | _ =>
      -- a step that fails has written nothing
      exact .inl (failed_of_step stepped).memory

theorem grows_step (machine : Machine Port) : machine.memory.Grows machine.step.2.memory := by
  rcases machine.putsOne_step with same | ⟨address, word, written⟩
  · rw [same]
    exact .refl _
  · rw [written]
    exact .put ..

theorem grows_afterSteps (machine : Machine Port) (count : Nat) :
    machine.memory.Grows (machine.afterSteps count).memory := by
  induction count with
  | zero => exact .refl _
  | succ count ih => exact ih.trans (grows_step _)

theorem Ending.grows {limit : Option Nat} {count : Nat} {result : Except Fault RunSummary}
    (ending : Ending limit count machine result final) : machine.memory.Grows final.memory := by
  have last := grows_step machine
  cases ending with
  | halted => exact .refl _
  | cycleLimit => exact .refl _
  | inputExhausted _ _ starved =>
    rw [starved] at last
    exact last
  | failed _ _ fails =>
    rw [fails] at last
    exact last

theorem Ends.grows {Seen : Type} {observe : Seen → Snapshot → Seen} {seen : Seen}
    {limit : Option Nat} {done : RunEnd Port Seen} (ends : Ends observe seen limit machine done) :
    machine.memory.Grows done.machine.memory := by
  obtain ⟨count, course, -⟩ := ends_iff.mp ends
  exact (grows_afterSteps machine.started count).trans course.ending.grows

end Cardiac.Machine
