import Mathlib
import Cardiac.Proofs.Accumulator
import Cardiac.Proofs.Machine.Growth
import Cardiac.Proofs.Machine.Policy

/-!
# How far the registers go

An attempt at a step adds one word to the accumulator at most, or takes it away. Every other
instruction that sets the accumulator leaves at most four digits in it, so it grows by at most 999
with each attempt. The program counter is behind a cell that was fetched, or at an address of two
digits. So the program counter can always go on, and before a sum wraps around there are more steps
than any run will ever have.
-/
namespace Cardiac

theorem Word.abs_value_le (word : Word) : |word.value| ≤ 999 :=
  abs_le.mpr ⟨word.lower, word.upper⟩

namespace Registers

/-- Where the registers are behind so many attempts at a step, with a memory of the size. -/
structure InRange (size attempts : Nat) (registers : Registers) : Prop where
  acc : |registers.acc.toInt| ≤ 9999 + 999 * attempts
  ir : |registers.ir.toInt| ≤ 999
  /-- Behind the last cell at most, or at an address of two digits. -/
  pc : registers.pc.toNat ≤ max (size + 1) 99

namespace InRange

variable {size attempts : Nat} {registers : Registers} {acc : Accumulator}

theorem cleared (size attempts : Nat) : InRange size attempts {} where
  acc := by
    rw [Int64.toInt_zero, abs_zero]
    positivity
  ir := by decide
  pc := Nat.zero_le _

theorem later (inRange : registers.InRange size attempts) :
    registers.InRange size (attempts + 1) where
  acc := by
    have bound := inRange.acc
    push_cast
    omega
  ir := inRange.ir
  pc := inRange.pc

theorem moved (inRange : registers.InRange size attempts) {pc : UInt32} (short : pc.toNat ≤ 99) :
    { registers with pc }.InRange size attempts where
  acc := inRange.acc
  ir := inRange.ir
  pc := short.trans (Nat.le_max_right ..)

theorem jump (inRange : registers.InRange size attempts) {operand : UInt8}
    (short : operand.toNat ≤ 99) : (registers.jump operand).InRange size attempts :=
  inRange.moved (by rwa [UInt8.toNat_toUInt32])

theorem replaced (inRange : registers.InRange size attempts) (short : |acc.toInt| ≤ 9999) :
    { registers with acc }.InRange size attempts where
  acc := by
    show |acc.toInt| ≤ _
    omega
  ir := inRange.ir
  pc := inRange.pc

/-- One word more or less. -/
theorem combined (inRange : registers.InRange size attempts) {word : Word}
    (near : |acc.toInt| ≤ |registers.acc.toInt| + |(Int64.ofInt word.value).toInt|) :
    { registers with acc }.InRange size (attempts + 1) where
  acc := by
    have bound := inRange.acc
    have short := word.abs_value_le
    rw [word.toInt_ofInt_value] at near
    show |acc.toInt| ≤ _
    push_cast
    omega
  ir := inRange.ir
  pc := inRange.pc

/-- The program counter can always go on. -/
theorem room (inRange : registers.InRange size attempts) (small : size ≤ Memory.greatestSize) :
    registers.pc.toNat + 1 < UInt32.size := by
  have bound := inRange.pc
  simp only [Memory.greatestSize] at small
  simp only [UInt32.size]
  omega

/-- The accumulator can take one more word, if there have not been too many. -/
theorem holds (inRange : registers.InRange size attempts) (few : attempts < 9 * 10 ^ 15)
    (word : Word) : |registers.acc.toInt| + |(Int64.ofInt word.value).toInt| < 2 ^ 63 := by
  have bound := inRange.acc
  have short := word.abs_value_le
  rw [word.toInt_ofInt_value]
  omega

end InRange
end Registers

namespace Machine

variable {Port : Type}

/-- A fresh machine, perhaps with images loaded in one way or the other. -/
inductive Prepared (config : Config) : {Port : Type} → Machine Port → Prop where
  | fresh {Port : Type} (port : Port) : Prepared config (fresh port config)
  | boot {machine : Machine Deck} (image : CardImage) (prepared : Prepared config machine) :
      Prepared config (machine.boot image)
  -- loading may fail, and then what it leaves is prepared as well
  | load {Port : Type} {machine : Machine Port} (image : CardImage)
      (prepared : Prepared config machine) : Prepared config (machine.load image).2

section Steps

variable [CardPort Port]

/-- An attempt at a step has the result and leaves the machine, be it under the exhaustion policy
or not. -/
def Tries (machine : Machine Port) (result : Except Fault Instruction) (left : Machine Port) :
    Prop :=
  machine.step = (result, left) ∨ machine.stepWithPolicy = (result, left)

/-- So many attempts lead from the machine to the other, and so many of them succeed. -/
inductive Attempts (machine : Machine Port) : (attempts successes : Nat) → Machine Port → Prop where
  | none : Attempts machine 0 0 machine
  | succeeded {attempts successes : Nat} {reached next : Machine Port} {instruction : Instruction}
      (before : Attempts machine attempts successes reached)
      (tries : reached.Tries (.ok instruction) next) :
      Attempts machine (attempts + 1) (successes + 1) next
  | failed {attempts successes : Nat} {reached left : Machine Port} {fault : Fault}
      (before : Attempts machine attempts successes reached)
      (tries : reached.Tries (.error fault) left) :
      Attempts machine (attempts + 1) successes left
  -- a run starts the machine before its first step
  | started {attempts successes : Nat} {reached : Machine Port}
      (before : Attempts machine attempts successes reached) :
      Attempts machine attempts successes reached.started

/-- The next step finds the sum or the difference itself, if it is to find one. -/
structure SumsExactly (machine : Machine Port) : Prop where
  add : ∀ operand, machine.step.1 = .ok ⟨.add, operand⟩ →
    ∃ word, machine.memory.get operand.toNat = .ok (some word) ∧
      machine.step.2.registers.acc.toInt = machine.registers.acc.toInt + word.value
  subtract : ∀ operand, machine.step.1 = .ok ⟨.subtract, operand⟩ →
    ∃ word, machine.memory.get operand.toNat = .ok (some word) ∧
      machine.step.2.registers.acc.toInt = machine.registers.acc.toInt - word.value

/-- What is true behind so many attempts and successes. -/
structure InRange (config : Config) (attempts successes : Nat) (machine : Machine Port) : Prop where
  registers : machine.registers.InRange machine.memory.size attempts
  size : machine.memory.size = (Memory.ofSize config.memorySize).size
  cycles : machine.cycles = UInt64.ofNat successes

variable {config : Config} {machine left reached next final : Machine Port}
  {instruction : Instruction} {fault : Fault} {result : Except Fault Instruction}
  {size attempts successes : Nat}

/-! ### One step -/

omit [CardPort Port] in
theorem inRange_fetched (inRange : machine.registers.InRange machine.memory.size attempts)
    {word : Word} (held : machine.memory.get machine.registers.pc.toNat = .ok (some word)) :
    (machine.fetched word).registers.InRange machine.memory.size attempts where
  acc := by
    rw [acc_fetched]
    exact inRange.acc
  ir := by
    rw [toInt_ir_fetched]
    exact word.abs_value_le
  pc := by
    have inside := Memory.inside_of_get held
    unfold Memory.Inside at inside
    rw [toNat_pc_fetched_eq_min]
    omega

theorem Effect.inRange (effect : Effect machine instruction left)
    (short : instruction.operand.toNat ≤ 99)
    (inRange : machine.registers.InRange size attempts) :
    left.registers.InRange size (attempts + 1) := by
  cases effect with
  | @clearAdd _ word =>
    refine (inRange.replaced ?_).later
    have value := word.abs_value_le
    rw [word.toInt_ofInt_value]
    omega
  | add => exact inRange.combined (Accumulator.abs_toInt_add_le ..)
  | subtract => exact inRange.combined (Accumulator.abs_toInt_subtract_le ..)
  | shift =>
    refine (inRange.replaced ?_).later
    rw [Accumulator.toInt_shift, abs_le]
    omega
  | branch => exact (inRange.jump short).later
  | jump => exact (inRange.jump short).later
  | halt => exact (Registers.InRange.cleared size _).jump short
  -- the others leave the registers alone
  | _ => exact inRange.later

theorem inRange_step (inRange : machine.registers.InRange machine.memory.size attempts) :
    machine.step.2.registers.InRange machine.memory.size (attempts + 1) := by
  have outcome := outcome_step machine
  generalize machine.step = done at outcome ⊢
  cases outcome with
  | outside => exact inRange.later
  | empty => exact inRange.later
  | unknown held => exact (inRange_fetched inRange held).later
  | failed held _ fails =>
    rw [execute_error fails]
    exact (inRange_fetched inRange held).later
  | @done word opcode operand left held _ executed =>
    have short : (UInt8.ofNat operand).toNat ≤ 99 := by
      rw [toNat_ofNat_address]
      omega
    exact (effect_of_execute executed).inRange short (inRange_fetched inRange held)

theorem sumsExactly_of_inRange (inRange : machine.registers.InRange size attempts)
    (few : attempts < 9 * 10 ^ 15) : SumsExactly machine where
  add operand succeeds := by
    obtain ⟨_, left, effect, next⟩ := exists_effect_of_step succeeds
    cases effect with
    | @add _ word held =>
      have sum := Accumulator.toInt_add_of_lt (inRange.holds few word)
      rw [word.toInt_ofInt_value] at sum
      refine ⟨word, held, ?_⟩
      rw [next]
      simp only [counted, acc_fetched]
      exact sum
  subtract operand succeeds := by
    obtain ⟨_, left, effect, next⟩ := exists_effect_of_step succeeds
    cases effect with
    | @subtract _ word held =>
      have difference := Accumulator.toInt_subtract_of_lt (inRange.holds few word)
      rw [word.toInt_ofInt_value] at difference
      refine ⟨word, held, ?_⟩
      rw [next]
      simp only [counted, acc_fetched]
      exact difference

/-! ### Attempts one after the other -/

/-- The policy clears the registers at most. -/
theorem Tries.exists_step (tries : machine.Tries result next) :
    ∃ left, machine.step = (result, left) ∧ (next = left ∨ next = left.reset) := by
  rcases tries with stepped | stepped
  · exact ⟨next, stepped, .inl rfl⟩
  · cases result with
    | ok instruction => exact ⟨next, step_of_stepWithPolicy_ok stepped, .inl rfl⟩
    | error fault =>
      obtain ⟨first, fails, leftOver⟩ := exists_step_of_stepWithPolicy_error stepped
      refine ⟨first, fails, ?_⟩
      cases leftOver with
      | reset => exact .inr rfl
      | _ => exact .inl rfl

theorem InRange.tries (inRange : InRange config attempts successes machine)
    (tries : machine.Tries result next) {more : Nat}
    (cycles : machine.step.2.cycles = UInt64.ofNat more) :
    InRange config (attempts + 1) more next := by
  obtain ⟨left, stepped, same⟩ := tries.exists_step
  have registers := inRange_step inRange.registers
  have size := (grows_step machine).size
  rw [stepped] at registers size cycles
  simp only at registers size cycles
  rw [← size] at registers
  rcases same with rfl | rfl
  · exact ⟨registers, size.trans inRange.size, cycles⟩
  · -- cleared registers are in any range
    exact ⟨.cleared _ _, size.trans inRange.size, cycles⟩

theorem InRange.succeeded (inRange : InRange config attempts successes machine)
    (tries : machine.Tries (.ok instruction) next) :
    InRange config (attempts + 1) (successes + 1) next := by
  refine inRange.tries tries ?_
  obtain ⟨left, stepped, -⟩ := tries.exists_step
  rw [stepped, (succeeded_of_step stepped).cycles, inRange.cycles, UInt64.ofNat_add]
  rfl

theorem InRange.failed (inRange : InRange config attempts successes machine)
    (tries : machine.Tries (.error fault) next) : InRange config (attempts + 1) successes next := by
  refine inRange.tries tries ?_
  obtain ⟨left, stepped, -⟩ := tries.exists_step
  rw [stepped, (failed_of_step stepped).cycles, inRange.cycles]

omit [CardPort Port] in
theorem InRange.load (inRange : InRange config attempts successes machine) (image : CardImage) :
    InRange config attempts successes (machine.load image).2 := by
  have size := (Memory.Grows.write machine.memory image.pairs).size
  have registers := inRange.registers
  rw [← size] at registers
  unfold Machine.load
  split
  next written =>
    rw [written] at size registers
    exact ⟨registers.moved (by decide), size.trans inRange.size, inRange.cycles⟩
  next written =>
    rw [written] at size registers
    exact ⟨registers, size.trans inRange.size, inRange.cycles⟩

omit [CardPort Port] in
theorem Prepared.inRange (prepared : Prepared config machine) : InRange config 0 0 machine := by
  induction prepared with
  | fresh port => exact ⟨.cleared _ _, rfl, rfl⟩
  | boot image _ ih => exact ⟨ih.registers.moved (by decide), ih.size, ih.cycles⟩
  | load image _ ih => exact ih.load image

theorem Attempts.inRange (attempted : Attempts machine attempts successes final)
    (inRange : InRange config 0 0 machine) : InRange config attempts successes final := by
  induction attempted with
  | none => exact inRange
  | succeeded _ tries ih => exact ih.succeeded tries
  | failed _ tries ih => exact ih.failed tries
  | started _ ih =>
    -- none of the bounds is about the running flag
    exact ⟨⟨ih.registers.acc, ih.registers.ir, ih.registers.pc⟩, ih.size, ih.cycles⟩

theorem Attempts.successes_le (attempted : Attempts machine attempts successes final) :
    successes ≤ attempts := by
  induction attempted with
  | none => exact Nat.le_refl 0
  | succeeded _ _ ih => exact Nat.succ_le_succ ih
  | failed _ _ ih => exact ih.trans (Nat.le_succ _)
  | started _ ih => exact ih

theorem Attempts.passes {property : Machine Port → Prop} {count : Nat}
    (attempted : Attempts machine attempts successes reached)
    (passes : Passes property count reached final) :
    Attempts machine (attempts + count) (successes + count) final := by
  induction passes generalizing attempts successes with
  | done => exact attempted
  | @next count _ _ _ _ _ stepped _ ih =>
    rw [← Nat.add_assoc, ← Nat.add_assoc, Nat.add_right_comm, Nat.add_right_comm successes]
    exact ih (attempted.succeeded (.inl stepped))

/-- A run is a sequence of attempts, of which the last one may fail. -/
theorem Attempts.run {limit : Option Nat} {summary : Except Fault RunSummary}
    (attempted : Attempts machine attempts successes reached)
    (run : reached.RunsTo limit summary final) :
    ∃ tried count, Attempts machine (attempts + tried) (successes + count) final := by
  obtain ⟨count, passes, ending⟩ := runsTo_iff.mp run
  have passed := attempted.started.passes passes
  cases ending with
  | halted => exact ⟨count, count, passed⟩
  | cycleLimit => exact ⟨count, count, passed⟩
  | @inputExhausted left _ _ starved policy =>
    have kept := (failed_of_step starved).policy.trans policy
    have tries : (reached.started.afterSteps count).Tries (.error .inputExhausted) left.reset :=
      .inr (by simp only [stepWithPolicy, starved, kept])
    exact ⟨count + 1, count, passed.failed tries⟩
  | failed _ _ fails => exact ⟨count + 1, count, passed.failed (.inl fails)⟩

/-- Whatever is loaded and however many steps are tried, the registers stay in their range and the
successful steps are counted. The program counter never comes to where it could not go on, and for
9 * 10 ^ 15 steps no sum and no difference wraps around. What a run leaves is reached by attempts
as well. -/
theorem registers_stay_in_range (prepared : Prepared config machine)
    (attempted : Attempts machine attempts successes final) :
    InRange config attempts successes final ∧
      (attempts < 2 ^ 64 → final.cycles.toNat = successes) ∧
      final.registers.advance.pc.toNat = final.registers.pc.toNat + 1 ∧
      (attempts < 9 * 10 ^ 15 → SumsExactly final) ∧
      ∀ limit summary last, final.RunsTo limit summary last →
        ∃ tried count, Attempts machine (attempts + tried) (successes + count) last := by
  have inRange := attempted.inRange prepared.inRange
  have small := Memory.size_ofSize_le config.memorySize
  rw [← inRange.size] at small
  refine ⟨inRange, ?_, Registers.toNat_pc_advance (inRange.registers.room small),
    sumsExactly_of_inRange inRange.registers, fun _ _ _ => attempted.run⟩
  intro few
  rw [inRange.cycles, UInt64.toNat_ofNat']
  exact Nat.mod_eq_of_lt (attempted.successes_le.trans_lt few)

end Steps

/-- Of two instructions the first adds the word in cell 0 and the second finds no card, so that the
registers are cleared. Only the first is counted. -/
theorem registers_behind_reset :
    let addFirst : Word := ⟨200, by decide, by decide⟩
    let machine :=
      ((fresh Deck.empty { onExhausted := .reset }).load ⟨[(2, addFirst), (3, .zero)]⟩).2
    let final := machine.step.2.stepWithPolicy.2
    machine.step.2.registers.acc.toInt = 1 ∧ final.registers = {} ∧ final.cycles.toNat = 1 := by
  intro addFirst machine final
  have prepared : Prepared { onExhausted := .reset } machine := .load _ (.fresh Deck.empty)
  have adds : machine.step.1 = .ok ⟨.add, 0⟩ := by cbv
  have starves : machine.step.2.stepWithPolicy.1 = .error .inputExhausted := by cbv
  have attempted : Attempts machine 2 1 final :=
    .failed (.succeeded .none (.inl (Prod.ext adds rfl))) (.inr (Prod.ext starves rfl))
  obtain ⟨-, -, -, sums, -⟩ := registers_stay_in_range prepared .none
  obtain ⟨-, counted, -⟩ := registers_stay_in_range prepared attempted
  refine ⟨?_, by decide +kernel, counted (by decide)⟩
  obtain ⟨word, held, sum⟩ := (sums (by decide)).add 0 adds
  have first : machine.memory.get 0 = .ok (some .bootstrap) := by cbv
  have same : Except.ok (some word) = Except.ok (some Word.bootstrap) := held.symm.trans first
  cases same
  exact sum

end Machine
end Cardiac
