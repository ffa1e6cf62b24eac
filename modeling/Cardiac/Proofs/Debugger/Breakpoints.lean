import Cardiac.Proofs.Debugger.Controls

/-!
# Running to a breakpoint

A running debugger looks for a breakpoint behind every step that lets the program go on. So only
its first step can be made from a breakpoint. A step that ends the program is shown as such, even
if the program counter has come to a breakpoint.
-/
namespace Cardiac

namespace Machine

variable {Port : Type} [CardPort Port]

/-- The policy decides what a failed step leaves, and not how it has failed. -/
theorem stepWithPolicy_fst (machine : Machine Port) :
    machine.stepWithPolicy.1 = machine.step.1 := by
  unfold stepWithPolicy
  split
  next left stepped => split <;> rw [stepped]
  next => rfl

theorem policy_advanced (machine : Machine Port) :
    machine.advanced.policy = machine.step.2.policy := by
  rcases machine.advanced_eq_or_reset with same | same
  · rw [same]
  · rw [same]
    rfl

end Machine

namespace Debugger

/-- The status in which a step ends the program by itself: it halts, finds no card or fails. -/
def endOfStep? (machine : Machine Deck) : Option Status :=
  match machine.step with
  | (.ok instruction, next) =>
    if instruction.opcode = .halt then some (.halted next.cycles next.registers.pc) else none
  | (.error fault, left) => some (faultStatus left fault)

theorem endOfStep?_of_error {machine left : Machine Deck} {fault : Fault}
    (stepped : machine.step = (.error fault, left)) :
    endOfStep? machine = some (faultStatus left fault) := by
  simp only [endOfStep?, stepped]

theorem endOfStep?_of_ok {machine next : Machine Deck} {instruction : Instruction}
    (stepped : machine.step = (.ok instruction, next)) : endOfStep? machine =
      if instruction.opcode = .halt then some (.halted next.cycles next.registers.pc) else none := by
  simp only [endOfStep?, stepped]

theorem endOfStep?_eq_none_iff (machine : Machine Deck) : endOfStep? machine = none ↔
    ∃ instruction next, machine.step = (.ok instruction, next) ∧ instruction.opcode ≠ .halt := by
  cases stepped : machine.step with
  | mk result next =>
    cases result with
    | error fault => simp [endOfStep?_of_error stepped]
    | ok instruction => simp [endOfStep?_of_ok stepped]

/-- No step ends a program at a breakpoint. -/
theorem endOfStep?_ne_atBreakpoint (machine : Machine Deck) (address : UInt32) :
    endOfStep? machine ≠ some (.atBreakpoint address) := by
  unfold endOfStep?
  split
  · split <;> simp
  next fault _ _ => cases fault <;> simp [faultStatus]

theorem step_of_end {debugger : Debugger} {status : Status}
    (ends : endOfStep? debugger.machine = some status) : debugger.step =
      { debugger with machine := debugger.machine.advanced, running := false, status } := by
  have policy := debugger.machine.policy_advanced
  have underPolicy : debugger.machine.stepWithPolicy =
      (debugger.machine.step.1, debugger.machine.advanced) :=
    Prod.ext debugger.machine.stepWithPolicy_fst debugger.machine.stepWithPolicy_snd
  cases stepped : debugger.machine.step with
  | mk result next =>
    rw [stepped] at underPolicy policy
    cases result with
    | error fault =>
      rw [endOfStep?_of_error stepped] at ends
      cases ends
      rw [step_of_error underPolicy]
      -- the status shows the policy, which the step leaves as it was
      cases fault <;> simp only [faultStatus, policy]
    | ok instruction =>
      rw [endOfStep?_of_ok stepped] at ends
      split at ends
      next halt =>
        cases ends
        have same : debugger.machine.advanced = next := by rw [Machine.advanced, stepped]
        rw [step_of_ok underPolicy, if_pos halt, same]
      · cases ends

/-- What a tick can make of a debugger. -/
inductive Ticked (debugger : Debugger) : Debugger → Prop
  | idle (still : debugger.running = false) : Ticked debugger debugger
  | limited (limit : Nat) (still : debugger.stepsOn .tick = false) :
      Ticked debugger { debugger with running := false, status := .limitReached limit }
  | ended (status : Status) (steps : debugger.stepsOn .tick = true)
      (ends : endOfStep? debugger.machine = some status) :
      Ticked debugger
        { debugger with machine := debugger.machine.advanced, running := false, status }
  | held (instruction : Instruction) (next : Machine Deck) (steps : debugger.stepsOn .tick = true)
      (stepped : debugger.machine.step = (.ok instruction, next))
      (goesOn : instruction.opcode ≠ .halt) (stop : next.registers.pc ∈ debugger.breakpoints) :
      Ticked debugger
        { debugger with
          machine := next, running := false, status := .atBreakpoint next.registers.pc }
  | executed (instruction : Instruction) (next : Machine Deck)
      (steps : debugger.stepsOn .tick = true)
      (stepped : debugger.machine.step = (.ok instruction, next))
      (goesOn : instruction.opcode ≠ .halt) (free : next.registers.pc ∉ debugger.breakpoints) :
      Ticked debugger
        { debugger with machine := next, status := .executed debugger.pc instruction }

theorem ticked_tick (debugger : Debugger) : Ticked debugger debugger.tick := by
  cases running : debugger.running with
  | false =>
    rw [tick_of_not_running running]
    exact .idle running
  | true =>
    cases reached : debugger.limitReached? with
    | some limit =>
      rw [tick_of_limitReached running reached]
      exact .limited limit (by simp [stepsOn, reached])
    | none =>
      have steps : debugger.stepsOn .tick = true := by simp [stepsOn, running, reached]
      have checks : debugger.tick = debugger.step.checkBreakpoint := by
        simp only [tick, running, if_true, reached]
      rw [checks]
      cases ends : endOfStep? debugger.machine with
      | some status =>
        -- the step has stopped the debugger, so no breakpoint is looked for
        rw [step_of_end ends, checkBreakpoint]
        exact .ended status steps ends
      | none =>
        obtain ⟨instruction, next, stepped, goesOn⟩ := (endOfStep?_eq_none_iff _).mp ends
        rw [step_of_ok (Machine.stepWithPolicy_of_ok stepped), if_neg goesOn, checkBreakpoint]
        by_cases stop : next.registers.pc ∈ debugger.breakpoints
        · have held := Ticked.held instruction next steps stepped goesOn stop
          simpa [pc, running, stop] using held
        · have executed := Ticked.executed instruction next steps stepped goesOn stop
          simpa [pc, running, stop] using executed

/-! ### Ticking on -/

variable {debugger : Debugger}

theorem breakpoints_tick (debugger : Debugger) :
    debugger.tick.breakpoints = debugger.breakpoints := by
  have ticked := debugger.ticked_tick
  generalize debugger.tick = next at ticked
  cases ticked <;> rfl

theorem breakpoints_iterate_tick (debugger : Debugger) (ticks : Nat) :
    (tick^[ticks] debugger).breakpoints = debugger.breakpoints := by
  induction ticks with
  | zero => rfl
  | succ ticks ih => rw [Function.iterate_succ_apply', breakpoints_tick, ih]

/-- A tick behind which the debugger is running has made a step, and not to a breakpoint. -/
theorem pc_notMem_of_running (running : debugger.tick.running = true) :
    debugger.tick.pc ∉ debugger.breakpoints := by
  have ticked := debugger.ticked_tick
  generalize debugger.tick = next at ticked running ⊢
  cases ticked with
  | idle still => exact absurd running (by simp [still])
  | limited limit still => cases running
  | ended status steps ends => cases running
  | held instruction next steps stepped goesOn stop => cases running
  | executed instruction next steps stepped goesOn free => exact free

theorem tick_of_end {status : Status} (steps : debugger.stepsOn .tick = true)
    (ends : endOfStep? debugger.machine = some status) :
    debugger.tick.running = false ∧ debugger.tick.status = status := by
  have goesOn (instruction : Instruction) (next : Machine Deck)
      (stepped : debugger.machine.step = (.ok instruction, next)) :
      instruction.opcode = .halt := by
    by_contra other
    rw [endOfStep?_of_ok stepped, if_neg other] at ends
    cases ends
  have ticked := debugger.ticked_tick
  generalize debugger.tick = next at ticked ⊢
  cases ticked with
  | idle still => simp [stepsOn, still] at steps
  | limited limit still => cases steps.symm.trans still
  | ended status' _ ends' =>
    rw [ends] at ends'
    cases ends'
    exact ⟨rfl, rfl⟩
  | held instruction next _ stepped other _ => exact absurd (goesOn _ _ stepped) other
  | executed instruction next _ stepped other _ => exact absurd (goesOn _ _ stepped) other

/-- Behind a step that lets the program go on, only a breakpoint stops the debugger. -/
theorem tick_of_goesOn (steps : debugger.stepsOn .tick = true)
    (goesOn : endOfStep? debugger.machine = none) :
    if debugger.tick.pc ∈ debugger.breakpoints then
      debugger.tick.running = false ∧ debugger.tick.status = .atBreakpoint debugger.tick.pc
    else debugger.tick.running = true := by
  have running : debugger.running = true := by
    rw [stepsOn, Bool.and_eq_true] at steps
    exact steps.1
  have ticked := debugger.ticked_tick
  generalize debugger.tick = next at ticked ⊢
  cases ticked with
  | idle still => cases running.symm.trans still
  | limited limit still => cases steps.symm.trans still
  | ended status _ ends => cases goesOn.symm.trans ends
  | held instruction next _ stepped other stop => simp [pc, stop]
  | executed instruction next _ stepped other free => simp [pc, free, running]

theorem iterate_tick_of_stopped {ticks later : Nat}
    (stopped : (tick^[ticks] debugger).running = false) (behind : ticks ≤ later) :
    tick^[later] debugger = tick^[ticks] debugger := by
  obtain ⟨more, rfl⟩ := Nat.exists_eq_add_of_le' behind
  rw [Function.iterate_add_apply, iterate_tick_of_not_running stopped]

/-- The last of the steps is made by the tick behind so many, and has executed an instruction that
is no halt. -/
structure LastStep (session : Nat → Debugger) (ticks : Nat) (left : Machine Deck) : Prop where
  steps : (session ticks).stepsOn .tick = true
  last : ∀ later, ticks < later → (session later).stepsOn .tick = false
  succeeded : ∃ instruction, (session ticks).machine.step = (.ok instruction, left) ∧
    instruction.opcode ≠ .halt

/-- The debugger shows a breakpoint only if it has stepped there. -/
theorem exists_lastStep {ticks : Nat} {address : UInt32} (unlike : ∀ address,
      debugger.status ≠ .atBreakpoint address)
    (shown : (tick^[ticks] debugger).status = .atBreakpoint address) :
    (address = (tick^[ticks] debugger).pc ∧ address ∈ debugger.breakpoints ∧
      (tick^[ticks] debugger).running = false) ∧
    ∃ last < ticks, LastStep (tick^[·] debugger) last (tick^[ticks] debugger).machine := by
  induction ticks with
  | zero => exact absurd shown (unlike address)
  | succ ticks ih =>
    have kept := debugger.breakpoints_iterate_tick ticks
    have ticked := (tick^[ticks] debugger).ticked_tick
    rw [← Function.iterate_succ_apply' tick] at ticked
    generalize reached : tick^[ticks + 1] debugger = next at ticked shown ⊢
    cases ticked with
    | idle still =>
      obtain ⟨place, last, before, lastStep⟩ := ih shown
      exact ⟨place, last, by omega, lastStep⟩
    | limited limit still => cases shown
    | ended status steps ends =>
      exact absurd (ends.trans (congrArg some shown)) (endOfStep?_ne_atBreakpoint _ address)
    | held instruction next steps stepped goesOn stop =>
      cases shown
      refine ⟨⟨rfl, kept ▸ stop, rfl⟩, ticks, by omega, steps, ?_, instruction, stepped, goesOn⟩
      -- the debugger has stopped, and so makes no further step
      intro later behind
      have stopped : (tick^[ticks + 1] debugger).running = false := by rw [reached]
      rw [iterate_tick_of_stopped stopped behind, stepsOn, stopped, Bool.false_and]
    | executed instruction next steps stepped goesOn free => cases shown

/-- How a debugger that was started treats its breakpoints while it ticks. -/
structure HeedsBreakpoints (debugger : Debugger) (session : Nat → Debugger) : Prop where
  kept : ∀ ticks, (session ticks).breakpoints = debugger.breakpoints
  /-- Every step after the first is fetched from an address without a breakpoint. -/
  passes : ∀ earlier later, earlier < later → (session earlier).stepsOn .tick = true →
    (session later).stepsOn .tick = true → (session later).pc ∉ debugger.breakpoints
  /-- What ends the program is shown, even if the program counter has come to a breakpoint. -/
  ended : ∀ ticks status, (session ticks).stepsOn .tick = true →
    endOfStep? (session ticks).machine = some status →
    ∀ later, ticks < later → (session later).running = false ∧ (session later).status = status
  /-- Where the program goes on to a breakpoint, the debugger stops. -/
  stops : ∀ ticks, (session ticks).stepsOn .tick = true →
    endOfStep? (session ticks).machine = none → (session (ticks + 1)).pc ∈ debugger.breakpoints →
    ∀ later, ticks < later → (session later).running = false ∧
      (session later).status = .atBreakpoint (session (ticks + 1)).pc
  /-- Where it goes on elsewhere, the debugger goes on as well. -/
  goesOn : ∀ ticks, (session ticks).stepsOn .tick = true →
    endOfStep? (session ticks).machine = none → (session (ticks + 1)).pc ∉ debugger.breakpoints →
    (session (ticks + 1)).running = true
  /-- A breakpoint is shown only behind a step there. -/
  shown : ∀ ticks address, (session ticks).status = .atBreakpoint address →
    (address = (session ticks).pc ∧ address ∈ debugger.breakpoints ∧
      (session ticks).running = false) ∧
    ∃ last < ticks, LastStep session last (session ticks).machine

/-- A debugger that was started stops at its breakpoints, and steps from none of them but where it
begins. So it makes progress even if it begins at one. -/
theorem running_heeds_breakpoints (debugger : Debugger) :
    HeedsBreakpoints debugger fun ticks => tick^[ticks] (debugger.press (.char 'r')) := by
  let started := debugger.press (.char 'r')
  have kept (ticks : Nat) : (tick^[ticks] started).breakpoints = debugger.breakpoints :=
    started.breakpoints_iterate_tick ticks
  have next (ticks : Nat) : tick^[ticks + 1] started = (tick^[ticks] started).tick :=
    Function.iterate_succ_apply' ..
  refine
    { kept
      passes := ?_
      ended := ?_
      stops := ?_
      goesOn := ?_
      shown := fun ticks address => exists_lastStep fun _ other => by cases other }
  · intro earlier later before _ steps
    obtain ⟨ticks, rfl⟩ : ∃ ticks, later = ticks + 1 := ⟨later - 1, by omega⟩
    have running : (tick^[ticks + 1] started).running = true := by
      rw [stepsOn, Bool.and_eq_true] at steps
      exact steps.1
    rw [next] at running
    have free := pc_notMem_of_running running
    rwa [← next, kept] at free
  · intro ticks status steps ends later behind
    have done := tick_of_end steps ends
    rw [← next] at done
    exact iterate_tick_of_stopped done.1 behind ▸ done
  · intro ticks steps goesOn stop later behind
    have done := tick_of_goesOn steps goesOn
    rw [← next, kept, if_pos stop] at done
    exact iterate_tick_of_stopped done.1 behind ▸ done
  · intro ticks steps goesOn free
    have done := tick_of_goesOn steps goesOn
    rwa [← next, kept, if_neg free] at done

/-- A jump to its own cell is carried out once from the breakpoint there, and the debugger stops at
it again. A halt to a breakpoint is shown as a halt. -/
theorem resumed_at_breakpoint :
    let debugger (word : Word) : Debugger :=
      { start .empty [] {} with
        machine := ((Machine.fresh Deck.empty {}).load ⟨[(2, word)]⟩).2, breakpoints := [2] }
    let session (word : Word) (ticks : Nat) := tick^[ticks] ((debugger word).press (.char 'r'))
    let halt : Word := ⟨902, by decide, by decide⟩
    (∃ last < 3, LastStep (session (.jumpTo 2)) last (session (.jumpTo 2) 3).machine) ∧
      (session halt 3).pc ∈ [2] ∧ (session halt 3).status = .halted 1 2 := by
  intro debugger session halt
  have shown : (session (.jumpTo 2) 3).status = .atBreakpoint 2 := by decide +kernel
  have ends : endOfStep? (session halt 0).machine = some (.halted 1 2) := by decide +kernel
  have steps : (session halt 0).stepsOn .tick = true := by decide +kernel
  obtain ⟨-, lastStep⟩ := (running_heeds_breakpoints (debugger (.jumpTo 2))).shown 3 2 shown
  refine ⟨lastStep, by decide +kernel, ?_⟩
  exact ((running_heeds_breakpoints (debugger halt)).ended 0 _ steps ends 3 (by decide)).2

end Debugger
end Cardiac
