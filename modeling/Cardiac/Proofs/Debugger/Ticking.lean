import Mathlib.Logic.Function.Iterate
import Cardiac.Debugger
import Cardiac.Proofs.Machine.Course

/-!
# Ticking and running

A debugger that was started ticks its machine through the same instructions as a limited run, and
stops when and as the run ends. It stops one tick behind a limit, for it only then sees that the
limit is reached.
-/
namespace Cardiac.Debugger

/-- The status that shows how a run has ended. If its limit has ended it, the debugger goes on. -/
def endStatus? (result : Except Fault RunSummary) (machine : Machine Deck) : Option Status :=
  match result with
  | .ok ⟨_, .halted⟩ => some (.halted machine.cycles machine.registers.pc)
  | .ok ⟨_, .inputExhausted⟩ => some (.cardsEnded .reset)
  | .ok ⟨_, .cycleLimit⟩ => none
  | .error .inputExhausted => some (.cardsEnded .abort)
  | .error fault => some (.failed fault)

theorem tick_of_not_running {debugger : Debugger} (stopped : debugger.running = false) :
    debugger.tick = debugger := by
  simp only [tick, stopped, Bool.false_eq_true, if_false]

theorem iterate_tick_of_not_running {debugger : Debugger} (stopped : debugger.running = false)
    (ticks : Nat) : tick^[ticks] debugger = debugger :=
  Function.iterate_fixed (tick_of_not_running stopped) ticks

/-- The limit, if there is one, allows so many more instructions. -/
def Allows (debugger : Debugger) (more : Nat) : Prop :=
  ∀ limit ∈ debugger.config.maxCycles, debugger.machine.cycles.toNat + more ≤ limit

theorem limitReached?_eq_none {debugger : Debugger} {more : Nat}
    (allows : debugger.Allows (more + 1)) : debugger.limitReached? = none := by
  rw [limitReached?, Option.filter_eq_none_iff]
  intro limit member
  have below := allows limit member
  simp only [decide_eq_true_eq]
  omega

/-- The status that shows a fault, with the machine left. -/
def faultStatus (left : Machine Deck) : Fault → Status
  | .inputExhausted => .cardsEnded left.policy
  | fault => .failed fault

theorem step_of_ok {debugger : Debugger} {instruction : Instruction} {next : Machine Deck}
    (stepped : debugger.machine.stepWithPolicy = (.ok instruction, next)) :
    debugger.step =
      if instruction.opcode = .halt then
        { debugger with
          machine := next, running := false, status := .halted next.cycles next.registers.pc }
      else { debugger with machine := next, status := .executed debugger.pc instruction } := by
  simp only [step, Machine.step_of_stepWithPolicy_ok stepped]

theorem step_of_error {debugger : Debugger} {fault : Fault} {left : Machine Deck}
    (stepped : debugger.machine.stepWithPolicy = (.error fault, left)) :
    debugger.step =
      { debugger with machine := left, running := false, status := faultStatus left fault } := by
  obtain ⟨first, fails, leftOver⟩ := Machine.exists_step_of_stepWithPolicy_error stepped
  simp only [step, fails]
  cases leftOver with
  | reset policy =>
    have kept : first.reset.policy = .reset := policy
    simp only [faultStatus, policy, kept]
  | abort policy => simp only [faultStatus, policy]
  | memory error => rfl
  | invalidOperation error => rfl

/-- A step changes the machine and what shows how the program goes on, and nothing else. -/
theorem exists_step_eq (debugger : Debugger) : ∃ running status, debugger.step =
    { debugger with machine := debugger.machine.stepWithPolicy.2, running, status } := by
  cases stepped : debugger.machine.stepWithPolicy with
  | mk result next =>
    cases result with
    | error fault => exact ⟨_, _, step_of_error stepped⟩
    | ok instruction =>
      rw [step_of_ok stepped]
      split <;> exact ⟨_, _, rfl⟩

/-- What the debugger was given stays as it is. -/
theorem settings_step (debugger : Debugger) :
    debugger.step.breakpoints = debugger.breakpoints ∧ debugger.step.config = debugger.config := by
  obtain ⟨running, status, stepped⟩ := debugger.exists_step_eq
  rw [stepped]
  exact ⟨rfl, rfl⟩

theorem config_tick (debugger : Debugger) : debugger.tick.config = debugger.config := by
  unfold tick
  split
  · split
    · rfl
    · unfold checkBreakpoint
      split <;> exact (settings_step debugger).2
  · rfl

theorem config_iterate_tick (debugger : Debugger) (ticks : Nat) :
    (tick^[ticks] debugger).config = debugger.config := by
  induction ticks generalizing debugger with
  | zero => rfl
  | succ ticks ih => exact (ih debugger.tick).trans (config_tick debugger)

/-- Without breakpoints a tick is a step. -/
theorem tick_eq_step {debugger : Debugger} {more : Nat} (running : debugger.running = true)
    (free : debugger.breakpoints = []) (allows : debugger.Allows (more + 1)) :
    debugger.tick = debugger.step := by
  have none : debugger.step.breakpoints = [] := (settings_step debugger).1.trans free
  simp only [tick, running, if_true, limitReached?_eq_none allows, checkBreakpoint, none,
    List.contains_nil, Bool.and_false, Bool.false_eq_true, if_false]

/-- The debugger has come to where the run has ended. It shows how it has ended, or goes on. -/
structure Follows {Seen : Type} (debugger : Debugger) (done : RunEnd Deck Seen) : Prop where
  machine : debugger.machine = done.machine.stopped
  ended : ∀ status ∈ endStatus? done.result done.machine,
    debugger.running = false ∧ debugger.status = status
  goesOn : endStatus? done.result done.machine = none → debugger.running = true

theorem endStatus?_endOfFault (executed : Nat) (left : Machine Deck) (fault : Fault) :
    endStatus? (Machine.endOfFault executed left fault) left = some (faultStatus left fault) := by
  cases fault with
  | inputExhausted =>
    simp only [Machine.endOfFault, faultStatus]
    cases left.policy <;> rfl
  | memory error => rfl
  | invalidOperation error => rfl

/-- As long as the limit is not reached, so many ticks are a run of so many instructions. -/
theorem follows_continueRun {Seen : Type} {observe : Seen → Snapshot → Seen} {debugger : Debugger}
    {machine : Machine Deck} {ticks executed : Nat} {seen : Seen}
    (same : debugger.machine = machine.stopped) (started : machine.registers.running = true)
    (running : debugger.running = true) (free : debugger.breakpoints = [])
    (allows : debugger.Allows ticks) :
    Follows (tick^[ticks] debugger) (machine.continueRun observe ticks executed seen) := by
  -- the run and the debugger take the next step together, and the machine is any reached so far
  induction ticks generalizing debugger machine executed seen with
  | zero =>
    simp only [Machine.continueRun, started, if_true, Function.iterate_zero, id_eq]
    refine ⟨same, ?_, fun _ => running⟩
    intro status member
    cases member
  | succ ticks ih =>
    rw [Function.iterate_succ_apply, tick_eq_step running free allows]
    have debuggerSteps : debugger.machine.stepWithPolicy =
        (machine.stepWithPolicy.1, machine.stepWithPolicy.2.stopped) := by
      rw [same, Machine.stepWithPolicy_stopped]
    cases stepped : machine.stepWithPolicy with
    | mk result next =>
      rw [stepped] at debuggerSteps
      cases result with
      | error fault =>
        rw [step_of_error debuggerSteps, iterate_tick_of_not_running rfl,
          Machine.continueRun_of_error started stepped]
        refine ⟨rfl, ?_, ?_⟩
        · intro status member
          rw [endStatus?_endOfFault, Option.mem_some_iff] at member
          subst member
          refine ⟨rfl, ?_⟩
          cases fault <;> rfl
        · intro none
          rw [endStatus?_endOfFault] at none
          cases none
      | ok instruction =>
        have succeeded := Machine.succeeded_of_stepWithPolicy stepped
        rw [step_of_ok debuggerSteps, Machine.continueRun_of_ok started stepped]
        by_cases halt : instruction.opcode = .halt
        · -- a halt clears the flag, so the run is over as well
          have halted : next.registers.running = false := by rw [succeeded.running, if_pos halt]
          rw [if_pos halt, iterate_tick_of_not_running rfl,
            Machine.continueRun_of_not_running halted]
          refine ⟨rfl, ?_, ?_⟩
          · intro status member
            cases member
            exact ⟨rfl, rfl⟩
          · intro none
            cases none
        · have goesOn : next.registers.running = true := by
            rw [succeeded.running, if_neg halt, started]
          rw [if_neg halt]
          refine ih rfl goesOn running free ?_
          -- one more instruction is counted and one fewer is to come
          intro limit member
          have below := allows limit member
          have counted : next.stopped.cycles.toNat ≤ debugger.machine.cycles.toNat + 1 := by
            have cycles : next.stopped.cycles = debugger.machine.cycles + 1 := by
              rw [same]
              exact succeeded.cycles
            rw [cycles, UInt64.toNat_add]
            exact Nat.mod_le ..
          simp only at counted ⊢
          omega

theorem endStatus?_eq_none_iff {result : Except Fault RunSummary} {machine : Machine Deck} :
    endStatus? result machine = none ↔ ∃ count, result = .ok ⟨count, .cycleLimit⟩ := by
  unfold endStatus?
  split <;> simp

theorem tick_of_limitReached {debugger : Debugger} {limit : Nat} (running : debugger.running = true)
    (reached : debugger.limitReached? = some limit) :
    debugger.tick = { debugger with running := false, status := .limitReached limit } := by
  simp only [tick, running, if_true, reached]

/-- How a debugger with a configuration, ticked so often since it was started, compares with a
run that has ended with a result and left a machine. -/
structure TickedLike (debugger : Debugger) (config : Config) (ticks : Nat)
    (result : Except Fault RunSummary) (left : Machine Deck) : Prop where
  /-- The machines are equal, but only that of the run may have its running flag set. -/
  machine : debugger.machine = left.stopped
  goesOn : (∀ limit ∈ config.maxCycles, ticks ≤ limit) →
    (debugger.running = true ↔ ∃ count, result = .ok ⟨count, .cycleLimit⟩)
  limited : ∀ limit ∈ config.maxCycles, limit < ticks →
    (∃ count, result = .ok ⟨count, .cycleLimit⟩) →
    debugger.running = false ∧ debugger.status = .limitReached limit
  ended : ∀ status ∈ endStatus? result left, debugger.running = false ∧ debugger.status = status

theorem Follows.tickedLike {Seen : Type} {debugger : Debugger} {done : RunEnd Deck Seen}
    (follows : Follows debugger done) {config : Config} {ticks : Nat}
    (within : ∀ limit ∈ config.maxCycles, ticks ≤ limit) :
    TickedLike debugger config ticks done.result done.machine where
  machine := follows.machine
  goesOn _ := by
    rw [← endStatus?_eq_none_iff]
    refine ⟨fun running => ?_, follows.goesOn⟩
    cases status : endStatus? done.result done.machine with
    | none => rfl
    | some status' =>
      have stopped := (follows.ended status' status).1
      rw [running] at stopped
      cases stopped
  limited := by
    intro limit member beyond
    have below := within limit member
    omega
  ended := follows.ended

/-- Behind the limit the first further tick stops the debugger, unless it has stopped already. -/
theorem Follows.tickedLike_of_limit {Seen : Type} {debugger : Debugger} {done : RunEnd Deck Seen}
    (follows : Follows debugger done) {limit : Nat}
    (limited : debugger.config.maxCycles = some limit)
    (reached : (∃ count, done.result = .ok ⟨count, .cycleLimit⟩) →
      debugger.machine.cycles.toNat = limit) (more : Nat) :
    TickedLike (tick^[more + 1] debugger) debugger.config (limit + (more + 1)) done.result
      done.machine := by
  have beyond : ¬∀ limit' ∈ debugger.config.maxCycles, limit + (more + 1) ≤ limit' := by
    rw [limited]
    intro within
    have below := within limit rfl
    omega
  cases ended : endStatus? done.result done.machine with
  | none =>
    have atLimit : debugger.limitReached? = some limit := by
      rw [limitReached?, limited, Option.filter_some, if_pos]
      have cycles := reached (endStatus?_eq_none_iff.mp ended)
      exact decide_eq_true (by omega)
    rw [Function.iterate_succ_apply, tick_of_limitReached (follows.goesOn ended) atLimit,
      iterate_tick_of_not_running rfl]
    refine ⟨follows.machine, fun within => absurd within beyond, ?_, ?_⟩
    · intro limit' member _ _
      rw [limited, Option.mem_some_iff] at member
      exact ⟨rfl, by rw [member]⟩
    · intro status member
      rw [ended] at member
      cases member
  | some status =>
    have stopped := follows.ended status ended
    rw [iterate_tick_of_not_running stopped.1]
    refine ⟨follows.machine, fun within => absurd within beyond, ?_, follows.ended⟩
    intro _ _ _ cycleLimit
    rw [endStatus?_eq_none_iff.mpr cycleLimit] at ended
    cases ended

/-- A run that its limit ends has used up its cycles, for the counter does not overflow below. -/
theorem Follows.cycles_of_cycleLimit {Seen : Type} {observe : Seen → Snapshot → Seen} {seen : Seen}
    {debugger : Debugger} {machine : Machine Deck} {limit count : Nat}
    (follows : Follows debugger (machine.runObserved observe seen limit))
    (unused : machine.cycles = 0) (small : limit < UInt64.size)
    (ended : (machine.runObserved observe seen limit).result = .ok ⟨count, .cycleLimit⟩) :
    debugger.machine.cycles.toNat = limit := by
  obtain ⟨executed, course, -⟩ :=
    Machine.ends_iff.mp (Machine.ends_runObserved observe seen limit machine)
  rw [ended] at course
  obtain rfl := Option.some.inj course.ending.limit_eq
  have counted := course.ending.reported.2.trans course.passes.cycles_eq
  have zero : machine.started.cycles = 0 := unused
  rw [zero, UInt64.zero_add] at counted
  rw [follows.machine]
  refine (congrArg UInt64.toNat counted).trans ?_
  rw [UInt64.toNat_ofNat']
  exact Nat.mod_eq_of_lt small

/-- The debugger and a run begin with the same machine, which has used no cycle. -/
theorem follows_runObserved (image : CardImage) (input : List Card) {config : Config} {ticks : Nat}
    (within : ∀ limit ∈ config.maxCycles, ticks ≤ limit) :
    Follows (tick^[ticks] ((start image input config).press (.char 'r')))
      (((Machine.fresh (Deck.empty.append input) config).boot image).runObserved
        (fun (_ : Unit) _ => ()) () ticks) := by
  refine follows_continueRun rfl rfl rfl rfl ?_
  intro limit member
  have below := within limit member
  have zero : ((start image input config).press (.char 'r')).machine.cycles.toNat = 0 := rfl
  omega

/-- Starting the debugger and ticking it runs its machine just as a limited run does, whether
the run halts, fails, or uses up its cards or its cycles. -/
theorem ticks_follow_run (image : CardImage) (input : List Card) (config : Config) (ticks : Nat)
    (fits : ∀ limit ∈ config.maxCycles, limit < UInt64.size) :
    let debugger := tick^[ticks] ((start image input config).press (.char 'r'))
    let machine := (Machine.fresh (Deck.empty.append input) config).boot image
    let done := machine.runLimited (config.maxCycles.elim ticks (min ticks))
    TickedLike debugger config ticks done.1 done.2 := by
  intro debugger machine done
  cases limited : config.maxCycles with
  | none =>
    have within : ∀ limit ∈ config.maxCycles, ticks ≤ limit := by simp [limited]
    have same : done = machine.runLimited ticks := by simp only [done, limited, Option.elim_none]
    rw [same]
    exact (follows_runObserved image input within).tickedLike within
  | some limit =>
    have within {allowed : Nat} (below : allowed ≤ limit) :
        ∀ other ∈ config.maxCycles, allowed ≤ other := by simpa [limited] using below
    have same : done = machine.runLimited (min ticks limit) := by
      simp only [done, limited, Option.elim_some]
    rw [same]
    by_cases beyond : limit < ticks
    · -- the debugger is where the run ends after as many ticks as the limit allows
      obtain ⟨more, rfl⟩ : ∃ more, ticks = limit + (more + 1) := ⟨ticks - limit - 1, by omega⟩
      have atLimit := follows_runObserved image input (within (Nat.le_refl limit))
      have unchanged := config_iterate_tick ((start image input config).press (.char 'r')) limit
      have later := atLimit.tickedLike_of_limit (unchanged ▸ limited)
        (fun ⟨_, ended⟩ => atLimit.cycles_of_cycleLimit rfl (fits limit limited) ended) more
      rw [unchanged, ← Function.iterate_add_apply, Nat.add_comm (more + 1)] at later
      rw [Nat.min_eq_right (by omega)]
      exact later
    · have below : ticks ≤ limit := Nat.le_of_not_lt beyond
      rw [Nat.min_eq_left below]
      exact (follows_runObserved image input (within below)).tickedLike (within below)

/-- A card that is read to cell 1 and halts the machine there, with the last instruction that the
limit allows. -/
theorem halted_at_limit :
    let config : Config := { memorySize := 1, maxCycles := some 2 }
    let debugger := tick^[4] ((start .empty ["917"] config).press (.char 'r'))
    (∀ limit ∈ config.maxCycles, limit < UInt64.size) ∧
      debugger.running = false ∧ debugger.status = .halted 2 17 := by
  intro config debugger
  have fits : ∀ limit ∈ config.maxCycles, limit < UInt64.size := by decide
  refine ⟨fits, (ticks_follow_run .empty ["917"] config 4 fits).ended _ ?_⟩
  decide +kernel

end Cardiac.Debugger
