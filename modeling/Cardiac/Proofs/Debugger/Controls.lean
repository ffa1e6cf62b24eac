import Cardiac.Proofs.Debugger.Ticking

/-!
# The controls of the debugger

Keys and ticks come to the machine in two ways only: they step it, or they boot it anew. So what a
session leaves is the booted machine behind as many steps as were made since the last reboot.
Breakpoints, pauses and scrolling only decide when the steps are made.
-/
namespace Cardiac

namespace Machine

variable {Port : Type} [CardPort Port]

/-- The machine behind a step. Under the reset policy its registers are cleared if the step finds
no card. -/
def advanced (machine : Machine Port) : Machine Port :=
  match machine.step with
  | (.error .inputExhausted, left) => if left.policy = .reset then left.reset else left
  | (_, left) => left

theorem stepWithPolicy_snd (machine : Machine Port) :
    machine.stepWithPolicy.2 = machine.advanced := by
  unfold stepWithPolicy advanced
  generalize machine.step = done
  obtain ⟨result, left⟩ := done
  cases result with
  | ok instruction => rfl
  | error fault =>
    cases fault with
    | inputExhausted => cases policy : left.policy <;> simp only [policy] <;> rfl
    | memory error => rfl
    | invalidOperation error => rfl

/-- Memory, cards and policy are as the step leaves them, also if the registers are cleared. -/
theorem advanced_eq_or_reset (machine : Machine Port) :
    machine.advanced = machine.step.2 ∨ machine.advanced = machine.step.2.reset := by
  unfold advanced
  split
  next left stepped =>
    rw [stepped]
    split
    · exact .inr rfl
    · exact .inl rfl
  next left _ stepped =>
    rw [stepped]
    exact .inl rfl

end Machine

namespace Debugger

/-- What a debugger is driven by. -/
inductive Event where
  | key (key : Key)
  | tick
  deriving DecidableEq, Repr

def handle (debugger : Debugger) : Event → Debugger
  | .key key => debugger.press key
  | .tick => debugger.tick

/-- The debugger behind a session of keys and ticks. -/
def after (debugger : Debugger) (events : List Event) : Debugger := events.foldl handle debugger

/-- The event makes a step. A tick does while the debugger is running below its limit. -/
def stepsOn (debugger : Debugger) : Event → Bool
  | .key key => key = .char 's'
  | .tick => debugger.running && debugger.limitReached?.isNone

/-- Counts the steps made since the last reboot, of which there are so many before the event. -/
def countOn (debugger : Debugger) (steps : Nat) (event : Event) : Nat :=
  if event = .key (.char 'x') then 0
  else if debugger.stepsOn event then steps + 1
  else steps

/-- The steps made since the last reboot, of which there are so many before the session. -/
def stepsSinceReboot (debugger : Debugger) (steps : Nat) : List Event → Nat
  | [] => steps
  | event :: events =>
    (debugger.handle event).stepsSinceReboot (debugger.countOn steps event) events

/-- The machine that a reboot gives. -/
def home (debugger : Debugger) : Machine Deck :=
  bootedMachine debugger.image debugger.input debugger.config

/-- The machine is the booted one behind so many steps. -/
def IsBehind (debugger : Debugger) (steps : Nat) : Prop :=
  debugger.machine = Machine.advanced^[steps] debugger.home

/-! ### What the controls do to the machine -/

theorem step_leaves (debugger : Debugger) :
    debugger.step.machine = debugger.machine.advanced ∧ debugger.step.home = debugger.home := by
  obtain ⟨running, status, stepped⟩ := debugger.exists_step_eq
  rw [stepped]
  exact ⟨debugger.machine.stepWithPolicy_snd, rfl⟩

theorem checkBreakpoint_leaves (debugger : Debugger) :
    debugger.checkBreakpoint.machine = debugger.machine ∧
      debugger.checkBreakpoint.home = debugger.home := by
  unfold checkBreakpoint
  split <;> exact ⟨rfl, rfl⟩

theorem toggleBreakpoint_leaves (debugger : Debugger) :
    debugger.toggleBreakpoint.machine = debugger.machine ∧
      debugger.toggleBreakpoint.home = debugger.home := by
  simp only [toggleBreakpoint]
  split <;> exact ⟨rfl, rfl⟩

/-- A control leaves the machine, steps it or boots it anew, and never changes what is booted. -/
structure Drives (debugger : Debugger) (event : Event) (next : Debugger) : Prop where
  home : next.home = debugger.home
  machine : next.machine =
    if event = .key (.char 'x') then debugger.home
    else if debugger.stepsOn event then debugger.machine.advanced
    else debugger.machine

theorem drives_tick (debugger : Debugger) : debugger.Drives .tick debugger.tick := by
  unfold tick
  split
  next running =>
    split
    next limit reached => exact ⟨rfl, by simp [stepsOn, running, reached]⟩
    next free =>
      have ⟨stepped, stillHome⟩ := debugger.step_leaves
      have ⟨machine, home⟩ := debugger.step.checkBreakpoint_leaves
      constructor
      · rw [home, stillHome]
      · rw [machine, stepped]
        simp [stepsOn, running, free]
  next stopped => exact ⟨rfl, by simp [stepsOn, stopped]⟩

theorem drives_press (debugger : Debugger) (key : Key) :
    debugger.Drives (.key key) (debugger.press key) := by
  unfold press
  split
  · exact ⟨rfl, rfl⟩
  · have ⟨machine, home⟩ := step_leaves { debugger with running := false }
    exact ⟨home, machine⟩
  · exact ⟨rfl, rfl⟩
  · exact ⟨rfl, rfl⟩
  · have ⟨machine, home⟩ := debugger.toggleBreakpoint_leaves
    exact ⟨home, machine⟩
  · exact ⟨rfl, rfl⟩
  · exact ⟨rfl, rfl⟩
  · split <;> exact ⟨rfl, rfl⟩
  next notStep _ _ _ notReboot _ _ =>
    refine ⟨rfl, ?_⟩
    simp only [stepsOn, Event.key.injEq, decide_eq_true_eq]
    rw [if_neg notReboot, if_neg notStep]

theorem drives_handle (debugger : Debugger) (event : Event) :
    debugger.Drives event (debugger.handle event) := by
  cases event with
  | key key => exact debugger.drives_press key
  | tick => exact debugger.drives_tick

/-! ### Sessions -/

theorem IsBehind.handle {debugger : Debugger} {steps : Nat} (behind : debugger.IsBehind steps)
    (event : Event) : (debugger.handle event).IsBehind (debugger.countOn steps event) := by
  have drives := debugger.drives_handle event
  unfold IsBehind countOn
  rw [drives.machine, drives.home]
  split
  · rfl
  · split
    · rw [Function.iterate_succ_apply', ← behind]
    · exact behind

theorem home_after (debugger : Debugger) (events : List Event) :
    (debugger.after events).home = debugger.home := by
  induction events generalizing debugger with
  | nil => rfl
  | cons event events ih =>
    exact (ih (debugger.handle event)).trans (debugger.drives_handle event).home

theorem IsBehind.after {debugger : Debugger} {steps : Nat} (behind : debugger.IsBehind steps)
    (events : List Event) :
    (debugger.after events).IsBehind (debugger.stepsSinceReboot steps events) := by
  -- the debugger is any that the session has come to
  induction events generalizing debugger steps with
  | nil => exact behind
  | cons event events ih => exact ih (behind.handle event)

/-- The machine depends on a session only by the number of steps since the last reboot, and a
reboot leaves the breakpoints and the scroll position. -/
theorem controls_only_step (image : CardImage) (input : List Card) (config : Config) :
    let booted := (Machine.fresh (Deck.empty.append input) config).boot image
    let session := (start image input config).after
    let steps := (start image input config).stepsSinceReboot 0
    (∀ events, (session events).machine = Machine.advanced^[steps events] booted) ∧
    (∀ events others, steps events = steps others →
      (session events).machine = (session others).machine) ∧
    ∀ events,
      let rebooted := session (events ++ [.key (.char 'x')])
      rebooted.machine = booted ∧ rebooted.breakpoints = (session events).breakpoints ∧
        rebooted.scroll = (session events).scroll := by
  intro booted session steps
  have begins : (start image input config).IsBehind 0 := rfl
  have behind (events : List Event) :
      (session events).machine = Machine.advanced^[steps events] booted := by
    have reached : (session events).IsBehind (steps events) := begins.after events
    rw [reached, home_after]
    rfl
  refine ⟨behind, ?_, ?_⟩
  · intro events others same
    rw [behind, behind, same]
  · intro events rebooted
    have last : rebooted = (session events).reboot := by
      simp only [rebooted, session, after, List.foldl_append, List.foldl_cons, List.foldl_nil]
      rfl
    rw [last]
    exact ⟨home_after _ events, rfl, rfl⟩

/-- Two instructions are executed again behind a reboot, with a stop at the breakpoint between
them, or the same two at once. -/
theorem paused_session_steps_alike :
    let image : CardImage := ⟨[(2, .jumpTo 0), (2, .jumpTo 3)]⟩
    let debugger := start image ["7"] {}
    let paused : List Event := [.key (.char 's'), .key (.char 'b'), .key (.char 'x'),
      .key (.char 'r'), .tick, .tick, .key .down, .key (.char 'r'), .tick, .key (.char 'p'), .tick]
    let plain : List Event := [.key (.char 's'), .key (.char 's')]
    debugger.stepsSinceReboot 0 paused = 2 ∧
      (debugger.after paused).breakpoints = [1] ∧ (debugger.after paused).scroll = 1 ∧
      (debugger.after paused).machine = (debugger.after plain).machine := by
  intro image debugger paused plain
  have twice : debugger.stepsSinceReboot 0 paused = 2 := by decide +kernel
  have alsoTwice : debugger.stepsSinceReboot 0 plain = 2 := by decide +kernel
  obtain ⟨-, alike, -⟩ := controls_only_step image ["7"] {}
  refine ⟨twice, ?_, ?_, alike paused plain (twice.trans alsoTwice.symm)⟩
  · decide +kernel
  · decide +kernel

end Debugger
end Cardiac
