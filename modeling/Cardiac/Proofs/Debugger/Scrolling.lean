import Cardiac.Proofs.Debugger.Breakpoints
import Cardiac.Proofs.Machine.Growth

/-!
# Scrolling

Only the arrow keys scroll the memory board, a row at a time and never behind its last row. No step
and no reboot changes the size of the memory, so in a session that row stays the last one, and every
row can be scrolled to.
-/
namespace Cardiac

namespace Machine

variable {Port : Type} [CardPort Port]

theorem size_advanced (machine : Machine Port) :
    machine.advanced.memory.size = machine.memory.size := by
  rw [← machine.grows_step.size]
  rcases machine.advanced_eq_or_reset with same | same
  · rw [same]
  · rw [same]
    rfl

end Machine

namespace Debugger

variable {debugger : Debugger} {row presses : Nat}

theorem scroll_step (debugger : Debugger) : debugger.step.scroll = debugger.scroll := by
  obtain ⟨running, status, stepped⟩ := debugger.exists_step_eq
  rw [stepped]

theorem scroll_tick (debugger : Debugger) : debugger.tick.scroll = debugger.scroll := by
  have ticked := debugger.ticked_tick
  generalize debugger.tick = next at ticked
  cases ticked <;> rfl

theorem scroll_toggleBreakpoint (debugger : Debugger) :
    debugger.toggleBreakpoint.scroll = debugger.scroll := by
  simp only [toggleBreakpoint]
  split <;> rfl

/-- No key and no tick scrolls behind the last row. -/
theorem scroll_handle_le (onBoard : debugger.scroll ≤ debugger.lastRow) (event : Event) :
    (debugger.handle event).scroll ≤ debugger.lastRow := by
  cases event with
  | tick => exact (scroll_tick debugger).trans_le onBoard
  | key key =>
    simp only [handle]
    unfold press
    split
    · exact onBoard
    · exact (scroll_step _).trans_le onBoard
    · exact onBoard
    · exact onBoard
    · exact (scroll_toggleBreakpoint debugger).trans_le onBoard
    · exact onBoard
    · exact (Nat.sub_le ..).trans onBoard
    · split
      next room => exact room
      next bottom => exact onBoard
    · exact onBoard

/-- The memory has its first size still, and the board shows a row of it. -/
structure OnBoard (debugger : Debugger) : Prop where
  size : debugger.machine.memory.size = debugger.home.memory.size
  scroll : debugger.scroll ≤ debugger.lastRow

theorem onBoard_start (image : CardImage) (input : List Card) (config : Config) :
    (start image input config).OnBoard :=
  ⟨rfl, Nat.zero_le _⟩

theorem size_handle (onBoard : debugger.OnBoard) (event : Event) :
    (debugger.handle event).machine.memory.size = debugger.machine.memory.size := by
  rw [(debugger.drives_handle event).machine]
  split
  · -- a reboot gives the memory its first size, which it has still
    exact onBoard.size.symm
  · split
    · exact Machine.size_advanced _
    · rfl

theorem OnBoard.handle (onBoard : debugger.OnBoard) (event : Event) :
    (debugger.handle event).OnBoard := by
  have size := size_handle onBoard event
  constructor
  · rw [size, (debugger.drives_handle event).home]
    exact onBoard.size
  · rw [lastRow, size]
    exact scroll_handle_le onBoard.scroll event

theorem OnBoard.after (onBoard : debugger.OnBoard) (events : List Event) :
    (debugger.after events).OnBoard := by
  induction events generalizing debugger with
  | nil => exact onBoard
  | cons event events ih => exact ih (onBoard.handle event)

/-! ### Pressing an arrow key repeatedly -/

theorem after_up (debugger : Debugger) (presses : Nat) :
    debugger.after (List.replicate presses (.key .up)) =
      { debugger with scroll := debugger.scroll - presses } := by
  induction presses generalizing debugger with
  | zero => rfl
  | succ presses ih =>
    refine (ih (debugger.press .up)).trans ?_
    simp only [press, Nat.sub_sub, Nat.add_comm 1 presses]

theorem after_down (room : debugger.scroll + presses ≤ debugger.lastRow) :
    debugger.after (List.replicate presses (.key .down)) =
      { debugger with scroll := debugger.scroll + presses } := by
  induction presses generalizing debugger with
  | zero => rfl
  | succ presses ih =>
    -- there is room for the first press, so it is not swallowed
    have pressed : debugger.press .down = { debugger with scroll := debugger.scroll + 1 } :=
      if_pos (by omega)
    refine (ih (?_ : (debugger.press .down).scroll + presses ≤ _)).trans ?_
    · rw [pressed]
      show debugger.scroll + 1 + presses ≤ debugger.lastRow
      omega
    · simp only [pressed, Nat.add_assoc, Nat.add_comm 1 presses]

/-- One of the arrow keys, pressed often enough, scrolls to any row of the board. -/
theorem exists_presses_to (last : row ≤ debugger.lastRow) :
    ∃ key ∈ [Key.up, Key.down], ∃ presses,
      debugger.after (List.replicate presses (.key key)) = { debugger with scroll := row } := by
  by_cases above : row ≤ debugger.scroll
  · refine ⟨.up, by simp, debugger.scroll - row, ?_⟩
    rw [after_up, Nat.sub_sub_self above]
  · refine ⟨.down, by simp, row - debugger.scroll, ?_⟩
    rw [after_down (by omega), Nat.add_sub_cancel' (by omega)]

end Debugger
end Cardiac
