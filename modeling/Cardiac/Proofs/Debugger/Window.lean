import Cardiac.Debugger
import Cardiac.Proofs.Memory.Cells

/-!
# The listing window

Half of a window's rows come before the program counter, as far as there are addresses. So wherever
the program counter is at a cell, its row is among those shown. Rows end at the last cell, and with a
program counter behind that none of them is marked.
-/
namespace Cardiac.Debugger

variable {debugger : Debugger} {rows i : Nat} {row : ListingRow}

/-- The first address of a window with so many rows. -/
def firstShown (debugger : Debugger) (rows : Nat) : Nat := debugger.pc.toNat - rows / 2

/-- How many rows have an address with a cell. -/
def shownRows (debugger : Debugger) (rows : Nat) : Nat :=
  min rows (debugger.machine.memory.size + 1 - debugger.firstShown rows)

/-- The row of an address. -/
def rowAt (debugger : Debugger) (address : Nat) : ListingRow :=
  ⟨address, cellText debugger.machine.memory address, address = debugger.pc.toNat⟩

theorem cellText_of_get {memory : Memory} {address : Nat} {cell : Option Word}
    (held : memory.get address = .ok cell) :
    cellText memory address = cell.elim "---" Word.disassembled := by
  simp only [cellText, held]
  cases cell <;> rfl

/-- As long as 32 bits are enough to count rows and cells, no count is cut. -/
theorem window_eq (few : rows < UInt32.size) (small : debugger.machine.memory.size < UInt32.size) :
    debugger.window rows =
      (List.range' (debugger.firstShown rows) (debugger.shownRows rows)).map debugger.rowAt := by
  simp only [window, Nat.mod_eq_of_lt few, Nat.mod_eq_of_lt small]
  rfl

/-- What is shown of consecutive numbers, by its place. -/
theorem getElem?_map_range'_eq_some_iff {Shown : Type} {shows : Nat → Shown} {first count : Nat}
    {shown : Shown} : ((List.range' first count).map shows)[i]? = some shown ↔
      i < count ∧ shown = shows (first + i) := by
  rw [List.getElem?_map, Option.map_eq_some_iff]
  constructor
  · rintro ⟨number, found, rfl⟩
    obtain ⟨counted, rfl⟩ := List.getElem?_eq_some_iff.mp found
    rw [List.length_range'] at counted
    exact ⟨counted, by rw [List.getElem_range', Nat.one_mul]⟩
  · rintro ⟨counted, rfl⟩
    exact ⟨_, by rw [List.getElem?_range' counted, Nat.one_mul], rfl⟩

theorem getElem?_window_eq_some_iff (few : rows < UInt32.size)
    (small : debugger.machine.memory.size < UInt32.size) :
    (debugger.window rows)[i]? = some row ↔
      i < debugger.shownRows rows ∧ row = debugger.rowAt (debugger.firstShown rows + i) := by
  rw [window_eq few small, getElem?_map_range'_eq_some_iff]

theorem exists_get_of_shown (shown : i < debugger.shownRows rows) :
    ∃ cell, debugger.machine.memory.get (debugger.firstShown rows + i : Nat) = .ok cell := by
  apply Memory.exists_get_of_inside
  unfold shownRows at shown
  unfold Memory.Inside
  omega

/-- A window shows consecutive cells, with the instruction or the data in each of them, and marks the
row of the program counter: where that is at a cell, the row is among those shown, in the middle of
the window or before it. -/
theorem window_shows_counter (visible : 1 ≤ rows) (few : rows < UInt32.size)
    (small : debugger.machine.memory.size < UInt32.size) :
    let memory := debugger.machine.memory
    let pc := debugger.pc.toNat
    let first := pc - rows / 2
    let place := min pc (rows / 2)
    let window := debugger.window rows
    window.map (·.address) = List.range' first (min rows (memory.size + 1 - first)) ∧
      (∀ row ∈ window, ∃ cell, memory.get row.address = .ok cell ∧
        row.text = cell.elim "---" Word.disassembled) ∧
      (pc ≤ memory.size →
        (∃ row, window[place]? = some row ∧ row.address = pc) ∧
          ∀ i row, window[i]? = some row → (row.atCounter = true ↔ i = place)) ∧
      (memory.size < pc → ∀ row ∈ window, row.atCounter = false) := by
  intro memory pc first place window
  have shows (i : Nat) (row : ListingRow) : window[i]? = some row ↔
      i < debugger.shownRows rows ∧ row = debugger.rowAt (first + i) :=
    getElem?_window_eq_some_iff few small
  have count : debugger.shownRows rows = min rows (memory.size + 1 - first) := rfl
  refine ⟨?_, ?_, ?_, ?_⟩
  · simp only [window, window_eq few small, List.map_map]
    exact List.map_id _
  · intro row member
    obtain ⟨i, found⟩ := List.getElem?_of_mem member
    obtain ⟨shown, rfl⟩ := (shows i row).mp found
    obtain ⟨cell, held⟩ := exists_get_of_shown shown
    exact ⟨cell, held, cellText_of_get held⟩
  · intro inside
    have centred : first + place = pc := by omega
    constructor
    · -- of at least one row fewer than all come before the middle
      exact ⟨_, (shows place _).mpr ⟨by omega, rfl⟩, centred⟩
    · intro i row found
      obtain ⟨-, rfl⟩ := (shows i row).mp found
      simp only [rowAt, decide_eq_true_eq]
      omega
  · intro outside row member
    obtain ⟨i, found⟩ := List.getElem?_of_mem member
    obtain ⟨shown, rfl⟩ := (shows i row).mp found
    simp only [rowAt, decide_eq_false_iff_not]
    omega

/-- A window with room for a single row shows the last cell of a memory when the program counter is
there, and the instruction in it. Farther on it still shows that cell if there is room before the
middle, but marks nothing. And a row before it has the dashes of an empty cell. -/
theorem window_shows_last_cell :
    let memory := (Memory.ofSize 7).put 7 ⟨504, by decide, by decide⟩
    let debugger (pc : UInt32) : Debugger :=
      { start .empty [] {} with
        machine := { Machine.fresh Deck.empty {} with memory, registers := { pc } } }
    (∃ row, ((debugger 7).window 1)[0]? = some row ∧ row.address = 7 ∧ row.atCounter = true ∧
      row.text = "OUT 04") ∧
      ((debugger 8).window 3).map (·.address) = [7] ∧
      (∀ row ∈ (debugger 8).window 3, row.atCounter = false) ∧
      ∀ row ∈ (debugger 8).window 5, row.address = 6 → row.text = "---" := by
  intro memory debugger
  have small (pc : UInt32) : (debugger pc).machine.memory.size < UInt32.size := by
    show memory.size < UInt32.size
    decide
  obtain ⟨-, texts, marked, -⟩ :=
    window_shows_counter (by decide : 1 ≤ 1) (by decide) (small 7)
  obtain ⟨addresses, -, -, unmarked⟩ :=
    window_shows_counter (by decide : 1 ≤ 3) (by decide) (small 8)
  obtain ⟨-, others, -, -⟩ :=
    window_shows_counter (by decide : 1 ≤ 5) (by decide) (small 8)
  obtain ⟨⟨row, first, here⟩, only⟩ := marked (by decide)
  refine ⟨⟨row, first, here, (only 0 row first).mpr (by decide), ?_⟩,
    addresses.trans (by decide), unmarked (by decide), ?_⟩
  · obtain ⟨cell, held, text⟩ := texts row (List.mem_of_getElem? first)
    have last : memory.get 7 = .ok (some ⟨504, by decide, by decide⟩) := by rfl
    have address : row.address = 7 := here
    rw [address] at held
    cases last.symm.trans held
    rw [text]
    decide +kernel
  · intro row member before
    obtain ⟨cell, held, text⟩ := others row member
    have empty : memory.get 6 = .ok none := by rfl
    rw [before] at held
    cases empty.symm.trans held
    exact text

end Cardiac.Debugger
