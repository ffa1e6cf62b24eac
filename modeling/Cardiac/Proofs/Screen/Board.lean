import Mathlib.Data.List.Forall2
import Cardiac.Proofs.Debugger.Scrolling
import Cardiac.Proofs.Memory.Words
import Cardiac.Proofs.Screen.Lines

/-!
# The memory board

Memory is cut into pieces of ten cells, and the board's rows are those pieces from the one scrolled
to, as far as there is room. As many pieces come out as the size has tens, and one more, which may
have the last cell alone. So scrolling never leaves the board and reaches all of it.
-/
namespace Cardiac

namespace Screen

/-! ### Pieces of a list -/

theorem getElem?_chunks_eq_some_iff {α : Type} {length : Nat} (positive : 0 < length) {xs : List α}
    {i : Nat} {chunk : List α} : (chunks length xs)[i]? = some chunk ↔
      length * i < xs.length ∧ chunk = (xs.drop (length * i)).take length := by
  fun_induction chunks length xs generalizing i with
  | case1 => simp
  | case2 x xs ih =>
    cases i with
    | zero =>
      obtain ⟨rest, rfl⟩ := Nat.exists_eq_succ_of_ne_zero (Nat.ne_of_gt positive)
      simp [eq_comm]
    | succ i =>
      -- the first piece takes as many elements as are dropped in front of all later ones
      have place : length * (i + 1) = (length - 1 + length * i) + 1 := by
        rw [Nat.mul_succ]
        omega
      rw [List.getElem?_cons_succ, ih, place, List.drop_succ_cons, List.drop_drop,
        List.length_drop, List.length_cons]
      have counted : length * i < xs.length - (length - 1) ↔
          length - 1 + length * i + 1 < xs.length + 1 := by omega
      rw [counted]

end Screen

namespace Debugger

open Screen

variable {debugger : Debugger} {row : TableRow} {number visible i : Nat}

/-- The row of the board that a number stands for. -/
def boardRowAt (debugger : Debugger) (number : Nat) : TableRow :=
  boardRow debugger.pc.toNat number
    ((debugger.machine.memory.cells.toList.drop (10 * number)).take 10)

theorem getElem?_boardRows_eq_some_iff : (boardRows debugger visible)[i]? = some row ↔
    (i < visible ∧ 10 * (debugger.scroll + i) < debugger.machine.memory.size + 1) ∧
      row = debugger.boardRowAt (debugger.scroll + i) := by
  have positive : 0 < boardColumns := by decide
  have cells : debugger.machine.memory.cells.toList.length = debugger.machine.memory.size + 1 :=
    Vector.length_toList
  simp only [boardRows, List.getElem?_map, List.getElem?_take, List.getElem?_drop,
    List.getElem?_zipIdx, Nat.zero_add]
  constructor
  · intro found
    split at found
    next room =>
      obtain ⟨⟨chunk, _⟩, numbered, rfl⟩ := Option.map_eq_some_iff.mp found
      obtain ⟨piece, place, same⟩ := Option.map_eq_some_iff.mp numbered
      cases same
      obtain ⟨counted, rfl⟩ := (getElem?_chunks_eq_some_iff positive).mp place
      rw [cells] at counted
      exact ⟨⟨room, counted⟩, rfl⟩
    · cases found
  · rintro ⟨⟨room, counted⟩, rfl⟩
    rw [← cells] at counted
    rw [if_pos room, (getElem?_chunks_eq_some_iff positive).mpr ⟨counted, rfl⟩]
    rfl

/-- With room for so many rows, all are shown that there are from the one scrolled to. -/
theorem length_boardRows (debugger : Debugger) (visible : Nat) :
    (boardRows debugger visible).length =
      min visible (debugger.machine.memory.size / 10 + 1 - debugger.scroll) := by
  have shown (i : Nat) : i < (boardRows debugger visible).length ↔
      i < visible ∧ 10 * (debugger.scroll + i) < debugger.machine.memory.size + 1 := by
    constructor
    · intro counted
      exact (getElem?_boardRows_eq_some_iff.mp (List.getElem?_eq_getElem counted)).1
    · intro room
      exact (List.getElem?_eq_some_iff.mp (getElem?_boardRows_eq_some_iff.mpr ⟨room, rfl⟩)).1
  -- the last place shows a row and the one behind it does not, and that leaves one length
  have behind := shown (boardRows debugger visible).length
  have last := shown ((boardRows debugger visible).length - 1)
  omega

/-! ### Cells of a row -/

/-- The text shows what the cell of an address holds, and is marked for the program counter's. -/
structure IsCell (debugger : Debugger) (address : Nat) (cell : Span) : Prop where
  content : ∃ held, debugger.machine.memory.get address = .ok held ∧
    cell.text = Text.padLeft 4 ' ' (held.elim " ---" Word.text)
  marked : cell.look.background = .yellow ↔ address = debugger.pc.toNat

/-- The row has the label that a number stands for, and behind it the cells, in order. -/
structure Lists (debugger : Debugger) (number : Nat) (row : TableRow) : Prop where
  label : row.cells.head? = some ⟨Memory.addressText (10 * number), { foreground := .darkGray }⟩
  cells : List.Forall₂ debugger.IsCell
    (List.range' (10 * number)
      (min (10 * number + 9) debugger.machine.memory.size + 1 - 10 * number))
    row.cells.tail

theorem isCell_boardCell {address : Nat} {held : Option Word}
    (holds : debugger.machine.memory.get address = .ok held) :
    debugger.IsCell address (boardCell debugger.pc.toNat address held) := by
  refine ⟨⟨held, holds, rfl⟩, ?_⟩
  simp only [boardCell]
  split
  next here => simp [here]
  next elsewhere => cases held <;> simp [elsewhere]

theorem lists_boardRowAt (debugger : Debugger) (number : Nat) :
    debugger.Lists number (debugger.boardRowAt number) := by
  have start : number * boardColumns = 10 * number := Nat.mul_comm ..
  constructor
  case label => simp only [boardRowAt, boardRow, start, List.head?_cons]
  case cells =>
    simp only [boardRowAt, boardRow, start, List.tail_cons]
    -- cells are compared place by place, so no address has to be looked up in the row
    refine List.forall₂_iff_get.mpr ⟨?_, fun i _ counted => ?_⟩
    · simp only [List.length_range', List.length_mapIdx, List.length_take, List.length_drop,
        Vector.length_toList]
      omega
    · simp only [List.get_eq_getElem, List.getElem_range', Nat.one_mul, List.getElem_mapIdx,
        List.getElem_take, List.getElem_drop]
      refine isCell_boardCell ((Memory.get_eq_ok_iff _ _ _).mpr ?_)
      exact List.getElem?_eq_getElem _

theorem exists_mem_of_forall₂ {α β : Type} {R : α → β → Prop} {xs : List α} {ys : List β}
    (related : List.Forall₂ R xs ys) {x : α} (member : x ∈ xs) : ∃ y ∈ ys, R x y := by
  induction related with
  | nil => cases member
  | @cons a b _ _ first _ ih =>
    cases member with
    | head => exact ⟨b, List.mem_cons_self, first⟩
    | tail _ later =>
      obtain ⟨y, inside, related⟩ := ih later
      exact ⟨y, List.mem_cons_of_mem _ inside, related⟩

theorem Lists.exists_cell (lists : debugger.Lists number row) {address : Nat}
    (there : address / 10 = number) (inside : address ≤ debugger.machine.memory.size) :
    ∃ cell ∈ row.cells, debugger.IsCell address cell := by
  have member : address ∈ List.range' (10 * number)
      (min (10 * number + 9) debugger.machine.memory.size + 1 - 10 * number) := by
    rw [List.mem_range'_1]
    omega
  obtain ⟨cell, inRow, holds⟩ := exists_mem_of_forall₂ lists.cells member
  exact ⟨cell, List.mem_of_mem_tail inRow, holds⟩

/-- Only the program counter's cell is marked, and no label. -/
theorem Lists.of_marked (lists : debugger.Lists number row) {cell : Span}
    (member : cell ∈ row.cells) (yellow : cell.look.background = .yellow) :
    debugger.pc.toNat / 10 = number ∧ debugger.pc.toNat ≤ debugger.machine.memory.size := by
  obtain ⟨rest, cells⟩ := List.head?_eq_some_iff.mp lists.label
  rw [cells, List.mem_cons] at member
  rcases member with rfl | inRow
  · cases yellow
  · have tail : rest = row.cells.tail := by rw [cells, List.tail_cons]
    rw [tail] at inRow
    obtain ⟨address, place, holds⟩ := exists_mem_of_forall₂ lists.cells.flip inRow
    rw [holds.marked.mp yellow, List.mem_range'_1] at place
    omega

/-! ### The board -/

/-- With room for so many rows, the board shows consecutive rows from the one scrolled to, at least
one if there is any room, and the cell of the program counter is marked where it is shown. -/
structure ShowsBoard (debugger : Debugger) (visible : Nat) : Prop where
  count : (boardRows debugger visible).length =
    min visible (debugger.machine.memory.size / 10 + 1 - debugger.scroll)
  nonempty : 1 ≤ visible → boardRows debugger visible ≠ []
  lists : ∀ i row, (boardRows debugger visible)[i]? = some row →
    debugger.Lists (debugger.scroll + i) row
  marked : (∃ row ∈ boardRows debugger visible, ∃ cell ∈ row.cells,
      cell.look.background = .yellow) ↔
    debugger.pc.toNat ≤ debugger.machine.memory.size ∧
      debugger.scroll ≤ debugger.pc.toNat / 10 ∧
      debugger.pc.toNat / 10 < debugger.scroll + visible

theorem showsBoard (onBoard : debugger.scroll ≤ debugger.lastRow) (visible : Nat) :
    debugger.ShowsBoard visible := by
  have last : debugger.lastRow = debugger.machine.memory.size / 10 := rfl
  have length := debugger.length_boardRows visible
  constructor
  case count => exact length
  case nonempty =>
    intro some empty
    rw [empty, List.length_nil] at length
    omega
  case lists =>
    intro i row found
    obtain ⟨-, rfl⟩ := getElem?_boardRows_eq_some_iff.mp found
    exact debugger.lists_boardRowAt _
  case marked =>
    constructor
    · rintro ⟨row, member, cell, inRow, yellow⟩
      obtain ⟨i, found⟩ := List.getElem?_of_mem member
      obtain ⟨⟨shown, _⟩, rfl⟩ := getElem?_boardRows_eq_some_iff.mp found
      have place := (debugger.lists_boardRowAt (debugger.scroll + i)).of_marked inRow yellow
      omega
    · rintro ⟨inside, above, below⟩
      -- the row of the program counter is this many rows below the first one
      let i := debugger.pc.toNat / 10 - debugger.scroll
      have lists := debugger.lists_boardRowAt (debugger.scroll + i)
      obtain ⟨cell, inRow, holds⟩ := lists.exists_cell (by omega) inside
      have found : (boardRows debugger visible)[i]? = some _ :=
        getElem?_boardRows_eq_some_iff.mpr ⟨by omega, rfl⟩
      exact ⟨_, List.mem_of_getElem? found, cell, inRow, holds.marked.mpr rfl⟩

/-- Whatever keys are pressed and however often the clock ticks, the scroll position is a row of the
board, consecutive rows are shown from there on, a panel that is wide enough draws them with labels
of at most three digits, and the arrow keys scroll to any cell. -/
theorem board_reaches_every_cell [Toolkit] [LawfulToolkit] (image : CardImage) (input : List Card)
    (config : Config) (events : List Event) :
    let debugger := (start image input config).after events
    let size := debugger.machine.memory.size
    debugger.scroll ≤ size / 10 ∧
      (∀ visible, debugger.ShowsBoard visible) ∧
      (∀ width height i row, 55 ≤ width → (boardRows debugger (height - 3))[i]? = some row →
        ∃ line, (Toolkit.render (boardPanel debugger height) width height)[i + 2]? = some line ∧
          Draws line (debugger.scroll + i) row) ∧
      ∀ address ≤ size, ∃ key ∈ [Key.up, Key.down], ∃ presses,
        let scrolled := debugger.after (List.replicate presses (.key key))
        scrolled = { debugger with scroll := address / 10 } ∧
          ∀ visible, 1 ≤ visible → ∃ row, (boardRows scrolled visible)[0]? = some row ∧
            scrolled.Lists (address / 10) row ∧
            ∃ cell ∈ row.cells, scrolled.IsCell address cell := by
  intro debugger size
  have onBoard : debugger.OnBoard := (onBoard_start image input config).after events
  refine ⟨onBoard.scroll, fun visible => showsBoard onBoard.scroll visible, ?_, ?_⟩
  · intro width height i row wide found
    obtain ⟨⟨room, _⟩, rfl⟩ := getElem?_boardRows_eq_some_iff.mp found
    exact exists_line_of_boardRow found (List.length_take_le ..) room wide
  · intro address inside
    have above : address / 10 ≤ debugger.lastRow := Nat.div_le_div_right inside
    obtain ⟨key, arrow, presses, pressed⟩ := exists_presses_to above
    refine ⟨key, arrow, presses, pressed, fun visible some => ?_⟩
    rw [pressed]
    -- the board of the scrolled debugger starts with the row that the address is in
    have lists := lists_boardRowAt { debugger with scroll := address / 10 } (address / 10)
    refine ⟨_, getElem?_boardRows_eq_some_iff.mpr ⟨⟨some, ?_⟩, rfl⟩, lists, ?_⟩
    · show 10 * (address / 10) < size + 1
      omega
    · exact lists.exists_cell rfl inside

/-- A memory of size 20 has its last cell alone in a row. Two presses scroll to it and a third one no
farther, and there the program counter is not shown. -/
theorem board_reaches_last_cell :
    let events : List Event := [.key .down, .key .down, .key (.char 'x'), .key .down, .tick]
    let debugger := (start .empty [] { memorySize := 20 }).after events
    debugger.scroll = 2 ∧
      (∀ row ∈ boardRows debugger 14, ∀ cell ∈ row.cells, cell.look.background ≠ .yellow) ∧
      (∃ row line, (boardRows debugger 14)[0]? = some row ∧
        row.cells.map (·.text) = ["20", " ---"] ∧
        (Toolkit.render (boardPanel debugger 17) 55 17)[2]? = some line ∧ Draws line 2 row) ∧
      ∃ key presses, (debugger.after (List.replicate presses (.key key))).scroll = 0 := by
  intro events debugger
  obtain ⟨-, shows, drawn, reached⟩ :=
    board_reaches_every_cell .empty [] { memorySize := 20 } events
  have scroll : debugger.scroll = 2 := by decide +kernel
  have counter : debugger.pc = 0 := by decide +kernel
  have first : (boardRows debugger 14)[0]? = some (debugger.boardRowAt 2) := by decide +kernel
  obtain ⟨line, place, draws⟩ := drawn 55 17 0 _ (by decide) first
  change Draws line (debugger.scroll + 0) _ at draws
  rw [scroll] at draws
  refine ⟨scroll, ?_, ⟨_, line, first, ?_, place, draws⟩, ?_⟩
  · intro row member cell inRow yellow
    have ⟨_, above, _⟩ := (shows 14).marked.mp ⟨row, member, cell, inRow, yellow⟩
    change debugger.scroll ≤ debugger.pc.toNat / 10 at above
    rw [scroll, counter] at above
    exact absurd above (by decide)
  · decide +kernel
  · obtain ⟨key, -, presses, pressed, -⟩ := reached 0 (Nat.zero_le _)
    exact ⟨key, presses, congrArg Debugger.scroll pressed⟩

/-- The label of row 100 has a digit too many: its line says 100, as the one of row 10 does. -/
theorem label_of_row_100_cut :
    let debugger := start .empty [] { memorySize := 1000 }
    ∃ row shown, (boardRows debugger 101)[100]? = some row ∧
      row.cells.head? = some ⟨"1000", { foreground := .darkGray }⟩ ∧
      (Toolkit.render (boardPanel debugger 104) 55 104)[102]? = some shown ∧
      ((shown.drop 1).take 4).map Cell.glyph = ["1", "0", "0", " "] := by
  intro debugger
  let line := TableRow.row boardWidths (debugger.boardRowAt 100)
  refine ⟨debugger.boardRowAt 100, (boardPanel debugger 104).side (fit 53 {} line), ?_, ?_, ?_, ?_⟩
  · decide +kernel
  · decide +kernel
  · decide +kernel
  · decide +kernel

end Debugger
end Cardiac
