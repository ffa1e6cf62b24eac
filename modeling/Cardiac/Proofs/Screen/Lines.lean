import Cardiac.Proofs.Screen.Toolkit
import Cardiac.Proofs.Text.Numerals
import Cardiac.Screen.Board

/-!
# Lines of the memory board

Addresses and cells are plain texts, and a cell's takes the four columns there are for it. But the
label of a row has three columns only, so the last digits of a longer one are cut off.
-/
namespace Cardiac.Screen

variable {row : TableRow} {number : Nat}

/-! ### Plain texts -/

theorem bounds_of_isDigit {c : Char} (digit : c.isDigit = true) : 32 ≤ c.toNat ∧ c.toNat < 127 := by
  have ⟨above, below⟩ := Char.isDigit_iff_toNat.mp digit
  exact ⟨Nat.le_trans (by decide) above, Nat.lt_of_le_of_lt below (by decide)⟩

theorem isPlain_addressText (address : Nat) : IsPlain (Memory.addressText address) := by
  intro c member
  rw [Memory.addressText, Text.toList_zeroPadded] at member
  exact bounds_of_isDigit (Text.isDigit_of_mem_paddedDigits member)

theorem isPlain_wordText (word : Word) : IsPlain word.text := by
  intro c member
  rw [Word.toList_text] at member
  rcases List.mem_append.mp member with sign | digit
  · split at sign
    · cases List.mem_singleton.mp sign
      decide
    · cases sign
  · exact bounds_of_isDigit (Text.isDigit_of_mem_paddedDigits digit)

theorem isPlain_boardCell (pc address : Nat) (cell : Option Word) :
    IsPlain (boardCell pc address cell).text := by
  cases cell with
  | none =>
    show IsPlain " ---"
    decide
  | some word =>
    intro c member
    simp only [boardCell, Option.elim_some, Text.padLeft, String.toList_append,
      String.toList_ofList] at member
    rcases List.mem_append.mp member with blank | inside
    · cases List.eq_of_mem_replicate blank
      decide
    · exact isPlain_wordText word c inside

theorem length_boardCell (pc address : Nat) (cell : Option Word) :
    (boardCell pc address cell).text.length = 4 := by
  rw [boardCell, Text.length_padLeft]
  cases cell with
  | none => rfl
  | some word => exact Nat.max_eq_left word.length_text_le

theorem length_addressText_le_iff (address : Nat) :
    (Memory.addressText address).length ≤ 3 ↔ address < 1000 := by
  rw [Memory.addressText, Text.zeroPadded, Text.length_padLeft, Nat.max_le]
  exact ⟨fun short => (Nat.length_repr_le_iff (by decide)).mp short.2,
    fun small => ⟨by decide, (Nat.length_repr_le_iff (by decide)).mpr small⟩⟩

/-! ### Lines -/

/-- The line has the row's label, as far as three columns go, which are enough for one below 1000
only, and each of its cells in four columns. -/
structure Draws (line : Row) (number : Nat) (row : TableRow) : Prop where
  label : ((line.drop 1).take 3).map Cell.glyph = inColumns 3 (Memory.addressText (10 * number))
  whole : (Memory.addressText (10 * number)).toList.map String.singleton <+:
    ((line.drop 1).take 3).map Cell.glyph ↔ 10 * number < 1000
  cell : ∀ j cell, row.cells[j + 1]? = some cell → (line.drop (5 * j + 5)).take 4 =
    cell.text.toList.map fun c => ⟨String.singleton c, cell.look⟩

/-- A text begins in its columns and ends there too if they are enough. -/
theorem prefix_inColumns_iff (width : Nat) (text : String) :
    text.toList.map String.singleton <+: inColumns width text ↔ text.length ≤ width := by
  constructor
  · intro whole
    have length := whole.length_le
    rwa [length_inColumns, List.length_map, String.length_toList] at length
  · intro fits
    rw [inColumns_of_length_le fits]
    exact List.prefix_append ..

theorem columnStart_cell : ∀ j < 10, columnStart (3 :: List.replicate 10 4) (j + 1) = 5 * j + 5 := by
  decide

theorem map_glyph_map {look : Look} (shown : List Glyph) :
    (shown.map fun glyph => Cell.mk glyph look).map Cell.glyph = shown := by
  rw [List.map_map]
  exact List.map_id _

/-- A panel that is wide enough for ten cells draws a row of the board below the header. -/
theorem exists_line_of_boardRow [Toolkit] [LawfulToolkit] {debugger : Debugger}
    {pc width height i : Nat} {cells : List (Option Word)}
    (found : (boardRows debugger (height - 3))[i]? = some (boardRow pc number cells))
    (few : cells.length ≤ 10) (room : i < height - 3) (wide : 55 ≤ width) :
    ∃ line, (Toolkit.render (boardPanel debugger height) width height)[i + 2]? = some line ∧
      Draws line number (boardRow pc number cells) := by
  have content : (boardPanel debugger height).content = .table boardHeader
      (boardRows debugger (height - 3)) ((3 :: List.replicate 10 4).map .length) := rfl
  obtain ⟨line, drawn, shows⟩ := LawfulToolkit.table_row content found rfl wide room
  -- the label is the row's first cell, so memory's cell j is cell j + 1 of the row
  have label : (line.drop 1).take 3 = _ := shows 0 3 _ rfl rfl (isPlain_addressText _)
  have glyphs := congrArg (List.map Cell.glyph) label
  rw [map_glyph_map, boardColumns, Nat.mul_comm] at glyphs
  refine ⟨line, drawn, glyphs, ?_, fun j cell inRow => ?_⟩
  · rw [glyphs, prefix_inColumns_iff, length_addressText_le_iff]
  · have inCells := inRow
    simp only [boardRow, List.getElem?_cons_succ, List.getElem?_mapIdx,
      Option.map_eq_some_iff] at inCells
    obtain ⟨held, place, rfl⟩ := inCells
    have counted : j < 10 := Nat.lt_of_lt_of_le (List.getElem?_eq_some_iff.mp place).1 few
    have given : (3 :: List.replicate 10 4)[j + 1]? = some 4 := by
      rw [List.getElem?_cons_succ, List.getElem?_replicate, if_pos counted]
    have four := length_boardCell pc (number * boardColumns + j) held
    have columns := shows (j + 1) 4 _ inRow given (isPlain_boardCell pc _ held)
    rw [columnStart_cell j counted, inColumns_of_length_le (Nat.le_of_eq four), four, Nat.sub_self,
      List.replicate_zero, List.append_nil, List.map_map] at columns
    exact columns

end Cardiac.Screen
