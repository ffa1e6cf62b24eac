import Mathlib.Data.List.Basic
import Cardiac.Screen.Toolkit

/-!
# Lawful toolkits

Of the toolkit that draws the screen only this is used: a plain text has a column for each of its
characters, lines are not wrapped, and a column of a table shows what fits into the width that was
asked for it. The given toolkit obeys these laws.
-/
namespace Cardiac.Screen

/-- All characters are printable ones of ASCII. -/
def IsPlain (text : String) : Prop := ∀ c ∈ text.toList, 32 ≤ c.toNat ∧ c.toNat < 127

instance (text : String) : Decidable (IsPlain text) :=
  List.decidableBAll (fun c : Char => 32 ≤ c.toNat ∧ c.toNat < 127) text.toList

/-- A text cut or filled up with blanks to a width, a character to a column. -/
def inColumns (width : Nat) (text : String) : List Glyph :=
  (text.toList.map String.singleton).take width ++ List.replicate (width - text.length) " "

def lineText (line : List Span) : String := String.join (line.map Span.text)

/-- Where a column of a table begins in a panel: behind the frame's side and the columns before it,
each with a blank one. -/
def columnStart (widths : List Nat) (column : Nat) : Nat := 1 + total (widths.take column) + column

class LawfulToolkit [Toolkit] : Prop where
  /-- Lines of a paragraph stand one below the other, from side to side of the frame. -/
  paragraph_line {panel : Panel} {lines : List (List Span)} {look : Look} {line : List Span}
      {i : Nat} {width height : Nat} (content : panel.content = .paragraph lines look)
      (found : lines[i]? = some line) (plain : IsPlain (lineText line)) (wide : 2 ≤ width)
      (room : i < height - 2) :
    ∃ row, (Toolkit.render panel width height)[i + 1]? = some row ∧
      row.map Cell.glyph = "│" :: inColumns (width - 2) (lineText line) ++ ["│"]
  /-- Rows of a table stand one below the other under the header, and where all columns have the
  widths that were asked for, each cell of a row has its own. -/
  table_row {panel : Panel} {header row : TableRow} {rows : List TableRow} {widths : List Nat}
      {i : Nat} {width height : Nat}
      (content : panel.content = .table header rows (widths.map .length))
      (found : rows[i]? = some row) (bare : row.look = {})
      (wide : total widths + widths.length + 1 ≤ width) (room : i < height - 3) :
    ∃ line, (Toolkit.render panel width height)[i + 2]? = some line ∧
      ∀ (j size : Nat) (cell : Span), row.cells[j]? = some cell → widths[j]? = some size →
        IsPlain cell.text → (line.drop (columnStart widths j)).take size =
          (inColumns size cell.text).map (⟨·, cell.look⟩)

/-! ### Glyphs of a plain text -/

theorem isUnseen_of_plain {c : Char} (above : 32 ≤ c.toNat) (below : c.toNat < 127) :
    isUnseen c = false := by
  have later : ∀ range ∈ unseenRanges, 127 ≤ range.1 := by decide
  refine Bool.or_eq_false_iff.mpr ⟨decide_eq_false ?_, List.any_eq_false.mpr ?_⟩
  · rintro rfl
    exact absurd above (by decide)
  · -- all these ranges lie behind the printable characters
    intro range member
    have := later range member
    simp only [Bool.and_eq_true, decide_eq_true_eq]
    omega

theorem glyphs_eq_map {text : List Char} (plain : ∀ c ∈ text, 32 ≤ c.toNat ∧ c.toNat < 127) :
    glyphs text = text.map String.singleton := by
  fun_induction glyphs text with
  | case1 => rfl
  | case2 rest =>
    -- a carriage return cannot be printed
    have := (plain '\r' List.mem_cons_self).1
    exact absurd this (by decide)
  | case3 c rest _ unseen =>
    have ⟨above, below⟩ := plain c List.mem_cons_self
    rw [isUnseen_of_plain above below] at unseen
    cases unseen
  | case4 c rest _ seen ih =>
    rw [ih fun c member => plain c (List.mem_cons_of_mem _ member), List.map_cons]

theorem inColumns_of_length_le {width : Nat} {text : String} (fits : text.length ≤ width) :
    inColumns width text =
      text.toList.map String.singleton ++ List.replicate (width - text.length) " " := by
  rw [inColumns, List.take_of_length_le]
  rwa [List.length_map, String.length_toList]

theorem length_inColumns (width : Nat) (text : String) : (inColumns width text).length = width := by
  simp only [inColumns, List.length_append, List.length_take, List.length_map,
    String.length_toList, List.length_replicate]
  omega

/-! ### The given toolkit -/

theorem length_fit (width : Nat) (look : Look) (row : Row) :
    (fit width look row).length = width := by
  simp only [fit, List.length_append, List.length_take, List.length_replicate]
  omega

theorem take_drop_append {xs ys : Row} {start size : Nat} (inside : start + size ≤ xs.length) :
    ((xs ++ ys).drop start).take size = (xs.drop start).take size := by
  rw [List.take_drop, List.take_drop, List.take_append_of_le_length inside]

/-- A row is cut or filled up at its end only. -/
theorem take_drop_fit {width start size : Nat} {look : Look} {row : Row}
    (inside : start + size ≤ width) (long : start + size ≤ row.length) :
    ((fit width look row).drop start).take size = (row.drop start).take size := by
  rw [fit, take_drop_append, List.take_drop, List.take_take, Nat.min_eq_left inside,
    List.take_drop]
  rw [List.length_take]
  omega

theorem map_glyph_spans (ground : Look) {line : List Span} (plain : IsPlain (lineText line)) :
    (line.flatMap (·.row ground)).map Cell.glyph =
      (lineText line).toList.map String.singleton := by
  simp only [IsPlain, lineText, String.toList_join, List.flatMap_map] at plain ⊢
  rw [List.map_flatMap, List.map_flatMap]
  refine List.flatMap_congr fun span member => ?_
  have glyphs := glyphs_eq_map fun c inside => plain c (List.mem_flatMap.mpr ⟨span, member, inside⟩)
  rw [Span.row, List.map_map, glyphs]
  exact List.map_id _

theorem map_glyph_fit (width : Nat) (look : Look) (row : Row) : (fit width look row).map Cell.glyph =
    (row.map Cell.glyph).take width ++ List.replicate (width - row.length) " " := by
  rw [fit, List.map_append, List.map_take, List.map_replicate]

theorem fit_spanRow {width : Nat} {ground : Look} {cell : Span} (plain : IsPlain cell.text) :
    fit width (cell.look.over ground) (cell.row ground) =
      (inColumns width cell.text).map (⟨·, cell.look.over ground⟩) := by
  rw [fit, inColumns, Span.row, glyphs_eq_map plain, List.map_append, List.map_replicate,
    List.map_take, List.length_map, List.length_map, String.length_toList]

theorem Look.over_bare (look : Look) : look.over {} = look := by
  obtain ⟨foreground, background, bold⟩ := look
  simp only [Look.over, Bool.or_false, Look.mk.injEq, and_true]
  constructor <;> split <;> simp [*]

/-- A panel shows its content below its upper edge, as far as there is room. -/
theorem getElem?_rows {panel : Panel} {width height i : Nat} {row : Row}
    (found : (panel.content.rows (width - 2))[i]? = some row) (room : i < height - 2) :
    (panel.rows width height)[i + 1]? = some (panel.side row) := by
  have shown : ((panel.content.rows (width - 2)).take (height - 2))[i]? = some row := by
    rw [List.getElem?_take, if_pos room, found]
  have counted := (List.getElem?_eq_some_iff.mp shown).1
  simp only [Panel.rows, List.cons_append, List.getElem?_cons_succ]
  rw [List.getElem?_append_left, List.getElem?_map, List.getElem?_append_left counted, shown]
  · rfl
  · rw [List.length_map, List.length_append]
    omega

theorem total_cons (length : Nat) (lengths : List Nat) :
    total (length :: lengths) = length + total lengths := rfl

/-- Pieces of known sizes are found behind those before them. -/
theorem take_drop_flatMap {α β : Type} {piece : α → List β} {size : α → Nat}
    (sized : ∀ x, (piece x).length = size x) {xs : List α} {i : Nat} {x : α}
    (found : xs[i]? = some x) :
    ((xs.flatMap piece).drop (total ((xs.take i).map size))).take (size x) = piece x := by
  induction xs generalizing i with
  | nil => cases found
  | cons y ys ih =>
    -- the first piece is the one looked for, or it is dropped as a whole
    rw [List.flatMap_cons]
    cases i with
    | zero =>
      cases found
      exact List.take_left' (sized x)
    | succ i =>
      rw [List.take_succ_cons, List.map_cons, total_cons, ← List.drop_drop,
        List.drop_left' (sized y)]
      exact ih found

/-- A cell's column, with the blank one behind it. -/
def columnPiece (ground : Look) (column : Constraint × Span) : Row :=
  fit column.1.fixed (column.2.look.over ground) (column.2.row ground) ++ [⟨" ", ground⟩]

def columnSize (column : Constraint × Span) : Nat := column.1.fixed + 1

theorem length_columnPiece (ground : Look) (column : Constraint × Span) :
    (columnPiece ground column).length = columnSize column := by
  rw [columnPiece, List.length_append, length_fit]
  rfl

theorem take_columnPiece (ground : Look) (width : Nat) (cell : Span) :
    (columnPiece ground (.length width, cell)).take width =
      fit width (cell.look.over ground) (cell.row ground) :=
  List.take_left' (length_fit ..)

theorem sum_columnSizes {widths : List Nat} {cells : List Span} {i : Nat}
    (enough : i ≤ ((widths.map Constraint.length).zip cells).length) :
    total ((((widths.map Constraint.length).zip cells).take i).map columnSize) =
      total (widths.take i) + i := by
  -- on the number of columns, for either list may be the shorter one
  induction i generalizing widths cells with
  | zero => rfl
  | succ i ih =>
    cases widths with
    | nil => cases enough
    | cons width widths =>
      cases cells with
      | nil => cases enough
      | cons cell cells =>
        have sizes := ih (Nat.le_of_succ_le_succ enough)
        simp only [List.map_cons, List.zip_cons_cons, List.take_succ_cons, total_cons, sizes,
          columnSize, Constraint.fixed]
        omega

theorem total_take_add_le {widths : List Nat} {j size : Nat} (given : widths[j]? = some size) :
    total (widths.take j) + size ≤ total widths := by
  induction widths generalizing j with
  | nil => cases given
  | cons width widths ih =>
    cases j with
    | zero =>
      cases given
      rw [List.take_zero, total_cons, total, List.foldr_nil]
      omega
    | succ j =>
      have rest := ih given
      rw [List.take_succ_cons, total_cons, total_cons]
      omega

/-- Up to its end a column takes no more than all columns do. -/
theorem columnStart_add_le {widths : List Nat} {j size : Nat} (given : widths[j]? = some size) :
    columnStart widths j + size ≤ total widths + widths.length := by
  have counted := (List.getElem?_eq_some_iff.mp given).1
  have upTo := total_take_add_le given
  unfold columnStart
  omega

theorem take_drop_tableRow {row : TableRow} {widths : List Nat} {j size : Nat} {cell : Span}
    (found : row.cells[j]? = some cell) (given : widths[j]? = some size) :
    ((row.row (widths.map .length)).drop (total (widths.take j) + j)).take (size + 1) =
      columnPiece row.look (.length size, cell) := by
  have place : ((widths.map Constraint.length).zip row.cells)[j]? = some (.length size, cell) := by
    rw [List.getElem?_zip_eq_some, List.getElem?_map, given]
    exact ⟨rfl, found⟩
  have counted := Nat.le_of_lt (List.getElem?_eq_some_iff.mp place).1
  rw [← sum_columnSizes counted]
  exact take_drop_flatMap (length_columnPiece row.look) place

theorem take_drop_side {panel : Panel} {row : TableRow} {widths : List Nat} {width j size : Nat}
    {cell : Span} (bare : row.look = {}) (wide : total widths + widths.length + 1 ≤ width)
    (found : row.cells[j]? = some cell) (given : widths[j]? = some size)
    (plain : IsPlain cell.text) :
    ((panel.side (fit (width - 2) row.look (row.row (widths.map .length)))).drop
      (columnStart widths j)).take size = (inColumns size cell.text).map (⟨·, cell.look⟩) := by
  let start := total (widths.take j) + j
  have first : columnStart widths j = start + 1 := by
    show 1 + total (widths.take j) + j = total (widths.take j) + j + 1
    omega
  have inside : start + size ≤ width - 2 := by
    have := columnStart_add_le given
    omega
  have piece : ((row.row (widths.map .length)).drop start).take (size + 1) = _ :=
    take_drop_tableRow found given
  have long : start + size ≤ (row.row (widths.map .length)).length := by
    have length := congrArg List.length piece
    rw [length_columnPiece, List.length_take, List.length_drop] at length
    change min (size + 1) _ = size + 1 at length
    omega
  have cut := congrArg (List.take size) piece
  rw [List.take_take, Nat.min_eq_left (Nat.le_succ size), take_columnPiece] at cut
  -- the side and the end of the line are not in the column
  rw [first, Panel.side, List.cons_append, List.drop_succ_cons, take_drop_append,
    take_drop_fit inside long, cut, fit_spanRow plain, bare, cell.look.over_bare]
  rwa [length_fit]

instance : LawfulToolkit where
  paragraph_line {panel lines look line i width height} content found plain wide room := by
    have shown : (panel.content.rows (width - 2))[i]? =
        some (fit (width - 2) look (line.flatMap (·.row look))) := by
      simp only [content, Content.rows, List.getElem?_map, found, Option.map_some]
    refine ⟨_, getElem?_rows shown room, ?_⟩
    have glyphs := map_glyph_spans look plain
    have length := congrArg List.length glyphs
    simp only [List.length_map, String.length_toList] at length
    simp only [Panel.side, List.cons_append, List.map_cons, List.map_append, List.map_nil,
      map_glyph_fit, glyphs, length, inColumns]
  table_row {panel header row rows widths i width height} content found bare wide room := by
    -- the header takes the first line of the content
    have shown : (panel.content.rows (width - 2))[i + 1]? =
        some (fit (width - 2) row.look (row.row (widths.map .length))) := by
      simp only [content, Content.rows, List.getElem?_map, List.getElem?_cons_succ, found,
        Option.map_some]
    refine ⟨_, getElem?_rows shown (by omega), fun j size cell inRow given plain => ?_⟩
    exact take_drop_side bare wide inRow given plain

end Cardiac.Screen
