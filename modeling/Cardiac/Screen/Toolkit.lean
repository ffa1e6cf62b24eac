import Cardiac.Screen.Glyph
import Cardiac.Screen.Panel

/-!
# Drawing toolkits

A toolkit splits lengths among areas and draws panels as rows of cells, each with a glyph and a
look. The panels do not depend on it. The toolkit given here draws frames of single lines and puts a
blank column between the columns of a table.
-/
namespace Cardiac.Screen

structure Cell where
  glyph : Glyph
  look : Look
  deriving DecidableEq, Repr

abbrev Row := List Cell

class Toolkit where
  /-- The lengths of neighbouring areas that share a length. -/
  split {n : Nat} : Vector Constraint n → Nat → Vector Nat n
  /-- A panel in an area of some width and height. -/
  render : Panel → Nat → Nat → List Row

/-! ## Lengths -/

namespace Constraint

/-- The length that is asked for, whatever there is. -/
def fixed : Constraint → Nat
  | length size => size
  | _ => 0

def share : Constraint → Nat
  | percentage share => share
  | _ => 0

end Constraint

def total (lengths : List Nat) : Nat := lengths.foldr (· + ·) 0

/-- So many percent of a length, to the nearest integer. -/
def portion (length share : Nat) : Nat := (share * length + 50) / 100

/-- Lengths as they are asked for, and all that remains for one with a minimum. -/
def split {n : Nat} (constraints : Vector Constraint n) (length : Nat) : Vector Nat n :=
  constraints.mapIdx fun i constraint =>
    match constraint with
    | .length size => size
    | .percentage share =>
      let before := total ((constraints.toList.take i).map Constraint.share)
      portion length (before + share) - portion length before
    | .min _ => length - total (constraints.toList.map Constraint.fixed)

/-! ## Rows -/

def Look.over (look ground : Look) : Look where
  foreground := if look.foreground = .plain then ground.foreground else look.foreground
  background := if look.background = .plain then ground.background else look.background
  bold := look.bold || ground.bold

def Span.row (ground : Look) (span : Span) : Row :=
  (glyphs span.text.toList).map (⟨·, span.look.over ground⟩)

/-- A row cut or filled up with blanks to a width. -/
def fit (width : Nat) (look : Look) (row : Row) : Row :=
  row.take width ++ List.replicate (width - row.length) ⟨" ", look⟩

/-- The cells of a table's row, each in its column with a blank one behind it. -/
def TableRow.row (widths : List Constraint) (row : TableRow) : Row :=
  (widths.zip row.cells).flatMap fun (width, cell) =>
    fit width.fixed (cell.look.over row.look) (cell.row row.look) ++ [⟨" ", row.look⟩]

namespace Content

/-- How an area looks where it has no text. -/
def ground : Content → Look
  | paragraph _ look => look
  | _ => {}

def rows (width : Nat) : Content → List Row
  | paragraph lines look => lines.map fun line => fit width look (line.flatMap (·.row look))
  | list items => items.map fun item => fit width item.look (item.row {})
  | table header rows widths =>
    (header :: rows).map fun row => fit width row.look (row.row widths)

end Content

namespace Panel

/-- An edge of the frame between two corners, with a text at its left end. -/
def edge (panel : Panel) (width : Nat) (left right : Glyph) (text : String) : Row :=
  let look := { foreground := panel.color }
  let title := (Span.row look ⟨text, {}⟩).take width
  let line := List.replicate (width - title.length) ⟨"─", look⟩
  ⟨left, look⟩ :: title ++ line ++ [⟨right, look⟩]

/-- A row of content between the frame's sides. -/
def side (panel : Panel) (row : Row) : Row :=
  let bar := ⟨"│", { foreground := panel.color }⟩
  bar :: row ++ [bar]

def rows (panel : Panel) (width height : Nat) : List Row :=
  let inner := width - 2
  let shown := (panel.content.rows inner).take (height - 2)
  let blank := fit inner panel.content.ground []
  let content := shown ++ List.replicate (height - 2 - shown.length) blank
  panel.edge inner "┌" "┐" panel.title :: content.map panel.side ++ [panel.edge inner "└" "┘" ""]

end Panel

instance : Toolkit := ⟨split, Panel.rows⟩

end Cardiac.Screen
