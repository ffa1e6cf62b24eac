import Cardiac.Debugger
import Cardiac.Screen.Panel

/-!
# The memory board

Memory is shown as a table with ten cells to a row. The rows shown begin with the debugger's
scroll position.
-/
namespace Cardiac.Screen

/-- The pieces of some length that a list is cut into. The last one may be shorter. -/
def chunks {α : Type} (length : Nat) : List α → List (List α)
  | [] => []
  | x :: xs => (x :: xs.take (length - 1)) :: chunks length (xs.drop (length - 1))
termination_by xs => xs.length

def boardColumns : Nat := 10

/-- A cell of memory in four columns. -/
def boardCell (pc address : Nat) (cell : Option Word) : Span where
  text := Text.padLeft 4 ' ' (cell.elim " ---" Word.text)
  look :=
    if address = pc then { foreground := .black, background := .yellow }
    else if cell.isNone then { foreground := .darkGray }
    else {}

def boardRow (pc row : Nat) (cells : List (Option Word)) : TableRow where
  cells :=
    let base := row * boardColumns
    ⟨Memory.addressText base, { foreground := .darkGray }⟩ ::
      cells.mapIdx fun column cell => boardCell pc (base + column) cell

/-- The rows from the one scrolled to, as many as there is room for. -/
def boardRows (debugger : Debugger) (visible : Nat) : List TableRow :=
  -- rows keep the numbers they have in the whole memory
  let rows := (chunks boardColumns debugger.machine.memory.cells.toList).zipIdx
  ((rows.drop debugger.scroll).take visible).map fun (cells, row) =>
    boardRow debugger.pc.toNat row cells

def boardHeader : TableRow where
  cells := ⟨"", {}⟩ :: (List.range boardColumns).map fun column => ⟨" +" ++ toString column, {}⟩
  look := { foreground := .darkGray }

/-- Three columns for the label and four for every cell. -/
def boardWidths : List Constraint := .length 3 :: List.replicate boardColumns (.length 4)

def boardPanel (debugger : Debugger) (height : Nat) : Panel :=
  framed "Memory" .magenta (.table boardHeader (boardRows debugger (height - 3)) boardWidths)

end Cardiac.Screen
