import Cardiac.Screen.Board
import Cardiac.Screen.Toolkit

/-!
# The whole screen

On the left are the program listing, the registers and the status, on the right the memory
board, the cards and the keys. The left side takes 45 percent of the width.
-/
namespace Cardiac.Screen

open Debugger

def listingItem (debugger : Debugger) (row : ListingRow) : Span :=
  let stops := debugger.breakpoints.any fun address => address.toNat = row.address
  let marker := if row.atCounter then "▶" else if stops then "●" else " "
  { text := marker ++ " " ++ Memory.addressText row.address ++ "  " ++ row.text
    look :=
      if row.atCounter then { foreground := .yellow, bold := true }
      else if stops then { foreground := .red }
      else if row.text = "---" then { foreground := .darkGray }
      else {} }

def listingPanel (debugger : Debugger) (height : Nat) : Panel :=
  framed "Listing" .cyan
    (.list ((debugger.window (height - 2)).map (listingItem debugger)))

def registerLines (debugger : Debugger) : List (List Span) :=
  let registers := debugger.machine.registers
  let acc := registers.acc.toInt
  let ir := registers.ir.toInt
  let decoded := match Instruction.decode ir with
    | .ok instruction => instruction.text
    | .error _ => "?"
  [[⟨"ACC ", {}⟩,
    ⟨Text.padLeft 6 ' ' (toString acc), { foreground := if acc < 0 then .red else .white }⟩,
    ⟨"  PC ", {}⟩, ⟨addressText registers.pc, { foreground := .yellow }⟩,
    ⟨"  IR ", {}⟩, ⟨Text.signedZeroPadded 3 ir ++ " (" ++ decoded ++ ")", {}⟩],
   [⟨"cycle ", {}⟩, ⟨toString debugger.machine.cycles.toNat, { foreground := .cyan }⟩,
    ⟨if debugger.running then "  running" else "  stopped", {}⟩]]

def registerPanel (debugger : Debugger) : Panel :=
  framed "CPU" .green (.paragraph (registerLines debugger) {})

def statusPanel (debugger : Debugger) : Panel :=
  framed "Status" .white (.paragraph [[⟨debugger.status.message, {}⟩]] {})

/-- The last punched cards for which a panel of some width has room. A card takes at most four
columns, and a blank follows it. -/
def shownCards (deck : Deck) (width : Nat) : List Card :=
  deck.output.toList.drop (deck.output.size - (width - 10) / 5)

def cardLines (deck : Deck) (width : Nat) : List (List Span) :=
  let gray : Look := { foreground := .darkGray }
  [[⟨"in   ", {}⟩, ⟨deck.next?.getD "(empty)", { foreground := .cyan }⟩,
    ⟨"  " ++ toString deck.remaining ++ " queued", gray⟩],
   [⟨"out  ", {}⟩, ⟨" ".intercalate (shownCards deck width), { foreground := .green }⟩],
   [⟨"     " ++ toString deck.output.size ++ " punched", gray⟩]]

def cardPanel (debugger : Debugger) (width : Nat) : Panel :=
  framed "Cards" .blue (.paragraph (cardLines debugger.machine.port width) {})

def keyPanel : Panel :=
  framed "Keys" .darkGray <| .paragraph
    [[⟨"s step  r run  p pause  b break  x reset  ↑↓ scroll  q quit", {}⟩]]
    { foreground := .darkGray }

/-- Panels one below the other, each made for the width and the height it gets. -/
def stack [Toolkit] {n : Nat} (panels : Vector (Constraint × (Nat → Nat → Panel)) n)
    (width height : Nat) : List Row :=
  let heights := Toolkit.split (panels.map (·.1)) height
  (panels.zip heights).toList.flatMap fun ((_, panel), height) =>
    Toolkit.render (panel width height) width height

def draw [Toolkit] (debugger : Debugger) (width height : Nat) : List Row :=
  let sides := Toolkit.split #v[.percentage 45, .percentage 55] width
  let left := stack #v[
    (.min 8, fun _ height => listingPanel debugger height),
    (.length 5, fun _ _ => registerPanel debugger),
    (.length 3, fun _ _ => statusPanel debugger)] sides[0] height
  let right := stack #v[
    (.min 14, fun _ height => boardPanel debugger height),
    (.length 5, fun width _ => cardPanel debugger width),
    (.length 3, fun _ _ => keyPanel)] sides[1] height
  List.zipWith (· ++ ·) left right

end Cardiac.Screen
