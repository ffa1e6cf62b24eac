import Cardiac.Word

/-!
# Memory

A memory of a given size has one cell more than the size: addresses run from 0 to the size
itself. A cell is empty until a word is written to it, and no cell is ever emptied again. Every
access checks its address first and its data second, and an access that fails changes nothing.
-/
namespace Cardiac

structure Memory where
  size : Nat
  cells : Vector (Option Word) (size + 1)
  /-- The number of cells is one of 64 bits. -/
  countable : size + 1 < UInt64.size
  deriving DecidableEq

inductive MemoryError where
  | invalidAddress (text : String)
  | outOfRange (address : Int) (size : Nat)
  | data (error : WordError)
  | emptyCell (address : Nat)
  /-- A saved memory whose number of cells does not go with its size, or without its first word. -/
  | layout (size cells : Nat)
  | unsupportedSize (size : Nat)
  deriving DecidableEq, Repr

namespace Memory

/-- Addresses are written with at least two digits. -/
def addressText (address : Nat) : String := Text.zeroPadded 2 address

def defaultSize : Nat := 100
def greatestSize : Nat := 10000

end Memory

def MemoryError.message : MemoryError → String
  | .invalidAddress text => "invalid address: " ++ Text.quoted text
  | .outOfRange address size =>
    "memory address " ++ toString address ++ " out of range (0-" ++ toString size ++ ")"
  | .data error => error.message
  | .emptyCell address => "memory cell " ++ toString address ++ " is empty"
  | .layout size cells =>
    "memory image has " ++ toString cells ++ " cells for size " ++ toString size
  | .unsupportedSize size =>
    "memory size " ++ toString size ++ " not supported (1-" ++ toString Memory.greatestSize ++ ")"

namespace Memory

/-- A memory of the nearest supported size, empty but for the bootstrap word in cell 0. -/
def ofSize (size : Nat) : Memory where
  size := max 1 (min size greatestSize)
  cells := (Vector.replicate (max 1 (min size greatestSize) + 1) none).set 0 (some Word.bootstrap)
  countable := by
    simp only [greatestSize, UInt64.size]
    omega

def standard : Memory := ofSize defaultSize

def checkSize (size : Nat) : Except MemoryError Nat :=
  if 1 ≤ size ∧ size ≤ greatestSize then .ok size else .error (.unsupportedSize size)

/-- Reads an address as text. Its range is checked on access. -/
def parseAddress (text : String) : Except MemoryError Int :=
  match Text.integer64? (Text.trim text.toList) with
  | some address => .ok address
  | none => .error (.invalidAddress text)

def index (memory : Memory) (address : Int) : Except MemoryError (Fin (memory.size + 1)) :=
  if inside : 0 ≤ address ∧ address ≤ memory.size then
    .ok ⟨address.toNat, by omega⟩
  else .error (.outOfRange address memory.size)

def get (memory : Memory) (address : Int) : Except MemoryError (Option Word) :=
  match memory.index address with
  | .ok cell => .ok memory.cells[cell]
  | .error error => .error error

/-- The value of a cell, which must not be empty. -/
def getInt (memory : Memory) (address : Int) : Except MemoryError Int :=
  match memory.index address with
  | .ok cell =>
    match memory.cells[cell] with
    | some word => .ok word.value
    | none => .error (.emptyCell cell)
  | .error error => .error error

/-- The text of a cell; an empty cell is an empty card. -/
def getText (memory : Memory) (address : Int) : Except MemoryError String :=
  match memory.get address with
  | .ok (some word) => .ok word.text
  | .ok none => .ok ""
  | .error error => .error error

/-- Writes what a reading gives, if the address and then the reading are good, and returns the
memory that there is then. -/
def setReading (memory : Memory) (address : Int) (reading : Except WordError Word) :
    Except MemoryError Unit × Memory :=
  match memory.index address with
  | .ok cell =>
    match reading with
    | .ok word => (.ok (), { memory with cells := memory.cells.set cell (some word) })
    | .error error => (.error (.data error), memory)
  | .error error => (.error error, memory)

def set (memory : Memory) (address : Int) (word : Word) : Except MemoryError Unit × Memory :=
  memory.setReading address (.ok word)

def setInt (memory : Memory) (address : Int) (value : Int) : Except MemoryError Unit × Memory :=
  memory.setReading address (Word.ofInt value)

def setText (memory : Memory) (address : Int) (card : String) :
    Except MemoryError Unit × Memory :=
  memory.setReading address (Word.parse card)

/-- The sum of two numbers of 64 bits, or the greatest of these. -/
def saturatingAdd (first second : Nat) : Nat := min (first + second) (UInt64.size - 1)

/-- The cells from an address on, at most `count` of them, each with its address. -/
def dump (memory : Memory) (start count : Nat) : List (Nat × Option Word) :=
  let stop := min (saturatingAdd start count) (memory.size + 1)
  ((memory.cells.toList.zipIdx.take stop).drop start).map fun (cell, address) => (address, cell)

def used (memory : Memory) : Nat := memory.cells.toArray.countP Option.isSome

def summary (memory : Memory) : String :=
  "Memory \x7b used_cells: " ++ toString memory.used ++ ", size: " ++ toString memory.size ++ " \x7d"

end Memory
end Cardiac
