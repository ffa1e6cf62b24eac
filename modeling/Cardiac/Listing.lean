import Cardiac.Instruction
import Cardiac.Memory

/-!
# Listings

A listing shows the words of a range of memory as source lines: the address, the instruction or
the data, and the word itself as a comment. Empty cells are left out.
-/
namespace Cardiac

def Word.disassembled (word : Word) : String :=
  match Instruction.decode word.value with
  | .ok instruction => instruction.text
  | .error _ => "DATA " ++ word.text

namespace Listing

def heading : String := "; CARDIAC Disassembly\n; -------------------\n\n"

def line (address : Nat) (word : Word) : String :=
  Memory.addressText address ++ ": " ++ Text.padRight 8 word.disassembled ++ "  ; " ++ word.text ++
    "\n"

end Listing

namespace Memory

/-- The words of the cells `start` to `stop`, the latter excluded, with their addresses. -/
def words (memory : Memory) (start stop : Nat) : List (Nat × Word) :=
  (memory.dump start (stop - start)).filterMap fun (address, cell) => cell.map (address, ·)

/-- The listing of the cells `start` to `stop`, the latter excluded. -/
def listing (memory : Memory) (start stop : Nat) : String :=
  (memory.words start stop).foldl (fun text (address, word) => text ++ Listing.line address word)
    Listing.heading

end Memory
end Cardiac
