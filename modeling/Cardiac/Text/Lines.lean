/-!
# Lines

A line ends at a line feed, and one carriage return before the line feed belongs to the line
end. A carriage return on its own ends nothing, and a final line end starts no further line.
-/
namespace Cardiac.Text

def lines : List Char → List (List Char)
  | [] => []
  | c :: rest =>
    if c = '\n' then [] :: lines rest
    else if c = '\r' ∧ rest.head? = some '\n' then lines rest
    else match lines rest with
      | [] => [[c]]
      | line :: more => (c :: line) :: more

/-- The lines of a text, each with its number; the first line is number 1. -/
def numberedLines (text : String) : List (Nat × List Char) :=
  (lines text.toList).mapIdx fun index line => (index + 1, line)

end Cardiac.Text
