/-!
# Pieces

A text is cut into pieces at every occurrence of a separator. Pieces may be empty, and there is
one more of them than there are separators.
-/
namespace Cardiac.Text

def pieces (separator : Char) : List Char → List (List Char)
  | [] => [[]]
  | c :: rest =>
    if c = separator then [] :: pieces separator rest
    else (pieces separator rest).modifyHead (c :: ·)

def piecesOf (separator : Char) (text : String) : List String :=
  (pieces separator text.toList).map String.ofList

end Cardiac.Text
