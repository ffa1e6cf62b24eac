/-!
# Blank characters

Cards are trimmed and source lines are cut into fields at blank characters. Blank means the
Unicode property White_Space, so a no-break space separates fields and a zero-width space does
not. The functions work on lists of characters; `trimmed` is their form on strings.
-/
namespace Cardiac.Text

/-- The characters with the Unicode property White_Space, in code point order. -/
def blanks : List Char :=
  ['\t', '\n', '\x0b', '\x0c', '\r', ' ', '\u0085', '\u00a0', '\u1680',
   '\u2000', '\u2001', '\u2002', '\u2003', '\u2004', '\u2005', '\u2006', '\u2007', '\u2008',
   '\u2009', '\u200a', '\u2028', '\u2029', '\u202f', '\u205f', '\u3000']

def isBlank (c : Char) : Bool := blanks.contains c

/-- The text without the blanks at its two ends. -/
def trim (text : List Char) : List Char :=
  ((text.dropWhile isBlank).reverse.dropWhile isBlank).reverse

def trimmed (text : String) : String := String.ofList (trim text.toList)

/-- The maximal blank-free runs of a text, in order. -/
def fields : List Char → List (List Char)
  | [] => []
  | c :: rest =>
    if isBlank c then fields rest
    else if rest.head?.all isBlank then [c] :: fields rest
    else (fields rest).modifyHead (c :: ·)

end Cardiac.Text
