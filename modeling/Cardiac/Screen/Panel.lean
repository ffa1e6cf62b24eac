/-!
# Panels

What the debugger shows is given to a drawing library as panels: framed areas with a title, which
hold lines of text, a list or a table. Texts come with looks, and lengths with constraints; where
anything lands on the screen is up to the library.
-/
namespace Cardiac.Screen

inductive Color where
  /-- The terminal's own colour. -/
  | plain
  | black
  | red
  | green
  | yellow
  | blue
  | magenta
  | cyan
  | white
  | darkGray
  deriving DecidableEq, Repr

structure Look where
  foreground : Color := .plain
  background : Color := .plain
  bold : Bool := false
  deriving DecidableEq, Repr

/-- A text with a look. What its look leaves plain is as in the area around it. -/
structure Span where
  text : String
  look : Look := {}
  deriving DecidableEq, Repr

structure TableRow where
  cells : List Span
  look : Look := {}
  deriving DecidableEq, Repr

/-- What is asked of a length. -/
inductive Constraint where
  | percentage (share : Nat)
  | length (size : Nat)
  | min (size : Nat)
  deriving DecidableEq, Repr

inductive Content where
  | paragraph (lines : List (List Span)) (look : Look)
  | list (items : List Span)
  | table (header : TableRow) (rows : List TableRow) (widths : List Constraint)
  deriving DecidableEq, Repr

structure Panel where
  title : String
  color : Color
  content : Content
  deriving DecidableEq, Repr

/-- A panel with a blank on either side of its title. -/
def framed (title : String) (color : Color) (content : Content) : Panel :=
  ⟨" " ++ title ++ " ", color, content⟩

end Cardiac.Screen
