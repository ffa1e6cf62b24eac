/-!
# Decimal numbers as text

An integer literal is an optional single sign and one or more ASCII digits, of any length and
with any number of leading zeros. Machine integers are 64 bits wide and are read digit by digit,
with every step checked, so a literal of a value outside them is no machine integer.
-/
namespace Cardiac.Text

def digitValue (c : Char) : Nat := c.toNat - '0'.toNat

def digit? (c : Char) : Option Nat := if c.isDigit then some (digitValue c) else none

/-- The value of a run of ASCII digits; there must be at least one. -/
def natural? (digits : List Char) : Option Nat :=
  if digits ≠ [] ∧ digits.all Char.isDigit then
    some (digits.foldl (fun value c => 10 * value + digitValue c) 0)
  else none

def integer? : List Char → Option Int
  | '+' :: digits => (natural? digits).map Int.ofNat
  | '-' :: digits => (natural? digits).map fun value => -Int.ofNat value
  | digits => (natural? digits).map Int.ofNat

def least64 : Int := -9223372036854775808
def greatest64 : Int := 9223372036854775807

def fits64 (value : Int) : Bool := least64 ≤ value && value ≤ greatest64

/-- The result of a checked operation on signed 64-bit integers. -/
def checked64 (value : Int) : Option Int := if fits64 value then some value else none

/-- Puts one more digit behind a number, which moves it away from zero on the side of its sign. -/
def digit64? (negative : Bool) (value : Int) (c : Char) : Option Int := do
  let shifted ← checked64 (10 * value)
  let digit ← digit? c
  checked64 (if negative then shifted - digit else shifted + digit)

/-- The signed 64-bit integer of a text: at most one sign, and at least one digit. -/
def integer64? : List Char → Option Int
  | [] | ['+'] | ['-'] => none
  | '+' :: digits => digits.foldlM (digit64? false) 0
  | '-' :: digits => digits.foldlM (digit64? true) 0
  | digits => digits.foldlM (digit64? false) 0

/-- The text behind its sign, if it has one. -/
def unsigned : List Char → List Char
  | '-' :: digits => digits
  | '+' :: digits => digits
  | digits => digits

def isIntegerLiteral (text : List Char) : Bool :=
  unsigned text ≠ [] && (unsigned text).all Char.isDigit

/-- The value of a literal for an unsigned 64-bit integer, which takes no minus sign. -/
def natural64? : List Char → Option Nat
  | '+' :: digits => (natural? digits).filter (· < UInt64.size)
  | digits => (natural? digits).filter (· < UInt64.size)

/-- The text with characters put in front until it has the width. -/
def padLeft (width : Nat) (fill : Char) (text : String) : String :=
  String.ofList (List.replicate (width - text.length) fill) ++ text

/-- The text with blanks put behind until it has the width. -/
def padRight (width : Nat) (text : String) : String :=
  text ++ String.ofList (List.replicate (width - text.length) ' ')

/-- A number with leading zeros up to a least number of digits. -/
def zeroPadded (width : Nat) (value : Nat) : String := padLeft width '0' (toString value)

/-- An integer with leading zeros up to a least width, in which a minus sign counts. -/
def signedZeroPadded (width : Nat) (value : Int) : String :=
  if value < 0 then "-" ++ zeroPadded (width - 1) value.natAbs else zeroPadded width value.natAbs

end Cardiac.Text
