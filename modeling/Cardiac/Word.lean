import Cardiac.Text.Blank
import Cardiac.Text.Decimal
import Cardiac.Text.Quoted

/-!
# Words

A word is a signed decimal integer of three digits. Memory cells, instructions and cards all
hold words. On a card a word is written with exactly three digits and a minus sign if it is
negative; a card is read more freely, as any integer literal with blanks around it.
-/
namespace Cardiac

structure Word where
  value : Int
  lower : -999 ≤ value
  upper : value ≤ 999
  deriving DecidableEq, Repr

inductive WordError where
  | notInteger (text : String)
  | overflow (value : Int)
  deriving DecidableEq, Repr

def WordError.message : WordError → String
  | .notInteger text => "invalid data: " ++ Text.quoted text
  | .overflow value => "value overflow: " ++ toString value

namespace Word

def zero : Word := ⟨0, by decide, by decide⟩

/-- The word that cell 0 is born with, the instruction `INP 01`. -/
def bootstrap : Word := ⟨1, by decide, by decide⟩

def ofInt (value : Int) : Except WordError Word :=
  if fits : -999 ≤ value ∧ value ≤ 999 then .ok ⟨value, fits.1, fits.2⟩
  else .error (.overflow value)

/-- The word with an opcode as its hundreds and an operand as the rest. -/
def ofInstruction (opcode operand : Nat) : Except WordError Word :=
  ofInt (100 * opcode + operand)

def isNegative (word : Word) : Bool := word.value < 0

/-- Three digits, after a minus sign if the word is negative. -/
def text (word : Word) : String :=
  (if word.value < 0 then "-" else "") ++ Text.zeroPadded 3 word.value.natAbs

/-- A literal beyond 64 bits is still an integer: it overflows, at the end of its sign. -/
def parse (text : String) : Except WordError Word :=
  let bare := Text.trim text.toList
  match Text.integer64? bare with
  | some value => ofInt value
  | none =>
    if Text.isIntegerLiteral bare then
      .error (.overflow (if bare.head? = some '-' then Text.least64 else Text.greatest64))
    else .error (.notInteger text)

/-- The distinct words of a list, the least first. -/
def ascending (words : List Word) : List Word :=
  (words.mergeSort fun first second => first.value ≤ second.value).eraseReps

end Word
end Cardiac
