import Cardiac.Instruction
import Cardiac.Text.Lines

/-!
# Statements

A source line holds at most one statement: a label, an operation and an operand, separated by
blanks. A semicolon starts a comment. If the first field is a mnemonic the line has no label,
and an empty one takes its place. Fields behind the operand are ignored.
-/
namespace Cardiac.Assembly

structure Statement where
  line : Nat
  /-- The whole line, trimmed, comment included. -/
  text : String
  fields : List String
  deriving DecidableEq, Repr

/-- The part of a line before its comment. -/
def uncommented (line : List Char) : List Char := line.takeWhile (· ≠ ';')

/-- Up to three fields, the label first. -/
def labelFirst : List String → List String
  | [] => []
  | first :: rest =>
    if (Opcode.ofMnemonic? first).isSome then ("" :: first :: rest).take 3
    else (first :: rest).take 3

/-- The fields of a source line; a line without code has none. -/
def fieldsOfLine (line : List Char) : List String :=
  labelFirst ((Text.fields (uncommented line)).map String.ofList)

def statements (source : String) : List Statement :=
  (Text.numberedLines source).filterMap fun (number, line) =>
    match fieldsOfLine line with
    | [] => none
    | fields => some ⟨number, String.ofList (Text.trim line), fields⟩

end Cardiac.Assembly
