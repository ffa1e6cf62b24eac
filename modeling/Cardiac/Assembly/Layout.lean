import Cardiac.Assembly.Statement
import Cardiac.CardImage

/-!
# Layout

The layout of a program gives every statement the next address, beginning behind the three cells
of the loader, and notes where its label is. Operands stay text: they may name labels that come
later. A statement that is refused leaves a layout too: the one before it, but for the first
instruction, which is noted down before its label is looked at.
-/
namespace Cardiac.Assembly

/-- The first cell behind the loader. -/
def firstAddress : Nat := 3

def lastAddress : Nat := 99

inductive Operation where
  | code (opcode : Opcode)
  | data
  deriving DecidableEq, Repr

def Operation.ofName? (name : String) : Option Operation :=
  if name = "DATA" then some .data else (Opcode.ofMnemonic? name).map .code

/-- Why a source is refused; lines are counted from 1, blank ones included. -/
inductive AssemblyError where
  | tooFewFields (line : Nat) (text : String)
  | unknownOperation (line : Nat) (name : String)
  | programTooLarge (line : Nat)
  | duplicateLabel (line : Nat) (label : String)
  | noEntryPoint
  | invalidLiteral (line : Nat) (literal : String) (error : WordError)
  | undefinedLabel (line : Nat) (name : String)
  | operandOutOfRange (line : Nat) (value : Int)
  /-- A jump of the loader is no word. -/
  | word (error : WordError)
  /-- The image takes no pair for a statement's address. -/
  | address (error : AddressError)
  deriving DecidableEq, Repr

def AssemblyError.message : AssemblyError → String
  | .tooFewFields line text =>
    "invalid instruction on line " ++ toString line ++ ": too few elements in " ++ Text.quoted text
  | .unknownOperation line name =>
    "invalid instruction on line " ++ toString line ++ ": opcode " ++ Text.quoted name ++ " not valid"
  | .programTooLarge line =>
    "program does not fit in memory (line " ++ toString line ++ " is past address 99)"
  | .duplicateLabel line label =>
    "variable " ++ label ++ " on line " ++ toString line ++ " is already defined"
  | .noEntryPoint => "program has no instructions"
  | .invalidLiteral line literal error =>
    "invalid DATA literal " ++ Text.quoted literal ++ " on line " ++ toString line ++ ": " ++
      error.message
  | .undefinedLabel line name =>
    "variable " ++ name ++ " on line " ++ toString line ++ " is undefined"
  | .operandOutOfRange line value =>
    "operand " ++ toString value ++ " on line " ++ toString line ++ " out of range (0-99)"
  | .word error => error.message
  | .address error => error.message

structure Placement where
  address : Nat
  operation : Operation
  operand : String
  line : Nat
  deriving DecidableEq, Repr

structure Layout where
  next : Nat := firstAddress
  /-- Labels with their addresses, in order of definition. -/
  symbols : List (String × Nat) := []
  placements : List Placement := []
  /-- The first address that holds an instruction. -/
  start : Option Nat := none
  deriving DecidableEq, Repr

namespace Layout

/-- Notes the next address down as the program's start, if its first instruction comes there. -/
def noteStart (layout : Layout) (operation : Operation) : Layout :=
  if layout.start = none ∧ operation ≠ .data then { layout with start := some layout.next }
  else layout

/-- Defines a label, unless it is empty. -/
def define (layout : Layout) (line : Nat) (label : String) :
    Except AssemblyError Unit × Layout :=
  if label = "" then (.ok (), layout)
  else if (layout.symbols.lookup label).isSome then (.error (.duplicateLabel line label), layout)
  else (.ok (), { layout with symbols := layout.symbols ++ [(label, layout.next)] })

/-- Places a statement at the next address. -/
def place (layout : Layout) (line : Nat) (label : String) (operation : Operation)
    (operand : String) : Except AssemblyError Unit × Layout :=
  if lastAddress < layout.next then (.error (.programTooLarge line), layout)
  else
    match (layout.noteStart operation).define line label with
    | (.error error, left) => (.error error, left)
    | (.ok (), defined) =>
      let placement := ⟨layout.next, operation, operand, line⟩
      (.ok (), { defined with
        next := layout.next + 1, placements := layout.placements ++ [placement] })

def add (layout : Layout) (statement : Statement) : Except AssemblyError Unit × Layout :=
  match statement.fields with
  | [label, name, operand] =>
    match Operation.ofName? name with
    | some operation => layout.place statement.line label operation operand
    | none => (.error (.unknownOperation statement.line name), layout)
  | _ => (.error (.tooFewFields statement.line statement.text), layout)

/-- Adds statements up to the first one that is refused. -/
def addAll (layout : Layout) : List Statement → Except AssemblyError Unit × Layout
  | [] => (.ok (), layout)
  | statement :: rest =>
    match layout.add statement with
    | (.ok (), next) => next.addAll rest
    | (.error error, left) => (.error error, left)

def ofStatements (statements : List Statement) : Except AssemblyError Unit × Layout :=
  addAll {} statements

end Layout
end Cardiac.Assembly
