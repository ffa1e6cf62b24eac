import Cardiac.Assembly.Layout

/-!
# Assembled programs

With the layout known, every operand is resolved: a defined label first, else a literal. The
image of the program puts a jump to the loader into cell 2, then loads every statement's word,
and at last makes cell 2 jump to the first instruction.
-/
namespace Cardiac

open Assembly

structure AssembledProgram where
  /-- Labels with their addresses, ordered by label. -/
  symbols : List (String × Nat)
  start : Nat
  image : CardImage
  deriving DecidableEq, Repr

namespace Assembly

/-- The value of an instruction's operand: a label's address or a literal. -/
def resolve (symbols : List (String × Nat)) (line : Nat) (operand : String) :
    Except AssemblyError Int :=
  match symbols.lookup operand with
  | some address => .ok address
  | none =>
    match Text.integer64? operand.toList with
    | some value => .ok value
    | none => .error (.undefinedLabel line operand)

def Placement.word (symbols : List (String × Nat)) (placement : Placement) :
    Except AssemblyError Word :=
  match placement.operation with
  | .data =>
    match Word.parse placement.operand with
    | .ok word => .ok word
    | .error error => .error (.invalidLiteral placement.line placement.operand error)
  | .code opcode =>
    match resolve symbols placement.line placement.operand with
    | .error error => .error error
    | .ok value =>
      match (Instruction.byte? value).bind (Instruction.make? opcode) with
      | some instruction => .ok instruction.encode
      | none => .error (.operandOutOfRange placement.line value)

def addPair (image : CardImage) (address : Nat) (word : Word) : Except AssemblyError CardImage :=
  (image.push address word).mapError .address

/-- Adds the pair that makes cell 2 jump to an address. -/
def addJump (image : CardImage) (target : Nat) : Except AssemblyError CardImage :=
  match Word.ofInstruction Opcode.jump.digit target with
  | .ok word => addPair image CardImage.startCell word
  | .error error => .error (.word error)

def addPlacement (symbols : List (String × Nat)) (image : CardImage) (placement : Placement) :
    Except AssemblyError CardImage := do
  addPair image placement.address (← placement.word symbols)

def Layout.image (layout : Layout) (start : Nat) : Except AssemblyError CardImage := do
  let image ← addJump .empty 0
  let image ← layout.placements.foldlM (addPlacement layout.symbols) image
  addJump image start

/-- The second pass, over the layout that the first one comes to. -/
def Layout.program (layout : Layout) : Except AssemblyError AssembledProgram :=
  match layout.start with
  | none => .error .noEntryPoint
  | some start => do
    let symbols := layout.symbols.mergeSort fun first second => first.1 ≤ second.1
    return ⟨symbols, start, ← layout.image start⟩

def ofStatements (statements : List Statement) : Except AssemblyError AssembledProgram :=
  match Layout.ofStatements statements with
  | (.ok (), layout) => layout.program
  | (.error error, _) => .error error

end Assembly

def assemble (source : String) : Except AssemblyError AssembledProgram :=
  Assembly.ofStatements (Assembly.statements source)

end Cardiac
