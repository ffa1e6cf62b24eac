import Cardiac.Json.Basic
import Cardiac.Memory

/-!
# Reading stored values

A stored value is read from JSON by a decoder. A record says which fields it has, how each of them
is checked, and how its value is built. How it is read is up to a reader, of which one is given. It
reads an object: the fields are checked in the order in which they are written, so the first bad one
decides the refusal, and members that are no fields are passed over. An array of all the field values
in order, optional ones included, stands for the record too.
-/
namespace Cardiac.Stored

/-- What stops the program on the spot. -/
inductive Panic where
  /-- A sum is too great for its 64 bits. -/
  | addOverflow
  | outOfBounds (length index : Nat)
  deriving DecidableEq, Repr

def Panic.message : Panic → String
  | .addOverflow => "attempt to add with overflow"
  | .outOfBounds length index =>
    "index out of bounds: the len is " ++ toString length ++ " but the index is " ++ toString index

/-- Why no value comes of a stored one. -/
inductive Refusal where
  /-- A value of the wrong kind, a number out of range, a field missing or written twice, or an
  unknown name. -/
  | malformed
  | word (error : WordError)
  | memory (error : MemoryError)
  /-- The program does not get as far as to refuse the value. -/
  | stopped (panic : Panic)
  deriving DecidableEq, Repr

/-- Only values that break a rule of the machine are refused with words. -/
def Refusal.message? : Refusal → Option String
  | .malformed => none
  | .word error => some error.message
  | .memory error => some error.message
  | .stopped panic => some panic.message

abbrev Decoder (α : Type) := Json → Except Refusal α

def bool : Decoder Bool
  | .bool value => .ok value
  | _ => .error .malformed

def text : Decoder String
  | .text value => .ok value
  | _ => .error .malformed

def integer (least greatest : Int) : Decoder Int
  | .integer value => if least ≤ value ∧ value ≤ greatest then .ok value else .error .malformed
  | _ => .error .malformed

def natural (bits : Nat) : Decoder Nat := fun json =>
  (integer 0 (Int.pow 2 bits - 1) json).map Int.toNat

def optional {α : Type} (decoder : Decoder α) : Decoder (Option α)
  | .null => .ok none
  | json => (decoder json).map some

def list {α : Type} (decoder : Decoder α) : Decoder (List α)
  | .array items => items.mapM decoder
  | _ => .error .malformed

/-- One of several names, as a text or as an object whose only member has that name and is
null. -/
def oneOf {α : Type} (ofName? : String → Option α) : Decoder α
  | .text name | .object [(name, .null)] =>
    match ofName? name with
    | some value => .ok value
    | none => .error .malformed
  | _ => .error .malformed

/-- A field that a record checks as it comes by. -/
structure Field where
  name : String
  check : Json → Except Refusal Unit

/-- The fields of a record, and how its value is built from the members found. -/
structure Record (α : Type) where
  fields : List Field
  build : List (String × Json) → Except Refusal α

namespace Record

def required {α : Type} (name : String) (decoder : Decoder α) : Record α where
  fields := [⟨name, fun json => (decoder json).map fun _ => ()⟩]
  build members :=
    match members.lookup name with
    | some json => decoder json
    | none => .error .malformed

/-- A field that may be missing, which says the same as null. -/
def defaulted {α : Type} (name : String) (decoder : Decoder α) : Record (Option α) where
  fields := [⟨name, fun json => (optional decoder json).map fun _ => ()⟩]
  build members :=
    match members.lookup name with
    | some json => optional decoder json
    | none => .ok none

instance : Applicative Record where
  pure value := ⟨[], fun _ => .ok value⟩
  seq function argument :=
    let argument := argument ()
    { fields := function.fields ++ argument.fields
      build := fun members => do
        let f ← function.build members
        let x ← argument.build members
        return f x }

/-- Checks members in the order written, behind fields already seen. No field may come twice. -/
def checkMembers (fields : List Field) (seen : List String) :
    List (String × Json) → Except Refusal Unit
  | [] => .ok ()
  | (name, value) :: rest =>
    match fields.find? fun field => field.name = name with
    | none => checkMembers fields seen rest
    | some field =>
      if seen.contains name then .error .malformed
      else
        match field.check value with
        | .error refusal => .error refusal
        | .ok () => checkMembers fields (name :: seen) rest

def decode {α : Type} (record : Record α) : Decoder α
  | .object members => do
    checkMembers record.fields [] members
    record.build members
  | .array items => do
    let members := (record.fields.map (·.name)).zip items
    checkMembers record.fields [] members
    if items.length = record.fields.length then record.build members else .error .malformed
  | _ => .error .malformed

end Record

/-- The reader of all records. -/
class RecordReader where
  read {α : Type} : Record α → Decoder α

instance : RecordReader := ⟨Record.decode⟩

end Cardiac.Stored
