/-!
# JSON values

An object keeps its members in the order written. Integers are kept exactly; a number with a
fraction or an exponent, and the literal `-0`, is no integer and is kept as it was written.
Escapes can spell half of a surrogate pair alone, which is no character; a value that has such a
text is kept as it was written too, so that it can be passed over but stands for nothing.
-/
namespace Cardiac

inductive Json where
  | null
  | bool (value : Bool)
  | integer (value : Int)
  | real (literal : String)
  | text (value : String)
  | array (items : List Json)
  | object (members : List (String × Json))
  /-- A text, or an object with a member name, in which half of a surrogate pair stands alone. -/
  | unreadable (source : String)
  deriving Repr

namespace Json

def ofNat (value : Nat) : Json := .integer value

/-- An absent value is null. -/
def ofOption {α : Type} (encode : α → Json) : Option α → Json
  | some value => encode value
  | none => .null

/-- The first member of that name. -/
def member? (name : String) : Json → Option Json
  | .object members => (members.find? fun member => member.1 = name).map (·.2)
  | _ => none

end Json
end Cardiac
