import Cardiac.Json.Basic

/-!
# Writing JSON

The compact form has no blanks at all. The indented form puts every item and member on a line
of its own, two columns in for each level, and writes empty arrays and objects on one line.
-/
namespace Cardiac.Json

/-- Between quotation marks only quotation marks, backslashes and the first 32 characters are
escaped. -/
def escapedChar (c : Char) : List Char :=
  match c with
  | '"' => ['\\', '"']
  | '\\' => ['\\', '\\']
  | '\x08' => ['\\', 'b']
  | '\t' => ['\\', 't']
  | '\n' => ['\\', 'n']
  | '\x0c' => ['\\', 'f']
  | '\r' => ['\\', 'r']
  | c =>
    if c.toNat < 32 then
      ['\\', 'u', '0', '0', Nat.digitChar (c.toNat / 16), Nat.digitChar (c.toNat % 16)]
    else [c]

def quotedText (text : String) : String :=
  String.ofList ('"' :: text.toList.flatMap escapedChar ++ ['"'])

mutual

def compact : Json → String
  | null => "null"
  | bool value => if value then "true" else "false"
  | integer value => toString value
  | real literal => literal
  | text value => quotedText value
  | array items => "[" ++ ",".intercalate (compactItems items) ++ "]"
  | object members => "\x7b" ++ ",".intercalate (compactMembers members) ++ "\x7d"
  | unreadable source => source

def compactItems : List Json → List String
  | [] => []
  | item :: rest => item.compact :: compactItems rest

def compactMembers : List (String × Json) → List String
  | [] => []
  | (name, value) :: rest => (quotedText name ++ ":" ++ value.compact) :: compactMembers rest

end

/-- Lines between two brackets, one level further in than the brackets. -/
def bracketed (indent : String) (first last : String) : List String → String
  | [] => first ++ last
  | lines =>
    first ++ "\n" ++ ",\n".intercalate (lines.map (indent ++ "  " ++ ·)) ++ "\n" ++ indent ++ last

mutual

/-- The indented form, for a value that starts on a line with this indentation. -/
def indented (indent : String) : Json → String
  | array items => bracketed indent "[" "]" (indentedItems (indent ++ "  ") items)
  | object members => bracketed indent "\x7b" "\x7d" (indentedMembers (indent ++ "  ") members)
  | null => "null"
  | bool value => if value then "true" else "false"
  | integer value => toString value
  | real literal => literal
  | text value => quotedText value
  | unreadable source => source

def indentedItems (indent : String) : List Json → List String
  | [] => []
  | item :: rest => item.indented indent :: indentedItems indent rest

def indentedMembers (indent : String) : List (String × Json) → List String
  | [] => []
  | (name, value) :: rest =>
    (quotedText name ++ ": " ++ value.indented indent) :: indentedMembers indent rest

end

def pretty (json : Json) : String := json.indented ""

end Cardiac.Json
