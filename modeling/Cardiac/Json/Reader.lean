import Cardiac.Json.Basic
import Cardiac.Text.Decimal

/-!
# Reading JSON

Every reader takes the characters that are left and returns a value with the characters behind
it, or nothing if the text is not JSON. Values nest, so their readers carry a budget; twice the
length of the text is enough, for every call uses up a character or is followed by one that does.
-/
namespace Cardiac.Json

def isSpace (c : Char) : Bool := c = ' ' || c = '\n' || c = '\t' || c = '\r'

def skipSpace (input : List Char) : List Char := input.dropWhile isSpace

def hexDigit? (c : Char) : Option Nat :=
  if c.isDigit then some (c.toNat - '0'.toNat)
  else if 'a' ≤ c ∧ c ≤ 'f' then some (c.toNat - 'a'.toNat + 10)
  else if 'A' ≤ c ∧ c ≤ 'F' then some (c.toNat - 'A'.toNat + 10)
  else none

/-- The code unit that four hexadecimal digits name. -/
def codeUnit? (a b c d : Char) : Option Nat := do
  return ((← hexDigit? a) * 16 + (← hexDigit? b)) * 256 + (← hexDigit? c) * 16 + (← hexDigit? d)

/-- The character that a backslash gives to a letter. -/
def escape? : Char → Option Char
  | '"' => some '"'
  | '\\' => some '\\'
  | '/' => some '/'
  | 'b' => some '\x08'
  | 'f' => some '\x0c'
  | 'n' => some '\n'
  | 'r' => some '\r'
  | 't' => some '\t'
  | _ => none

/-- The code units behind an opening quotation mark, up to the closing one. -/
def codeUnits? : List Char → Option (List Nat × List Char)
  | [] => none
  | '"' :: rest => some ([], rest)
  | '\\' :: 'u' :: a :: b :: c :: d :: rest => do
    let unit ← codeUnit? a b c d
    let (units, rest) ← codeUnits? rest
    return (unit :: units, rest)
  | '\\' :: letter :: rest => do
    let c ← escape? letter
    let (units, rest) ← codeUnits? rest
    return (c.toNat :: units, rest)
  | c :: rest =>
    if c.toNat < 32 then none
    else do
      let (units, rest) ← codeUnits? rest
      return (c.toNat :: units, rest)

def isHighSurrogate (unit : Nat) : Bool := 0xd800 ≤ unit && unit < 0xdc00
def isLowSurrogate (unit : Nat) : Bool := 0xdc00 ≤ unit && unit < 0xe000

/-- The characters of a list of code units; a surrogate must be half of a pair. -/
def charsOfUnits? : List Nat → Option (List Char)
  | [] => some []
  | [unit] =>
    if isHighSurrogate unit || isLowSurrogate unit then none else some [Char.ofNat unit]
  | high :: low :: rest =>
    if isHighSurrogate high then
      if isLowSurrogate low then
        (charsOfUnits? rest).map
          (Char.ofNat (0x10000 + (high - 0xd800) * 0x400 + (low - 0xdc00)) :: ·)
      else none
    else if isLowSurrogate high then none
    else (charsOfUnits? (low :: rest)).map (Char.ofNat high :: ·)

/-- The text behind an opening quotation mark; its code units may fail to be a text. -/
def string? (input : List Char) : Option (Option String × List Char) := do
  let (units, rest) ← codeUnits? input
  return ((charsOfUnits? units).map String.ofList, rest)

/-- The value that was read between two places, or else what is written there. -/
def orUnreadable (value : Option Json) (input rest : List Char) : Json :=
  value.getD (.unreadable (String.ofList (input.take (input.length - rest.length))))

def digits? (input : List Char) : Option (List Char × List Char) :=
  match input.span Char.isDigit with
  | ([], _) => none
  | split => some split

/-- The whole part of a number, which has no leading zeros. -/
def whole? : List Char → Option (List Char × List Char)
  | '0' :: rest => some (['0'], rest)
  | input => digits? input

def fraction? : List Char → Option (List Char × List Char)
  | '.' :: rest => (digits? rest).map fun (digits, rest) => ('.' :: digits, rest)
  | input => some ([], input)

def exponent? : List Char → Option (List Char × List Char)
  | letter :: rest =>
    if letter = 'e' ∨ letter = 'E' then
      match rest with
      | '+' :: rest => (digits? rest).map fun (digits, rest) => (letter :: '+' :: digits, rest)
      | '-' :: rest => (digits? rest).map fun (digits, rest) => (letter :: '-' :: digits, rest)
      | rest => (digits? rest).map fun (digits, rest) => (letter :: digits, rest)
    else some ([], letter :: rest)
  | [] => some ([], [])

def number? (input : List Char) : Option (Json × List Char) := do
  let (sign, rest) := match input with
    | '-' :: rest => (['-'], rest)
    | rest => ([], rest)
  let (whole, rest) ← whole? rest
  let (fraction, rest) ← fraction? rest
  let (exponent, rest) ← exponent? rest
  let literal := sign ++ whole ++ fraction ++ exponent
  if fraction = [] ∧ exponent = [] ∧ literal ≠ ['-', '0'] then
    return (.integer (← Text.integer? literal), rest)
  else return (.real (String.ofList literal), rest)

/-- A member in front of others, if all of their names are texts. -/
def withMember (name : Option String) (value : Json) (members : Option (List (String × Json))) :
    Option (List (String × Json)) :=
  match name, members with
  | some name, some members => some ((name, value) :: members)
  | _, _ => none

mutual

def value? : Nat → List Char → Option (Json × List Char)
  | 0, _ => none
  | budget + 1, input =>
    let input := skipSpace input
    match input with
    | 'n' :: 'u' :: 'l' :: 'l' :: rest => some (.null, rest)
    | 't' :: 'r' :: 'u' :: 'e' :: rest => some (.bool true, rest)
    | 'f' :: 'a' :: 'l' :: 's' :: 'e' :: rest => some (.bool false, rest)
    | '"' :: rest => do
      let (value, rest) ← string? rest
      return (orUnreadable (value.map .text) input rest, rest)
    | '[' :: rest =>
      match skipSpace rest with
      | ']' :: rest => some (.array [], rest)
      | rest => do
        let (items, rest) ← items? budget rest
        return (.array items, rest)
    | '\x7b' :: rest =>
      match skipSpace rest with
      | '\x7d' :: rest => some (.object [], rest)
      | rest => do
        let (members, rest) ← members? budget rest
        return (orUnreadable (members.map .object) input rest, rest)
    | input => number? input

/-- One or more items up to the closing bracket. -/
def items? : Nat → List Char → Option (List Json × List Char)
  | 0, _ => none
  | budget + 1, input => do
    let (item, rest) ← value? budget input
    match skipSpace rest with
    | ',' :: rest =>
      let (items, rest) ← items? budget rest
      return (item :: items, rest)
    | ']' :: rest => return ([item], rest)
    | _ => none

/-- One or more members up to the closing brace; a name may fail to be a text. -/
def members? : Nat → List Char → Option (Option (List (String × Json)) × List Char)
  | 0, _ => none
  | budget + 1, input =>
    match skipSpace input with
    | '"' :: rest => do
      let (name, rest) ← string? rest
      match skipSpace rest with
      | ':' :: rest =>
        let (value, rest) ← value? budget rest
        match skipSpace rest with
        | ',' :: rest =>
          let (members, rest) ← members? budget rest
          return (withMember name value members, rest)
        | '\x7d' :: rest => return (withMember name value (some []), rest)
        | _ => none
      | _ => none
    | _ => none

end

/-- Reads a text that holds one JSON value and nothing else. -/
def ofText? (source : String) : Option Json := do
  let chars := source.toList
  let (value, rest) ← value? (2 * chars.length + 2) chars
  if (skipSpace rest).isEmpty then some value else none

end Cardiac.Json
