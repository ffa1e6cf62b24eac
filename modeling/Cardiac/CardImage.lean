import Cardiac.Deck
import Cardiac.Memory

/-!
# Card images

A card image is a deck made of pairs: an address card and the word to store there. The address
card doubles as the instruction that reads the word, so an address has two digits. The image of
a program ends with a pair for cell 2, whose jump starts the program.
-/
namespace Cardiac

structure CardImage where
  pairs : List (Fin 100 × Word)
  deriving DecidableEq, Repr

/-- A pair's address has more than two digits. -/
structure AddressError where
  address : Nat
  deriving DecidableEq, Repr

def AddressError.message (error : AddressError) : String :=
  "card address " ++ toString error.address ++ " out of range (0-99)"

inductive CardImageError where
  | oddCardCount (count : Nat)
  | notAnAddressCard (line : Nat) (card : Card)
  | invalidCard (line : Nat) (error : WordError)
  deriving DecidableEq, Repr

def CardImageError.message : CardImageError → String
  | .oddCardCount count =>
    "card image has " ++ toString count ++ " cards, expected address/data pairs"
  | .notAnAddressCard line card =>
    "line " ++ toString line ++ ": " ++ Text.quoted card ++ " is not an address card"
  | .invalidCard line error => "line " ++ toString line ++ ": " ++ error.message

namespace CardImage

def empty : CardImage := ⟨[]⟩

def push (image : CardImage) (address : Nat) (word : Word) : Except AddressError CardImage :=
  if fits : address < 100 then .ok ⟨image.pairs ++ [(⟨address, fits⟩, word)]⟩
  else .error ⟨address⟩

/-- The address that a card stands for: a word of at most two digits without a minus sign. -/
def addressOfCard? (card : Card) : Option (Fin 100) :=
  match Word.parse card with
  | .ok word =>
    if fits : 0 ≤ word.value ∧ word.value < 100 then
      some ⟨word.value.toNat, (Int.toNat_lt fits.1).mpr fits.2⟩
    else none
  | .error _ => none

/-- Reads an address card and a data card, each with its line number. -/
def pairOfCards (address word : Nat × Card) : Except CardImageError (Fin 100 × Word) :=
  match addressOfCard? address.2 with
  | none => .error (.notAnAddressCard address.1 address.2)
  | some cell =>
    match Word.parse word.2 with
    | .ok value => .ok (cell, value)
    | .error error => .error (.invalidCard word.1 error)

/-- Reads the cards two by two. A last single card is left over. -/
def pairsOfCards : List (Nat × Card) → Except CardImageError (List (Fin 100 × Word))
  | address :: word :: rest =>
    match pairOfCards address word with
    | .error error => .error error
    | .ok pair =>
      match pairsOfCards rest with
      | .ok pairs => .ok (pair :: pairs)
      | .error error => .error error
  | _ => .ok []

/-- Reads a deck file as an image. An odd number of cards is refused before any card is read. -/
def parse (text : String) : Except CardImageError CardImage :=
  let cards := numberedCards text
  if cards.length % 2 = 1 then .error (.oddCardCount cards.length)
  else
    match pairsOfCards cards with
    | .ok pairs => .ok ⟨pairs⟩
    | .error error => .error error

def cardCount (image : CardImage) : Nat := 2 * image.pairs.length

def isEmpty (image : CardImage) : Bool := image.pairs.isEmpty

/-- The cards in the order in which the loader reads them. -/
def cards (image : CardImage) : List Card :=
  image.pairs.flatMap fun (address, word) => [Text.zeroPadded 3 address, word.text]

def text (image : CardImage) : String := textOfCards image.cards

/-- The cell whose jump starts the program. -/
def startCell : Fin 100 := 2

/-- The address that the last pair for cell 2 jumps to. -/
def entryPoint? (image : CardImage) : Option (Fin 100) :=
  match image.pairs.reverse.find? fun pair => pair.1 = startCell with
  | none => none
  | some (_, word) =>
    if jump : 800 ≤ word.value ∧ word.value < 900 then
      some ⟨(word.value - 800).toNat, by omega⟩
    else none

end CardImage

namespace Memory

/-- Writes pairs in order up to the first that fails, and returns the failure with the memory
that it leaves. -/
def write (memory : Memory) : List (Fin 100 × Word) → Except MemoryError Unit × Memory
  | [] => (.ok (), memory)
  | (address, word) :: rest =>
    match memory.set address.val word with
    | (.ok (), written) => written.write rest
    | (.error error, left) => (.error error, left)

end Memory
end Cardiac
