import Cardiac.Text.Blank
import Cardiac.Text.Lines

/-!
# Cards, decks and card ports

The machine reads cards one at a time and punches cards onto a tray. All it needs of the outside
is a `CardPort`; a `Deck` is the port that keeps its cards in memory. As a file, a deck is text
with one card on each line, and blank lines hold no card.
-/
namespace Cardiac

/-- A punched card, which may hold any text. -/
abbrev Card := String

/-- The non-blank lines of a text, trimmed, with their line numbers. -/
def numberedCards (text : String) : List (Nat × Card) :=
  (Text.numberedLines text).filterMap fun (number, line) =>
    let card := Text.trim line
    if card.isEmpty then none else some (number, String.ofList card)

def cardsOfText (text : String) : List Card := (numberedCards text).map (·.2)

def textOfCards (cards : List Card) : String :=
  cards.foldl (fun text card => text ++ card ++ "\n") ""

/-- What the machine asks of a card reader and punch. A port need not let its cards be seen:
then there is no next card and no tray to look at. -/
class CardPort (Port : Type) where
  read : Port → Option Card × Port
  punch : Port → Card → Port
  /-- The next input card, left where it is. -/
  next? : Port → Option Card := fun _ => none
  tray : Port → Array Card := fun _ => #[]

/-- Input cards that wait to be read, and the tray of punched cards. -/
structure Deck where
  input : List Card
  output : Array Card
  deriving DecidableEq, Repr

namespace Deck

def empty : Deck := ⟨[], #[]⟩

def ofCards (cards : List Card) : Deck := ⟨cards, #[]⟩

def ofText (text : String) : Deck := ofCards (cardsOfText text)

/-- Puts cards behind the waiting ones. -/
def append (deck : Deck) (cards : List Card) : Deck := { deck with input := deck.input ++ cards }

/-- Puts cards in front of the waiting ones. -/
def putInFront (deck : Deck) (cards : List Card) : Deck :=
  { deck with input := cards ++ deck.input }

def read (deck : Deck) : Option Card × Deck :=
  match deck.input with
  | [] => (none, deck)
  | card :: rest => (some card, { deck with input := rest })

def punch (deck : Deck) (card : Card) : Deck := { deck with output := deck.output.push card }

def next? (deck : Deck) : Option Card := deck.input.head?

def remaining (deck : Deck) : Nat := deck.input.length

def takeOutput (deck : Deck) : Array Card × Deck := (deck.output, { deck with output := #[] })

instance : CardPort Deck where
  read := read
  punch := punch
  next? := next?
  tray := output

end Deck

/-- A port that only reads and punches, and shows neither its input nor its tray. -/
structure BlindPort where
  deck : Deck
  deriving DecidableEq, Repr

instance : CardPort BlindPort where
  read port := (port.deck.read.1, ⟨port.deck.read.2⟩)
  punch port card := ⟨port.deck.punch card⟩

end Cardiac
