import Mathlib.Data.List.Forall2
import Cardiac.Proofs.Cards.Saved
import Cardiac.Proofs.Machine.Agreement

/-!
# Decks in other spellings

A deck file may spell its cards in many ways, and the image that is read from it knows only the
words. The machine does not see the spelling either, for it parses a card as soon as it has read
it. So feeding the file itself to the loader is the same run as booting its image.
-/
namespace Cardiac

namespace Deck

/-- The waiting cards are parsed alike one by one, and the trays hold the same cards. -/
structure ParsedAlike (first second : Deck) : Prop where
  input : List.Forall₂ (fun card other => Word.parse card = Word.parse other)
    first.input second.input
  output : first.output = second.output

theorem portsAlike_parsedAlike : Machine.PortsAlike ParsedAlike where
  reading := by
    rintro ⟨_, _⟩ ⟨_, _⟩ ⟨input, -⟩
    cases input with
    | nil => rfl
    | cons same rest => exact congrArg some same
  rest := by
    rintro ⟨_, _⟩ ⟨_, _⟩ ⟨input, output⟩
    cases input with
    | nil => exact ⟨.nil, output⟩
    | cons same rest => exact ⟨rest, output⟩
  punch := by
    intro first second same card
    exact ⟨same.input, congrArg (·.push card) same.output⟩

theorem ParsedAlike.append {first second : Deck} (same : ParsedAlike first second)
    (cards : List Card) : ParsedAlike (first.append cards) (second.append cards) where
  input := List.rel_append same.input (List.forall₂_same.mpr fun _ _ => rfl)
  output := same.output

end Deck

theorem CardImage.parsedAlike_ofText {text : String} {image : CardImage}
    (accepted : CardImage.parse text = .ok image) :
    Deck.ParsedAlike (Deck.ofText text) (Deck.ofCards image.cards) where
  input := (parse_eq_ok_iff.mp accepted).respelled
  output := rfl

namespace Machine

/-- Nothing but the spelling of the waiting cards is different. -/
structure SpelledAlike (first second : Machine Deck) : Prop where
  registers : first.registers = second.registers
  memory : first.memory = second.memory
  output : first.port.output = second.port.output
  cycles : first.cycles = second.cycles
  last : first.last = second.last
  remaining : first.port.remaining = second.port.remaining
  cards : List.Forall₂ (fun card other => Word.parse card = Word.parse other)
    first.port.input second.port.input

theorem AlikeOff.spelledAlike {first second : Machine Deck}
    (same : AlikeOff Deck.ParsedAlike [] 0 first second) : SpelledAlike first second where
  registers := same.registers
  memory := same.memory_eq
  output := same.port.output
  cycles := same.cycles_eq
  last := same.last
  remaining := same.port.input.length_eq
  cards := same.port.input

/-- A deck that is an image's text in any spelling runs as the booted image does: every step returns
the same and leaves the same. -/
theorem text_runs_as_image {text : String} {image : CardImage}
    (accepted : CardImage.parse text = .ok image) (input : List Card) (config : Config) :
    let fed := fresh ((Deck.ofText text).append input) config
    let booted := (fresh (Deck.ofCards input) config).boot image
    ∀ steps, (fed.afterSteps steps).step.1 = (booted.afterSteps steps).step.1 ∧
      SpelledAlike (fed.afterSteps steps) (booted.afterSteps steps) := by
  intro fed booted steps
  have same : AlikeOff Deck.ParsedAlike [] 0 fed booted := {
    registers := rfl
    memory := .refl [] _
    port := (CardImage.parsedAlike_ofText accepted).append input
    policy := rfl
    cycles := rfl
    last := rfl }
  have ports := Deck.portsAlike_parsedAlike
  constructor
  · exact (same.lockstep ports steps).1
  · have reached : AlikeOff Deck.ParsedAlike [] 0 (fed.afterSteps steps)
        (booted.afterSteps steps) := same.afterSteps ports fun _ _ => nofun
    exact reached.spelledAlike

/-- Signs, missing and needless zeros, blanks and a blank line. The word -7 is read to the cell
where the program starts, and is no instruction. -/
theorem respelled_text_runs :
    let text := "+2\r\n 0800\n\n3 \n-7\n002\n+803"
    let fed := fresh ((Deck.ofText text).append ["8"]) {}
    let image : CardImage := ⟨[(2, .jumpTo 0), (3, ⟨-7, by decide, by decide⟩), (2, .jumpTo 3)]⟩
    let booted := (fresh (Deck.ofCards ["8"]) {}).boot image
    CardImage.parse text = .ok image ∧
      (fed.afterSteps 9).step.1 = .error (.invalidOperation (.unknownOpcode (-1))) ∧
      SpelledAlike (fed.afterSteps 10) (booted.afterSteps 10) := by
  intro text fed image booted
  have accepted : CardImage.parse text = .ok image := by decide +kernel
  have alike := text_runs_as_image accepted ["8"] {}
  have fails : (booted.afterSteps 9).step.1 =
      .error (.invalidOperation (.unknownOpcode (-1))) := by decide +kernel
  exact ⟨accepted, (alike 9).1.trans fails, (alike 10).2⟩

end Machine
end Cardiac
