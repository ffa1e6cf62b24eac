import Cardiac.CommandLine.Loading
import Cardiac.Proofs.Cards.Pairs
import Cardiac.Proofs.CommandLine.Disk

/-!
# Images that are saved and loaded

An image is the same when it has been written to a file and read again, and so are its cards. A
text of an image that was written by other hands may spell the cards differently; its own text is
what remains of it then.
-/
namespace Cardiac.CardImage

open CommandLine

/-! ### The image's own text -/

/-- A card of an image is an address card or the text of a word. -/
theorem exists_of_mem_cards {image : CardImage} {card : Card} (member : card ∈ image.cards) :
    (∃ cell : Fin 100, card = Text.zeroPadded 3 cell) ∨ ∃ word : Word, card = word.text := by
  obtain ⟨⟨cell, word⟩, -, either⟩ := List.mem_flatMap.mp member
  rcases List.mem_pair.mp either with rfl | rfl
  · exact .inl ⟨cell, rfl⟩
  · exact .inr ⟨word, rfl⟩

theorem isBlank_of_mem_cards {image : CardImage} {card : Card} (member : card ∈ image.cards) :
    ∀ c ∈ card.toList, Text.isBlank c = false := by
  intro c inside
  rcases exists_of_mem_cards member with ⟨cell, rfl⟩ | ⟨word, rfl⟩
  · exact Text.isBlank_of_mem_zeroPadded inside
  · exact Word.isBlank_of_mem_text inside

theorem cardsOfText_text (image : CardImage) : cardsOfText image.text = image.cards := by
  -- no card is lost as a blank line
  have filled : ∀ card ∈ image.cards, decide (card ≠ "") = true := by
    intro card member
    rw [decide_eq_true_eq]
    rcases exists_of_mem_cards member with ⟨cell, rfl⟩ | ⟨word, rfl⟩
    · exact Text.zeroPadded_ne_empty 3 _
    · exact word.text_ne_empty
  rw [text, cardsOfText_textOfCards fun _ => isBlank_of_mem_cards, List.filter_eq_self.mpr filled]

theorem parse_text (image : CardImage) : parse image.text = .ok image := by
  rw [parse_eq_ok_iff, cardsOfText_text]
  exact spells_cards image.pairs

theorem runOn_loadImage {disk saved : Disk} {path : String} {image : CardImage}
    (done : disk.write path image.text = .ok saved) (next : CardImage → Script)
    (output errors : String) :
    (Script.loadImage path next).runOn saved output errors =
      (next image).runOn saved output errors := by
  rw [Script.loadImage, Script.runOn, Disk.read_of_write done]
  simp only [parse_text]

/-! ### Other spellings -/

theorem parse_of_addressOfCard? {card : Card} {cell : Fin 100}
    (located : addressOfCard? card = some cell) : Word.parse card = .ok (.ofAddress cell) := by
  obtain ⟨⟨value, lower, upper⟩, parsed, same⟩ := addressOfCard?_eq_some_iff.mp located
  -- a word is known by its value
  obtain rfl : value = (Word.ofAddress cell).value := same.trans (Word.value_ofAddress cell).symm
  exact parsed

/-- Whatever its spelling, a card of an image's text is the word of the image's own card. -/
theorem Spells.respelled {cards : List Card} {pairs : List (Fin 100 × Word)}
    (spells : Spells cards pairs) :
    List.Forall₂ (fun card own => Word.parse card = Word.parse own) cards
      (⟨pairs⟩ : CardImage).cards := by
  induction spells with
  | nil => exact .nil
  | pair located parsed _ ih =>
    rw [cards_cons]
    refine .cons ?_ (.cons ?_ ih)
    · rw [parse_of_addressOfCard? located, Word.parse_addressCard]
    · rw [parsed, Word.parse_text]

/-- An image is read back from its text, and its cards are. A text that is an image spells the same
words as the image's own text, which is read as the same image. And what goes on with an image goes
on alike with the image that is loaded from the file it was saved to. -/
theorem survives_writing (image : CardImage) (text : String) :
    parse image.text = .ok image ∧
    ((Deck.ofText image.text).input = image.cards ∧ (Deck.ofText image.text).output = #[]) ∧
    cardsOfText image.text = image.cards ∧
    (parse text = .ok image →
      List.Forall₂ (fun card own => Word.parse card = Word.parse own) (cardsOfText text)
        (cardsOfText image.text)) ∧
    ((parse text).bind fun read => parse read.text) = parse text ∧
    ∀ (disk saved : Disk) (path : String), disk.write path image.text = .ok saved →
      ∀ (next : CardImage → Script) (output errors : String),
        (Script.loadImage path next).runOn saved output errors =
          (next image).runOn saved output errors := by
  refine ⟨parse_text image, ⟨cardsOfText_text image, rfl⟩, cardsOfText_text image, ?_, ?_, ?_⟩
  · intro accepted
    rw [cardsOfText_text]
    exact (parse_eq_ok_iff.mp accepted).respelled
  · cases parse text with
    | error error => rfl
    | ok read => exact parse_text read
  · intro disk saved path done
    exact runOn_loadImage done

/-- Signs, missing and needless zeros, blanks, a blank line and a missing line end. -/
theorem survives_respelled :
    let image : CardImage := ⟨[(2, .jumpTo 0), (5, ⟨-7, by decide, by decide⟩)]⟩
    let text := " +2\r\n0800\n\n5 \n-7"
    let disk : Disk := ⟨[], [["work"]], ["work"]⟩
    let saved := disk.put ["work", "a.cdc"] image.text
    parse text = .ok image ∧ disk.write "a.cdc" image.text = .ok saved ∧
      Deck.ofText image.text = ⟨["002", "800", "005", "-007"], #[]⟩ ∧
      List.Forall₂ (fun card own => Word.parse card = Word.parse own) (cardsOfText text)
        (cardsOfText image.text) ∧
      ((Script.loadImage "a.cdc" fun read => .print read.text (.finish 0)).runOn saved "" "").output =
        "002\n800\n005\n-007\n" := by
  intro image text disk saved
  have accepted : parse text = .ok image := by decide +kernel
  have done : disk.write "a.cdc" image.text = .ok saved := by rfl
  obtain ⟨-, ⟨input, output⟩, -, respelled, -, reloaded⟩ := survives_writing image text
  have cards : image.cards = ["002", "800", "005", "-007"] := by decide +kernel
  refine ⟨accepted, done, ?_, respelled accepted, ?_⟩
  · rw [← cards, ← input, ← output]
  · rw [reloaded disk saved "a.cdc" done]
    rfl

end Cardiac.CardImage
