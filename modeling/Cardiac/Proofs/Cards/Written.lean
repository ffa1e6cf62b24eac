import Mathlib.Data.List.Basic
import Cardiac.Deck
import Cardiac.Proofs.Text.Lines

/-!
# Decks read back from their text

A deck is written with one card to a line. Reading trims the lines and passes over blank ones, so
of cards without blanks it gives back all but the empty ones, in the same order.
-/
namespace Cardiac

/-- The card on a line, if there is one. -/
def cardOfLine? (line : List Char) : Option Card :=
  if (Text.trim line).isEmpty then none else some (String.ofList (Text.trim line))

theorem cardsOfText_eq_filterMap (text : String) :
    cardsOfText text = (Text.lines text.toList).filterMap cardOfLine? := by
  rw [← Text.map_snd_numberedLines, List.filterMap_map, cardsOfText, numberedCards,
    List.map_filterMap]
  refine List.filterMap_congr fun line _ => ?_
  -- the number of a line is not looked at
  simp only [cardOfLine?, Function.comp_apply]
  split <;> rfl

theorem toList_textOfCards (cards : List Card) :
    (textOfCards cards).toList = (cards.map String.toList).flatMap (· ++ ['\n']) := by
  -- the cards are added behind a text, which is empty at first
  have behind (text : String) :
      (cards.foldl (fun text card => text ++ card ++ "\n") text).toList =
        text.toList ++ (cards.map String.toList).flatMap (· ++ ['\n']) := by
    induction cards generalizing text with
    | nil => simp
    | cons card cards ih =>
      rw [List.foldl_cons, ih, List.map_cons, List.flatMap_cons]
      simp
  exact (behind "").trans (by simp)

section Dense

variable {cards : List Card}
  (dense : ∀ card ∈ cards, ∀ c ∈ card.toList, Text.isBlank c = false)

include dense

theorem lines_textOfCards : Text.lines (textOfCards cards).toList = cards.map String.toList := by
  have unbroken {c : Char} (ends : c = '\n' ∨ c = '\r') :
      ∀ line ∈ cards.map String.toList, c ∉ line := by
    intro line member inside
    obtain ⟨card, present, rfl⟩ := List.mem_map.mp member
    -- a line end is blank, and the card has no blanks
    have plain := dense card present c inside
    rcases ends with rfl | rfl <;> exact absurd plain (by decide)
  rw [toList_textOfCards, Text.lines_flatMap (unbroken (.inl rfl)) (unbroken (.inr rfl))]

theorem cardsOfText_textOfCards : cardsOfText (textOfCards cards) = cards.filter (· ≠ "") := by
  rw [cardsOfText_eq_filterMap, lines_textOfCards dense, List.filterMap_map, ← List.filterMap_eq_filter]
  refine List.filterMap_congr fun card present => ?_
  have whole : Text.trim card.toList = card.toList := Text.trim_eq_self (dense card present)
  simp only [Function.comp_apply, cardOfLine?, whole, String.ofList_toList]
  by_cases empty : card = ""
  · subst empty
    rfl
  · have filled : card.toList.isEmpty = false := by simpa using empty
    simp [Option.guard, filled, empty]

end Dense
end Cardiac
