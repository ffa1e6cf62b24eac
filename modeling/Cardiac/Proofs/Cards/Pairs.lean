import Mathlib.Data.List.Induction
import Cardiac.CardImage
import Cardiac.Proofs.Cards.Written

/-!
# Which texts are card images

A text is an image if its cards come in pairs that each spell an address and a word. How they are
spelled is free; the image's own cards are the spelling with three digits.
-/
namespace Cardiac.CardImage

/-- Cards that are read two by two as an address and a word. -/
inductive Spells : List Card → List (Fin 100 × Word) → Prop where
  | nil : Spells [] []
  | pair {address data : Card} {cards : List Card} {cell : Fin 100} {word : Word}
      {pairs : List (Fin 100 × Word)} (located : addressOfCard? address = some cell)
      (parsed : Word.parse data = .ok word) (rest : Spells cards pairs) :
      Spells (address :: data :: cards) ((cell, word) :: pairs)

theorem Spells.even {cards : List Card} {pairs : List (Fin 100 × Word)}
    (spells : Spells cards pairs) : cards.length % 2 = 0 := by
  induction spells with
  | nil => rfl
  | pair _ _ _ ih =>
    simp only [List.length_cons]
    omega

theorem addressOfCard?_eq_some_iff {card : Card} {cell : Fin 100} :
    addressOfCard? card = some cell ↔ ∃ word, Word.parse card = .ok word ∧ word.value = cell := by
  unfold addressOfCard?
  cases Word.parse card with
  | error error => simp
  | ok word =>
    simp only [Option.dite_none_right_eq_some, Option.some.injEq, Except.ok.injEq,
      exists_eq_left']
    constructor
    · rintro ⟨fits, rfl⟩
      exact (Int.toNat_of_nonneg fits.1).symm
    · intro value
      exact ⟨by omega, Fin.ext (by simp [value])⟩

theorem pairOfCards_eq_ok_iff {address data : Nat × Card} {pair : Fin 100 × Word} :
    pairOfCards address data = .ok pair ↔
      addressOfCard? address.2 = some pair.1 ∧ Word.parse data.2 = .ok pair.2 := by
  obtain ⟨cell, word⟩ := pair
  unfold pairOfCards
  cases addressOfCard? address.2 with
  | none => simp
  | some found => cases Word.parse data.2 <;> simp

theorem pairsOfCards_cons_eq_ok_iff {address data : Nat × Card} {cards : List (Nat × Card)}
    {pairs : List (Fin 100 × Word)} :
    pairsOfCards (address :: data :: cards) = .ok pairs ↔ ∃ pair rest,
      pairOfCards address data = .ok pair ∧ pairsOfCards cards = .ok rest ∧
        pairs = pair :: rest := by
  rw [pairsOfCards]
  cases pairOfCards address data with
  | error error => simp
  | ok pair =>
    cases pairsOfCards cards with
    | error error => simp
    | ok rest => simp [eq_comm]

/-- The line numbers count for the refusals only. -/
theorem pairsOfCards_eq_ok_iff {cards : List (Nat × Card)} (even : cards.length % 2 = 0)
    {pairs : List (Fin 100 × Word)} :
    pairsOfCards cards = .ok pairs ↔ Spells (cards.map (·.2)) pairs := by
  induction cards using List.twoStepInduction generalizing pairs with
  | nil =>
    constructor
    · rintro ⟨⟩
      exact .nil
    · rintro ⟨⟩
      rfl
  | singleton card => simp at even
  | cons_cons address data cards ih _ =>
    have evenRest : cards.length % 2 = 0 := by
      simp only [List.length_cons] at even
      omega
    rw [pairsOfCards_cons_eq_ok_iff]
    constructor
    · rintro ⟨pair, rest, read, others, rfl⟩
      obtain ⟨located, parsed⟩ := pairOfCards_eq_ok_iff.mp read
      exact .pair located parsed ((ih evenRest).mp others)
    · rintro (_ | ⟨located, parsed, rest⟩)
      exact ⟨_, _, pairOfCards_eq_ok_iff.mpr ⟨located, parsed⟩, (ih evenRest).mpr rest, rfl⟩

theorem length_numberedCards (text : String) :
    (numberedCards text).length = (cardsOfText text).length := by
  rw [cardsOfText, List.length_map]

theorem parse_eq_ok_iff {text : String} {image : CardImage} :
    parse text = .ok image ↔ Spells (cardsOfText text) image.pairs := by
  by_cases even : (numberedCards text).length % 2 = 0
  · have paired : ¬(numberedCards text).length % 2 = 1 := by omega
    rw [cardsOfText, ← pairsOfCards_eq_ok_iff even]
    simp only [parse, if_neg paired]
    obtain ⟨pairs⟩ := image
    cases pairsOfCards (numberedCards text) <;> simp
  · have odd : (numberedCards text).length % 2 = 1 := by omega
    simp only [parse, if_pos odd]
    constructor
    · intro parsed
      cases parsed
    · intro spells
      rw [length_numberedCards] at odd
      have := spells.even
      omega

/-! ### The image's own cards -/

theorem addressOfCard?_addressCard (cell : Fin 100) :
    addressOfCard? (Text.zeroPadded 3 cell) = some cell :=
  addressOfCard?_eq_some_iff.mpr ⟨_, Word.parse_addressCard cell, Word.value_ofAddress cell⟩

theorem cards_cons (pair : Fin 100 × Word) (pairs : List (Fin 100 × Word)) :
    (⟨pair :: pairs⟩ : CardImage).cards =
      Text.zeroPadded 3 pair.1 :: pair.2.text :: (⟨pairs⟩ : CardImage).cards := rfl

theorem spells_cards (pairs : List (Fin 100 × Word)) : Spells (⟨pairs⟩ : CardImage).cards pairs := by
  induction pairs with
  | nil => exact .nil
  | cons pair pairs ih =>
    rw [cards_cons]
    exact .pair (addressOfCard?_addressCard pair.1) (Word.parse_text pair.2) ih

end Cardiac.CardImage
