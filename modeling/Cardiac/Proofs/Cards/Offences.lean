import Mathlib.Data.Nat.Find
import Cardiac.Proofs.Cards.Pairs
import Cardiac.Proofs.Except
import Cardiac.Proofs.Text.Trimming

/-!
# Which card of a text is to blame

The cards of a text are its lines that are not blank. An odd number of them is refused whatever they
are. Of an even number every second one, from the first on, has to be an address and the others words,
and if not all of them are, then the first that is not is reported, by the number of its line among all
lines.
-/
namespace Cardiac.CardImage

/-- The lines of a text that are not blank, trimmed, each with its number among all lines. -/
def filledLines (text : String) : List (Nat × Card) :=
  ((Text.lines text.toList).zipIdx 1).filterMap fun (line, number) =>
    if line.all Text.isBlank then none else some (number, String.ofList (Text.trim line))

/-- The card is a word, and one of two digits without a minus sign if its place is that of an address.
Places are counted from 0. -/
def FitsPlace (place : Nat) (card : Card) : Prop :=
  ∃ word, Word.parse card = .ok word ∧ (place % 2 = 0 → 0 ≤ word.value ∧ word.value ≤ 99)

/-- What is reported of a numbered card that does not fit its place. -/
inductive Offends (place : Nat) : Nat × Card → CardImageError → Prop where
  | address {line : Nat} {card : Card} (even : place % 2 = 0) (unfit : ¬FitsPlace place card) :
      Offends place (line, card) (.notAnAddressCard line card)
  | word {line : Nat} {card : Card} {error : WordError} (odd : place % 2 = 1)
      (refused : Word.parse card = .error error) :
      Offends place (line, card) (.invalidCard line error)

/-- The error is that of the first card that does not fit its place. -/
def FirstOffence (cards : List (Nat × Card)) (error : CardImageError) : Prop :=
  ∃ place card, cards[place]? = some card ∧ Offends place card error ∧
    ∀ earlier < place, ∀ other, cards[earlier]? = some other → FitsPlace earlier other.2

/-- How a text is read that has these cards. -/
structure ReadByPlace (text : String) (cards : List (Nat × Card)) : Prop where
  odd : cards.length % 2 = 1 → parse text = .error (.oddCardCount cards.length)
  accepted : cards.length % 2 = 0 → ((∃ image, parse text = .ok image) ↔
    ∀ place card, cards[place]? = some card → FitsPlace place card.2)
  refused : cards.length % 2 = 0 → ∀ error, parse text = .error error ↔ FirstOffence cards error
  /-- The pairs are the values of the cards, two by two. -/
  pairs : ∀ image, parse text = .ok image → 2 * image.pairs.length = cards.length ∧
    ∀ i (cell : Fin 100) (word : Word), image.pairs[i]? = some (cell, word) → ∃ address data,
      cards[2 * i]? = some address ∧ cards[2 * i + 1]? = some data ∧
      (∃ located, Word.parse address.2 = .ok located ∧ located.value = cell) ∧
      Word.parse data.2 = .ok word
  /-- No pair is one that the image would not take. -/
  pushed : ∀ image, parse text = .ok image →
    image.pairs.foldlM (fun grown pair => grown.push pair.1 pair.2) empty = .ok image

/-! ### Cards and their places -/

theorem fitsPlace_add_two (place : Nat) (card : Card) :
    FitsPlace (place + 2) card ↔ FitsPlace place card := by
  rw [FitsPlace, FitsPlace, Nat.add_mod_right]

theorem offends_add_two {place : Nat} {card : Nat × Card} {error : CardImageError} :
    Offends (place + 2) card error ↔ Offends place card error := by
  constructor
  · rintro (⟨even, unfit⟩ | ⟨odd, refused⟩)
    · exact .address (by omega) (mt (fitsPlace_add_two ..).mpr unfit)
    · exact .word (by omega) refused
  · rintro (⟨even, unfit⟩ | ⟨odd, refused⟩)
    · exact .address (by omega) (mt (fitsPlace_add_two ..).mp unfit)
    · exact .word (by omega) refused

theorem not_fitsPlace_iff {place line : Nat} {card : Card} :
    ¬FitsPlace place card ↔ ∃ error, Offends place (line, card) error := by
  constructor
  · intro unfit
    rcases Nat.mod_two_eq_zero_or_one place with even | odd
    · exact ⟨_, .address even unfit⟩
    · cases parsed : Word.parse card with
      | error error => exact ⟨_, .word odd parsed⟩
      | ok word => exact absurd ⟨word, parsed, fun even => by omega⟩ unfit
  · rintro ⟨error, ⟨-, unfit⟩ | ⟨-, refused⟩⟩
    · exact unfit
    · rintro ⟨word, parsed, -⟩
      cases refused.symm.trans parsed

theorem exists_address_iff {card : Card} :
    (∃ cell, addressOfCard? card = some cell) ↔ FitsPlace 0 card := by
  simp only [addressOfCard?_eq_some_iff, FitsPlace, Nat.zero_mod, true_imp_iff]
  constructor
  · rintro ⟨cell, word, parsed, value⟩
    exact ⟨word, parsed, by omega, by omega⟩
  · rintro ⟨word, parsed, above, below⟩
    exact ⟨⟨word.value.toNat, by omega⟩, word, parsed, (Int.toNat_of_nonneg above).symm⟩

theorem exists_pairOfCards_iff {address data : Nat × Card} :
    (∃ pair, pairOfCards address data = .ok pair) ↔
      FitsPlace 0 address.2 ∧ FitsPlace 1 data.2 := by
  simp only [pairOfCards_eq_ok_iff, Prod.exists, exists_and_left, exists_and_right,
    exists_address_iff]
  simp [FitsPlace]

theorem offends_address_iff {address : Nat × Card} {error : CardImageError} :
    Offends 0 address error ↔
      ¬FitsPlace 0 address.2 ∧ .notAnAddressCard address.1 address.2 = error := by
  constructor
  · rintro (⟨-, unfit⟩ | ⟨odd, -⟩)
    · exact ⟨unfit, rfl⟩
    · cases odd
  · rintro ⟨unfit, rfl⟩
    exact .address rfl unfit

theorem offends_word_iff {data : Nat × Card} {error : CardImageError} :
    Offends 1 data error ↔ ∃ cause, Word.parse data.2 = .error cause ∧
      .invalidCard data.1 cause = error := by
  constructor
  · rintro (⟨even, -⟩ | ⟨-, refused⟩)
    · cases even
    · exact ⟨_, refused, rfl⟩
  · rintro ⟨cause, refused, rfl⟩
    exact .word rfl refused

theorem pairOfCards_eq_error_iff {address data : Nat × Card} {error : CardImageError} :
    pairOfCards address data = .error error ↔
      Offends 0 address error ∨ FitsPlace 0 address.2 ∧ Offends 1 data error := by
  rw [offends_address_iff, offends_word_iff, ← exists_address_iff]
  unfold pairOfCards
  cases addressOfCard? address.2 with
  | none => simp
  | some cell => cases Word.parse data.2 <;> simp

/-! ### The first offence -/

/-- The first offence is that of one of the first two cards, or it comes behind them. -/
theorem firstOffence_cons_cons_iff {address data : Nat × Card} {cards : List (Nat × Card)}
    {error : CardImageError} :
    FirstOffence (address :: data :: cards) error ↔ Offends 0 address error ∨
      FitsPlace 0 address.2 ∧ Offends 1 data error ∨
      (FitsPlace 0 address.2 ∧ FitsPlace 1 data.2) ∧ FirstOffence cards error := by
  constructor
  · rintro ⟨place, card, found, offends, before⟩
    match place with
    | 0 =>
      cases found
      exact .inl offends
    | 1 =>
      cases found
      exact .inr (.inl ⟨before 0 Nat.one_pos address rfl, offends⟩)
    | place + 2 =>
      have first := before 0 (by omega) address rfl
      have second := before 1 (by omega) data rfl
      refine .inr (.inr ⟨⟨first, second⟩, place, card, found, offends_add_two.mp offends, ?_⟩)
      intro earlier below other held
      exact (fitsPlace_add_two ..).mp (before (earlier + 2) (by omega) other held)
  · rintro (offends | ⟨first, offends⟩ | ⟨⟨first, second⟩, place, card, found, offends, before⟩)
    · exact ⟨0, address, rfl, offends, nofun⟩
    · refine ⟨1, data, rfl, offends, fun earlier below other held => ?_⟩
      obtain rfl : earlier = 0 := by omega
      cases held
      exact first
    · refine ⟨place + 2, card, found, offends_add_two.mpr offends, ?_⟩
      intro earlier below other held
      match earlier with
      | 0 =>
        cases held
        exact first
      | 1 =>
        cases held
        exact second
      | earlier + 2 => exact (fitsPlace_add_two ..).mpr (before earlier (by omega) other held)

theorem pairsOfCards_cons_eq_error_iff {address data : Nat × Card} {cards : List (Nat × Card)}
    {error : CardImageError} :
    pairsOfCards (address :: data :: cards) = .error error ↔
      pairOfCards address data = .error error ∨
        (∃ pair, pairOfCards address data = .ok pair) ∧ pairsOfCards cards = .error error := by
  rw [pairsOfCards]
  cases pairOfCards address data with
  | error other => simp
  | ok pair => cases pairsOfCards cards <;> simp

/-- The cards are refused for their first offence. -/
theorem pairsOfCards_eq_error_iff {cards : List (Nat × Card)} (even : cards.length % 2 = 0)
    {error : CardImageError} : pairsOfCards cards = .error error ↔ FirstOffence cards error := by
  induction cards using List.twoStepInduction with
  | nil =>
    constructor
    · rintro ⟨⟩
    · rintro ⟨place, card, found, -⟩
      cases found
  | singleton card => simp at even
  | cons_cons address data cards ih _ =>
    have evenRest : cards.length % 2 = 0 := by
      simp only [List.length_cons] at even
      omega
    rw [pairsOfCards_cons_eq_error_iff, pairOfCards_eq_error_iff, exists_pairOfCards_iff,
      ih evenRest, firstOffence_cons_cons_iff, or_assoc]

/-- If not every card fits its place, there is a first one that does not. -/
theorem exists_firstOffence_iff {cards : List (Nat × Card)} :
    (∃ error, FirstOffence cards error) ↔
      ¬∀ place card, cards[place]? = some card → FitsPlace place card.2 := by
  constructor
  · rintro ⟨error, place, card, found, offends, -⟩ all
    exact not_fitsPlace_iff.mpr ⟨error, offends⟩ (all place card found)
  · intro unfit
    classical
    push Not at unfit
    obtain ⟨card, found, misfit⟩ := Nat.find_spec unfit
    obtain ⟨error, offends⟩ := not_fitsPlace_iff.mp misfit
    refine ⟨error, _, card, found, offends, fun earlier below other held => ?_⟩
    by_contra wrong
    exact Nat.find_min unfit below ⟨other, held, wrong⟩

/-! ### Texts -/

theorem numberedCards_eq_filledLines (text : String) : numberedCards text = filledLines text := by
  rw [numberedCards, filledLines, Text.numberedLines_eq_zipIdx, List.filterMap_map]
  refine List.filterMap_congr ?_
  rintro ⟨line, number⟩ -
  have blank : (Text.trim line).isEmpty = line.all Text.isBlank := by
    rw [Bool.eq_iff_iff, List.isEmpty_iff, Text.trim_eq_nil_iff, List.all_eq_true]
  simp only [Function.comp_apply, Prod.swap_prod_mk, blank]

theorem parse_of_even {text : String} (even : (filledLines text).length % 2 = 0) :
    parse text = (pairsOfCards (filledLines text)).map CardImage.mk := by
  have paired : ¬(filledLines text).length % 2 = 1 := by omega
  simp only [parse, numberedCards_eq_filledLines, if_neg paired]
  cases pairsOfCards (filledLines text) <;> rfl

/-- The pair at an index is read off the two cards at the double of it. -/
theorem Spells.exists_cards {cards : List Card} {pairs : List (Fin 100 × Word)}
    (spells : Spells cards pairs) {i : Nat} {cell : Fin 100} {word : Word}
    (found : pairs[i]? = some (cell, word)) : ∃ address data, cards[2 * i]? = some address ∧
      cards[2 * i + 1]? = some data ∧ addressOfCard? address = some cell ∧
      Word.parse data = .ok word := by
  induction spells generalizing i with
  | nil => cases found
  | @pair address data _ _ _ _ located parsed _ ih =>
    cases i with
    | zero =>
      cases found
      exact ⟨address, data, rfl, rfl, located, parsed⟩
    | succ i => exact ih found

theorem Spells.length_eq {cards : List Card} {pairs : List (Fin 100 × Word)}
    (spells : Spells cards pairs) : 2 * pairs.length = cards.length := by
  induction spells with
  | nil => rfl
  | pair _ _ _ ih =>
    simp only [List.length_cons]
    omega

theorem foldlM_push (front pairs : List (Fin 100 × Word)) :
    pairs.foldlM (fun (grown : CardImage) pair => grown.push pair.1 pair.2) ⟨front⟩ =
      .ok ⟨front ++ pairs⟩ := by
  induction pairs generalizing front with
  | nil => rw [List.append_nil]; rfl
  | cons pair pairs ih =>
    have pushed : (⟨front⟩ : CardImage).push pair.1 pair.2 = .ok ⟨front ++ [pair]⟩ := by
      rw [push, dif_pos pair.1.isLt]
    rw [List.foldlM_cons, pushed, ok_bind, ih, List.append_assoc, List.singleton_append]

/-- Every text is read by the places of its cards. -/
theorem parsed_by_place (text : String) : ReadByPlace text (filledLines text) := by
  have refused (even : (filledLines text).length % 2 = 0) (error : CardImageError) :
      parse text = .error error ↔ FirstOffence (filledLines text) error := by
    rw [← pairsOfCards_eq_error_iff even, parse_of_even even]
    cases pairsOfCards (filledLines text) <;> simp [Except.map]
  constructor
  case odd =>
    intro odd
    simp only [parse, numberedCards_eq_filledLines, if_pos odd]
  case accepted =>
    intro even
    rw [← not_iff_not, ← exists_firstOffence_iff]
    simp only [← refused even]
    cases parse text <;> simp
  case refused => exact refused
  case pairs =>
    intro image accepted
    have spells := parse_eq_ok_iff.mp accepted
    rw [cardsOfText, numberedCards_eq_filledLines] at spells
    refine ⟨by rw [spells.length_eq, List.length_map], fun i cell word found => ?_⟩
    obtain ⟨address, data, first, second, located, parsed⟩ := spells.exists_cards found
    rw [List.getElem?_map, Option.map_eq_some_iff] at first second
    obtain ⟨numbered, first, rfl⟩ := first
    obtain ⟨other, second, rfl⟩ := second
    exact ⟨numbered, other, first, second, addressOfCard?_eq_some_iff.mp located, parsed⟩
  case pushed =>
    intro image _
    exact foldlM_push [] image.pairs

/-- The address on line 5 has three digits. It is reported before the last card, which is no word, and
by the number that the line has among all lines. -/
theorem long_address_reported :
    parse "\n 2 \r\n0800\n\n\u00a0 100\nabc\n" = .error (.notAnAddressCard 5 "100") := by
  have cards : filledLines "\n 2 \r\n0800\n\n\u00a0 100\nabc\n" =
      [(2, "2"), (3, "0800"), (5, "100"), (6, "abc")] := by decide
  have read := parsed_by_place "\n 2 \r\n0800\n\n\u00a0 100\nabc\n"
  rw [cards] at read
  have unfit : ¬FitsPlace 2 "100" := by
    rintro ⟨word, parsed, short⟩
    have value : Word.parse "100" = .ok ⟨100, by decide, by decide⟩ := by decide
    cases value.symm.trans parsed
    exact absurd (short rfl).2 (by decide)
  refine (read.refused rfl _).mpr ⟨2, _, rfl, .address rfl unfit, ?_⟩
  intro earlier below other held
  match earlier with
  | 0 =>
    cases held
    exact ⟨⟨2, by decide, by decide⟩, by decide, by decide⟩
  | 1 =>
    cases held
    exact ⟨⟨800, by decide, by decide⟩, by decide, by decide⟩

end Cardiac.CardImage
