import Cardiac.Proofs.Text.Literals
import Cardiac.Proofs.Text.Trimming

/-!
# Cards read by their value

A card is read as the integer that it spells between its blanks, however many digits this takes. An
integer of more than three digits is an overflow, at the nearest value of 64 bits, and a card that
spells no integer is refused as it is. A word's own text is one of the spellings of the word.
-/
namespace Cardiac.Word

/-- The text has three digits, behind a minus sign exactly if the word is negative. -/
def IsWritten (word : Word) (text : String) : Prop :=
  ∃ digits, digits.length = 3 ∧ Text.Digits digits word.value.natAbs ∧
    text.toList = if word.value < 0 then '-' :: digits else digits

/-- How a text is read that has this trimmed form. -/
structure ReadByValue (text : String) (bare : List Char) : Prop where
  short : ∀ value, Text.Literal bare value → ∀ (lower : -999 ≤ value) (upper : value ≤ 999),
    parse text = .ok ⟨value, lower, upper⟩
  long : ∀ value, Text.Literal bare value → ¬(-999 ≤ value ∧ value ≤ 999) →
    parse text = .error (.overflow (max (-2 ^ 63) (min (2 ^ 63 - 1) value)))
  other : (∀ value, ¬Text.Literal bare value) → parse text = .error (.notInteger text)
  /-- What was read is written in one way, and read back from that. -/
  again : ∀ word, parse text = .ok word → word.IsWritten word.text ∧ parse word.text = .ok word

theorem isWritten_text (word : Word) : word.IsWritten word.text := by
  have small : word.value.natAbs < 10 ^ 3 := by
    have lower := word.lower
    have upper := word.upper
    omega
  have short : word.value.natAbs.repr.length ≤ 3 := (Nat.length_repr_le_iff (by decide)).mpr small
  let zeros := 3 - word.value.natAbs.repr.length
  refine ⟨Text.paddedDigits zeros word.value.natAbs, ?_,
    Text.natural?_eq_some_iff.mp (Text.natural?_paddedDigits ..), ?_⟩
  · -- as many zeros stand in front as there are digits missing
    rw [Text.paddedDigits, List.length_append, List.length_replicate, ← String.length_ofList,
      ← Nat.repr]
    omega
  · rw [toList_text]
    split <;> rfl

/-! ### Texts with a trimmed form -/

section Trimmed

variable {text : String} {bare : List Char} (trimmed : Text.Trimmed text.toList bare)

include trimmed

/-- A literal that 64 bits hold is a word if it is short. -/
theorem parse_of_fits64 {value : Int} (literal : Text.Literal bare value)
    (fits : Text.fits64 value = true) : parse text = ofInt value := by
  have read := Text.integer64?_of_integer? (Text.integer?_of_literal literal) fits
  simp only [parse, trimmed.eq_trim, read]

/-- A literal that 64 bits do not hold is told by the test for literals, and its side by its sign. -/
theorem parse_of_not_fits64 {value : Int} (literal : Text.Literal bare value)
    (long : ¬Text.fits64 value = true) : parse text =
      .error (.overflow (if value < 0 then Text.least64 else Text.greatest64)) := by
  have unread : Text.integer64? bare = none := by
    rw [Text.integer64?_eq_filter, Text.integer?_of_literal literal, Option.filter_some,
      if_neg long]
  have told : Text.isIntegerLiteral bare = true := Text.isIntegerLiteral_iff.mpr ⟨value, literal⟩
  have nonzero : value ≠ 0 := by
    rintro rfl
    exact long rfl
  simp only [parse, trimmed.eq_trim, unread, if_pos told, literal.head?_eq_minus_iff nonzero]

theorem parse_of_no_literal (none : ∀ value, ¬Text.Literal bare value) :
    parse text = .error (.notInteger text) := by
  have unread : Text.integer64? bare = .none := Option.eq_none_iff_forall_ne_some.mpr
    fun value read => none value (Text.integer64?_eq_some_iff.mp read).1
  have other : ¬Text.isIntegerLiteral bare = true := fun literal => by
    obtain ⟨value, found⟩ := Text.isIntegerLiteral_iff.mp literal
    exact none value found
  simp only [parse, trimmed.eq_trim, unread, if_neg other]

/-- Of an integer beyond three digits the nearest value of 64 bits is reported, whether it is read as
a machine integer or only told as a literal. -/
theorem parse_of_long {value : Int} (literal : Text.Literal bare value)
    (long : ¬(-999 ≤ value ∧ value ≤ 999)) :
    parse text = .error (.overflow (max (-2 ^ 63) (min (2 ^ 63 - 1) value))) := by
  by_cases fits : Text.fits64 value = true
  · have nearest : max (-2 ^ 63) (min (2 ^ 63 - 1) value) = value := by
      rw [Text.fits64_iff] at fits
      omega
    rw [parse_of_fits64 trimmed literal fits, ofInt, dif_neg long, nearest]
  · have nearest : max (-2 ^ 63) (min (2 ^ 63 - 1) value) =
        if value < 0 then Text.least64 else Text.greatest64 := by
      rw [Text.fits64_iff] at fits
      rw [Text.least64, Text.greatest64]
      split <;> omega
    rw [parse_of_not_fits64 trimmed literal fits, nearest]

end Trimmed

/-- Every text has one trimmed form, and is read by the value of this. -/
theorem parsed_by_value (text : String) :
    ∃ bare, (∀ form, Text.Trimmed text.toList form ↔ form = bare) ∧ ReadByValue text bare := by
  have trimmed := Text.trimmed_trim text.toList
  refine ⟨Text.trim text.toList, fun form => ?_, ?_⟩
  · constructor
    · intro other
      exact other.eq_trim.symm
    · rintro rfl
      exact trimmed
  · constructor
    case short =>
      intro value literal lower upper
      have fits : Text.fits64 value = true := Text.fits64_iff value |>.mpr (by omega)
      rw [parse_of_fits64 trimmed literal fits, ofInt, dif_pos ⟨lower, upper⟩]
    case long =>
      intro value literal long
      exact parse_of_long trimmed literal long
    case other =>
      intro none
      exact parse_of_no_literal trimmed none
    case again =>
      intro word _
      exact ⟨isWritten_text word, parse_text word⟩

/-- Leading zeros do not count, a no-break space is blank, and the sign decides which of the two
values of 64 bits is the nearest. -/
theorem wide_card_overflows :
    Word.parse "\u00a0-000000099999999999999999999\r" = .error (.overflow (-2 ^ 63)) := by
  let bare := "-000000099999999999999999999".toList
  obtain ⟨form, unique, read⟩ := parsed_by_value "\u00a0-000000099999999999999999999\r"
  have trimmed : Text.Trimmed "\u00a0-000000099999999999999999999\r".toList bare := by
    refine ⟨⟨['\u00a0'], ['\r'], by decide, ?_, ?_⟩, ?_, ?_⟩
    · exact List.forall_mem_singleton.mpr rfl
    · exact List.forall_mem_singleton.mpr rfl
    · rintro _ ⟨⟩
      rfl
    · rintro _ ⟨⟩
      rfl
  obtain rfl := (unique bare).mp trimmed
  exact read.long (-99999999999999999999) (Text.literal_of_integer? (by decide)) (by decide)

end Cardiac.Word
