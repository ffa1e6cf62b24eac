import Mathlib.Data.List.TakeWhile
import Cardiac.Proofs.Instruction
import Cardiac.Proofs.Text.Checked

/-! Written numbers are read back: no digit is blank or a sign, and leading zeros add nothing.
So a word's card and an address card both stand for the word that they were made from. -/
namespace Cardiac

namespace Text

theorem isBlank_of_isDigit {c : Char} (digit : c.isDigit = true) : isBlank c = false := by
  have none : blanks.all (fun blank => !blank.isDigit) = true := by decide
  -- so a digit is not among the blanks
  simp only [isBlank, List.contains_eq_mem, decide_eq_false_iff_not]
  intro member
  have other := List.all_eq_true.mp none c member
  simp [digit] at other

theorem trim_eq_self {text : List Char} (dense : ∀ c ∈ text, isBlank c = false) :
    trim text = text := by
  have front : text.dropWhile isBlank = text := List.dropWhile_eq_self_iff.mpr fun long => by
    simp [dense]
  have back : text.reverse.dropWhile isBlank = text.reverse :=
    List.dropWhile_eq_self_iff.mpr fun long => by simp [dense]
  rw [trim, front, back, List.reverse_reverse]

/-- The digits of a number behind any number of zeros. -/
def paddedDigits (zeros value : Nat) : List Char :=
  List.replicate zeros '0' ++ Nat.toDigits 10 value

theorem isDigit_of_mem_paddedDigits {zeros value : Nat} {c : Char}
    (member : c ∈ paddedDigits zeros value) : c.isDigit = true := by
  rcases List.mem_append.mp member with zero | digit
  · rw [List.eq_of_mem_replicate zero]
    decide
  · exact Nat.isDigit_of_mem_toDigits (by decide) (by decide) digit

theorem natural?_paddedDigits (zeros value : Nat) :
    natural? (paddedDigits zeros value) = some value := by
  have digits : (paddedDigits zeros value).all Char.isDigit = true :=
    List.all_eq_true.mpr fun _ member => isDigit_of_mem_paddedDigits member
  have sum : (paddedDigits zeros value).foldl (fun value c => 10 * value + digitValue c) 0 = value := by
    -- the zeros in front leave the sum at zero, and the digits then add up to the value
    have folded := Nat.ofDigitChars_append (b := 10) (l := List.replicate zeros '0')
      (m := Nat.toDigits 10 value) 0
    rw [Nat.ofDigitChars_replicate_zero, Nat.mul_zero, Nat.ofDigitChars_ten_toDigits] at folded
    exact folded
  rw [natural?, if_pos ⟨by simp [paddedDigits], digits⟩, sum]

theorem integer?_of_isDigit {digits : List Char} (all : ∀ c ∈ digits, c.isDigit = true) :
    integer? digits = (natural? digits).map Int.ofNat := by
  unfold integer?
  -- neither sign is a digit
  split
  · exact absurd (all '+' List.mem_cons_self) (by decide)
  · exact absurd (all '-' List.mem_cons_self) (by decide)
  · rfl

theorem integer?_paddedDigits (zeros value : Nat) :
    integer? (paddedDigits zeros value) = some (value : Int) := by
  rw [integer?_of_isDigit fun _ member => isDigit_of_mem_paddedDigits member,
    natural?_paddedDigits]
  rfl

theorem length_padLeft (width : Nat) (fill : Char) (text : String) :
    (padLeft width fill text).length = max width text.length := by
  rw [padLeft, String.length_append, String.length_ofList, List.length_replicate]
  omega

theorem toList_zeroPadded (width value : Nat) :
    (zeroPadded width value).toList = paddedDigits (width - value.repr.length) value := by
  simp [zeroPadded, padLeft, paddedDigits]

theorem zeroPadded_ne_empty (width value : Nat) : zeroPadded width value ≠ "" := by
  rw [← String.toList_inj.ne, toList_zeroPadded]
  simp [paddedDigits]

theorem isBlank_of_mem_zeroPadded {width value : Nat} {c : Char}
    (member : c ∈ (zeroPadded width value).toList) : isBlank c = false := by
  rw [toList_zeroPadded] at member
  exact isBlank_of_isDigit (isDigit_of_mem_paddedDigits member)

theorem integer64?_of_integer? {text : List Char} {value : Int} (read : integer? text = some value)
    (fits : fits64 value = true) : integer64? text = some value := by
  rw [integer64?_eq_filter, read, Option.filter_some_pos fits]

end Text

namespace Word

/-- A card without blanks that spells a word's value is that word. -/
theorem parse_eq_ok {card : String} {word : Word}
    (dense : ∀ c ∈ card.toList, Text.isBlank c = false)
    (spelled : Text.integer? card.toList = some word.value) : parse card = .ok word := by
  have fits : Text.fits64 word.value = true := by
    have lower := word.lower
    have upper := word.upper
    rw [Text.fits64_iff]
    omega
  simp only [parse, Text.trim_eq_self dense, Text.integer64?_of_integer? spelled fits, ofInt_value]

theorem toList_text (word : Word) : word.text.toList =
    (if word.value < 0 then ['-'] else []) ++
      Text.paddedDigits (3 - word.value.natAbs.repr.length) word.value.natAbs := by
  rw [text, String.toList_append, Text.toList_zeroPadded]
  split <;> rfl

theorem text_ne_empty (word : Word) : word.text ≠ "" := by
  unfold text
  split
  · simp
  · rw [String.empty_append]
    exact Text.zeroPadded_ne_empty 3 _

theorem length_text_le (word : Word) : word.text.length ≤ 4 := by
  have small : word.value.natAbs < 10 ^ 3 := by
    have := word.lower
    have := word.upper
    omega
  have digits := (Nat.length_repr_le_iff (by decide)).mpr small
  unfold text
  rw [String.length_append, Text.zeroPadded, Text.length_padLeft]
  -- one column is for the sign, and three are for the digits
  refine Nat.add_le_add (?_ : _ ≤ 1) (Nat.max_le.mpr ⟨Nat.le_refl 3, digits⟩)
  split <;> decide

theorem isBlank_of_mem_text {word : Word} {c : Char} (member : c ∈ word.text.toList) :
    Text.isBlank c = false := by
  unfold text at member
  split at member
  · rw [String.toList_append, List.mem_append] at member
    rcases member with sign | digit
    · rw [List.mem_singleton.mp sign]
      decide
    · exact Text.isBlank_of_mem_zeroPadded digit
  · rw [String.empty_append] at member
    exact Text.isBlank_of_mem_zeroPadded member

theorem parse_text (word : Word) : parse word.text = .ok word := by
  refine parse_eq_ok (fun c member => isBlank_of_mem_text member) ?_
  rw [toList_text]
  split
  next negative =>
    -- behind the minus sign stand the digits of the absolute value
    simp only [List.singleton_append, Text.integer?, Text.natural?_paddedDigits, Option.map_some]
    congr 1
    simp only [Int.ofNat_eq_natCast]
    omega
  next positive =>
    rw [List.nil_append, Text.integer?_paddedDigits, Int.natAbs_of_nonneg (by omega)]

theorem parse_addressCard (address : Fin 100) :
    parse (Text.zeroPadded 3 address) = .ok (ofAddress address) := by
  refine parse_eq_ok (fun c member => Text.isBlank_of_mem_zeroPadded member) ?_
  rw [Text.toList_zeroPadded, Text.integer?_paddedDigits, value_ofAddress]

end Word
end Cardiac
