import Mathlib.Algebra.Group.Int.Defs
import Cardiac.Proofs.Text.Numerals

/-!
# Integer literals

A literal is an optional single sign and one or more decimal digits. The grammar is given here apart
from the reader, and the reader takes exactly the literals, each at its value, however many digits it
has.
-/
namespace Cardiac.Text

/-- The text is one or more digits, which have this value. -/
structure Digits (text : List Char) (value : Nat) : Prop where
  nonempty : text ≠ []
  digits : ∀ c ∈ text, c.isDigit = true
  sum : Nat.ofDigitChars 10 text 0 = value

inductive Literal : List Char → Int → Prop where
  | unsigned {text : List Char} {value : Nat} : Digits text value → Literal text value
  | positive {text : List Char} {value : Nat} : Digits text value → Literal ('+' :: text) value
  | negative {text : List Char} {value : Nat} : Digits text value → Literal ('-' :: text) (-value)

theorem natural?_eq_some_iff {text : List Char} {value : Nat} :
    natural? text = some value ↔ Digits text value := by
  rw [natural?, Option.ite_none_right_eq_some, List.all_eq_true, Option.some.injEq]
  constructor
  · rintro ⟨⟨nonempty, digits⟩, sum⟩
    exact ⟨nonempty, digits, sum⟩
  · intro number
    exact ⟨⟨number.nonempty, number.digits⟩, number.sum⟩

theorem literal_of_integer? {text : List Char} {value : Int} (read : integer? text = some value) :
    Literal text value := by
  revert read
  fun_cases integer? text with
  | case1 digits =>
    rw [Option.map_eq_some_iff]
    rintro ⟨number, found, rfl⟩
    exact .positive (natural?_eq_some_iff.mp found)
  | case2 digits =>
    rw [Option.map_eq_some_iff]
    rintro ⟨number, found, rfl⟩
    exact .negative (natural?_eq_some_iff.mp found)
  | case3 =>
    rw [Option.map_eq_some_iff]
    rintro ⟨number, found, rfl⟩
    exact .unsigned (natural?_eq_some_iff.mp found)

theorem integer?_of_literal {text : List Char} {value : Int} (literal : Literal text value) :
    integer? text = some value := by
  cases literal with
  | unsigned number =>
    rw [integer?_of_isDigit number.digits, natural?_eq_some_iff.mpr number]
    rfl
  | positive number =>
    rw [integer?, natural?_eq_some_iff.mpr number]
    rfl
  | negative number =>
    rw [integer?, natural?_eq_some_iff.mpr number]
    rfl

/-- The reader takes the literals and nothing else. -/
theorem integer?_eq_some_iff {text : List Char} {value : Int} :
    integer? text = some value ↔ Literal text value :=
  ⟨literal_of_integer?, integer?_of_literal⟩

/-- A machine integer is read off a literal unless its value has more than 64 bits. -/
theorem integer64?_eq_some_iff {text : List Char} {value : Int} :
    integer64? text = some value ↔ Literal text value ∧ -2 ^ 63 ≤ value ∧ value < 2 ^ 63 := by
  rw [integer64?_eq_filter, Option.filter_eq_some_iff, integer?_eq_some_iff, fits64_iff]

theorem unsigned_of_isDigit {digits : List Char} (all : ∀ c ∈ digits, c.isDigit = true) :
    unsigned digits = digits := by
  unfold unsigned
  split
  · exact absurd (all '-' List.mem_cons_self) (by decide)
  · exact absurd (all '+' List.mem_cons_self) (by decide)
  · rfl

theorem isIntegerLiteral_of_digits {text : List Char} {value : Nat}
    (number : Digits (unsigned text) value) : isIntegerLiteral text = true := by
  rw [isIntegerLiteral, Bool.and_eq_true, decide_eq_true_eq, List.all_eq_true]
  exact ⟨number.nonempty, number.digits⟩

theorem exists_literal_of_digits {text : List Char} {value : Nat}
    (number : Digits (unsigned text) value) : ∃ value, Literal text value := by
  revert number
  fun_cases unsigned text with
  | case1 digits => exact fun number => ⟨_, .negative number⟩
  | case2 digits => exact fun number => ⟨_, .positive number⟩
  | case3 => exact fun number => ⟨_, .unsigned number⟩

/-- The test for a literal finds the texts that have a value, however great. -/
theorem isIntegerLiteral_iff {text : List Char} :
    isIntegerLiteral text = true ↔ ∃ value, Literal text value := by
  constructor
  · intro literal
    rw [isIntegerLiteral, Bool.and_eq_true, decide_eq_true_eq, List.all_eq_true] at literal
    exact exists_literal_of_digits ⟨literal.1, literal.2, rfl⟩
  · rintro ⟨_, number | number | number⟩
    · exact isIntegerLiteral_of_digits ((unsigned_of_isDigit number.digits).symm ▸ number)
    · exact isIntegerLiteral_of_digits number
    · exact isIntegerLiteral_of_digits number

/-- Behind a minus sign stands no positive number, and a negative number stands behind one. -/
theorem Literal.head?_eq_minus_iff {text : List Char} {value : Int} (literal : Literal text value)
    (nonzero : value ≠ 0) : text.head? = some '-' ↔ value < 0 := by
  cases literal with
  | unsigned number =>
    refine ⟨fun minus => ?_, fun negative => by omega⟩
    have digit := number.digits '-' (List.mem_of_mem_head? minus)
    exact absurd digit (by decide)
  | positive number =>
    refine ⟨fun minus => ?_, fun negative => by omega⟩
    cases minus
  | negative number => exact ⟨fun _ => by omega, fun _ => rfl⟩

end Cardiac.Text
