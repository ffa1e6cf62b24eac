import Mathlib.Algebra.Group.Int.Defs
import Cardiac.Text.Decimal

/-!
# Integers read with checks

A signed 64-bit integer is read digit by digit, and every step is checked for overflow. A run of
digits moves away from zero all the way, so a step overflows only if the number does: what is read is
the number of the whole literal, if 64 bits hold it. A literal on which this fails is still told from
other texts.
-/
namespace Cardiac.Text

theorem fits64_iff (value : Int) : fits64 value = true ↔ -2 ^ 63 ≤ value ∧ value < 2 ^ 63 := by
  rw [fits64, Bool.and_eq_true, decide_eq_true_eq, decide_eq_true_eq, least64, greatest64]
  omega

theorem checked64_of_fits64 {value : Int} (fits : fits64 value = true) :
    checked64 value = some value := if_pos fits

theorem checked64_of_not_fits64 {value : Int} (long : ¬fits64 value = true) :
    checked64 value = none := if_neg long

/-- A number on the side of a sign. -/
def signed (negative : Bool) (value : Nat) : Int := if negative then -value else value

theorem fits64_signed_of_le {negative : Bool} {less more : Nat} (le : less ≤ more)
    (fits : fits64 (signed negative more) = true) : fits64 (signed negative less) = true := by
  rw [fits64_iff] at fits ⊢
  cases negative <;> simp only [signed, Bool.false_eq_true, if_true, if_false] at fits ⊢ <;> omega

theorem digit64?_signed_of_isDigit {negative : Bool} {c : Char} (digit : c.isDigit = true)
    (value : Nat) : digit64? negative (signed negative value) c =
      checked64 (signed negative (10 * value + digitValue c)) := by
  have shifted : 10 * signed negative value = signed negative (10 * value) := by
    cases negative <;> simp only [signed, Bool.false_eq_true, if_true, if_false] <;> omega
  have moved : (if negative then signed negative (10 * value) - digitValue c
      else signed negative (10 * value) + digitValue c) =
      signed negative (10 * value + digitValue c) := by
    cases negative <;> simp only [signed, Bool.false_eq_true, if_true, if_false] <;> omega
  by_cases fits : fits64 (signed negative (10 * value)) = true
  · simp only [digit64?, digit?, if_pos digit, shifted, checked64_of_fits64 fits,
      Option.bind_eq_bind, Option.bind_some, moved]
  · -- a number that overflows already does so with another digit
    have long : ¬fits64 (signed negative (10 * value + digitValue c)) = true :=
      fun more => fits (fits64_signed_of_le (Nat.le_add_right ..) more)
    simp only [digit64?, shifted, checked64_of_not_fits64 fits, Option.bind_eq_bind,
      Option.bind_none, checked64_of_not_fits64 long]

theorem digit64?_of_not_isDigit {negative : Bool} {c : Char} (other : ¬c.isDigit = true)
    (value : Int) : digit64? negative value c = none := by
  simp only [digit64?, digit?, if_neg other, Option.bind_eq_bind, Option.bind_none,
    Option.bind_fun_none]

theorem le_ofDigitChars (digits : List Char) (value : Nat) :
    value ≤ Nat.ofDigitChars 10 digits value := by
  induction digits generalizing value with
  | nil => exact Nat.le_of_eq Nat.ofDigitChars_nil.symm
  | cons c rest ih =>
    rw [Nat.ofDigitChars_cons]
    exact Nat.le_trans (by omega) (ih _)

/-- The chain of checked steps gives the number of the whole run, if 64 bits hold it. -/
theorem foldlM_digit64? {negative : Bool} (digits : List Char) {value : Nat}
    (fits : fits64 (signed negative value) = true) :
    digits.foldlM (digit64? negative) (signed negative value) =
      if digits.all Char.isDigit then checked64 (signed negative (Nat.ofDigitChars 10 digits value))
      else none := by
  induction digits generalizing value with
  | nil => simp [checked64_of_fits64 fits]
  | cons c rest ih =>
    rw [List.foldlM_cons, List.all_cons, Nat.ofDigitChars_cons]
    by_cases digit : c.isDigit = true
    · rw [digit64?_signed_of_isDigit digit, digit, Bool.true_and]
      by_cases next : fits64 (signed negative (10 * value + digitValue c)) = true
      · rw [checked64_of_fits64 next, Option.bind_eq_bind, Option.bind_some]
        exact ih next
      · -- the rest of the run cannot bring the number back
        have long : ¬fits64 (signed negative
            (Nat.ofDigitChars 10 rest (10 * value + digitValue c))) = true :=
          fun all => next (fits64_signed_of_le (le_ofDigitChars ..) all)
        rw [checked64_of_not_fits64 next, Option.bind_eq_bind, Option.bind_none]
        exact (ite_eq_right_iff.mpr fun _ => checked64_of_not_fits64 long).symm
    · rw [digit64?_of_not_isDigit digit, Option.bind_eq_bind, Option.bind_none]
      simp [digit]

theorem foldlM_digit64?_zero {negative : Bool} {digits : List Char} (nonempty : digits ≠ []) :
    digits.foldlM (digit64? negative) 0 =
      ((natural? digits).map (signed negative)).filter fits64 := by
  have zero : signed negative 0 = 0 := by cases negative <;> rfl
  have fits : fits64 (signed negative 0) = true := by
    rw [zero]
    rfl
  have chain := foldlM_digit64? digits fits
  rw [zero] at chain
  rw [chain, natural?]
  by_cases all : digits.all Char.isDigit = true
  · rw [if_pos all, if_pos ⟨nonempty, all⟩]
    exact (Option.filter_some ..).symm
  · rw [if_neg all, if_neg fun both => all both.2]
    rfl

/-- What is read with checks is what a literal stands for, if 64 bits hold it. -/
theorem integer64?_eq_filter (text : List Char) : integer64? text = (integer? text).filter fits64 := by
  fun_cases integer64? text with
  | case1 => rfl
  | case2 => rfl
  | case3 => rfl
  | case4 digits alone =>
    rw [foldlM_digit64?_zero fun empty => alone (empty ▸ rfl)]
    rfl
  | case5 digits alone =>
    rw [foldlM_digit64?_zero fun empty => alone (empty ▸ rfl)]
    rfl
  | case6 digits nonempty plus minus positive negative =>
    rw [foldlM_digit64?_zero nonempty, integer?.eq_3 text positive negative]
    rfl

end Cardiac.Text
