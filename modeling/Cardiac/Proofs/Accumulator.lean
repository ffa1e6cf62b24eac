import Mathlib
import Cardiac.Accumulator

/-!
# Exact arithmetic

An accumulator has at most 19 digits and the shift to the left puts at most nine behind them, so
the shift never leaves 128 bits. Its two halves cancel: what remains is one shift by the difference
of the two digits, to the left or to the right, and the last four digits of that. A sum wraps around
only if its operands are so large that 64 bits cannot hold it, and then it only becomes smaller.
-/
namespace Cardiac.Accumulator

/-- The value, if 128 bits hold it. -/
def wide? (value : Int) : Option Int :=
  if -2 ^ 127 ≤ value ∧ value < 2 ^ 127 then some value else none

/-- The shift in 128 bits: it gives nothing if any value on the way does not fit them. -/
def wideShift? (acc : Accumulator) (operand : UInt8) : Option Accumulator := do
  let power ← wide? (10 ^ (operand.toNat / 10))
  let product ← wide? (acc.toInt * power)
  let divisor ← wide? (10 ^ (operand.toNat % 10))
  let quotient ← wide? (product / divisor)
  let rest ← wide? (quotient % 10000)
  return Int64.ofInt rest

/-- The decimal digit at a place, of which the units have place 0. There are no digits below. -/
def digitAt (value : Nat) (place : Int) : Nat :=
  if 0 ≤ place then (Nat.digits 10 value).getD place.toNat 0 else 0

/-! ### Digits of a shifted number -/

theorem digitAt_natCast (value place : Nat) : digitAt value place = value / 10 ^ place % 10 := by
  rw [digitAt, if_pos (Int.natCast_nonneg place), Int.toNat_natCast,
    Nat.getD_digits value place (by decide)]

theorem digitAt_of_neg {place : Int} (negative : place < 0) (value : Nat) :
    digitAt value place = 0 :=
  if_neg (Int.not_le.mpr negative)

theorem digitAt_mul_pow (value left place : Nat) :
    digitAt (value * 10 ^ left) place = digitAt value (place - left) := by
  rw [digitAt_natCast]
  rcases Nat.lt_or_ge place left with below | above
  · -- the places that have become free hold zeros
    obtain ⟨more, rfl⟩ := Nat.exists_eq_add_of_lt below
    rw [digitAt_of_neg (by omega), Nat.add_assoc, Nat.pow_add, Nat.mul_left_comm,
      Nat.mul_div_cancel_left _ (by positivity), Nat.pow_succ, ← Nat.mul_assoc, Nat.mul_mod_left]
  · obtain ⟨rest, rfl⟩ := Nat.exists_eq_add_of_le above
    have moved : ((left + rest : Nat) : Int) - left = rest := by omega
    rw [moved, digitAt_natCast, Nat.pow_add, Nat.mul_comm value,
      Nat.mul_div_mul_left _ _ (by positivity)]

theorem digitAt_div_pow (value right place : Nat) :
    digitAt (value / 10 ^ right) place = digitAt value (place + right) := by
  rw [← Nat.cast_add, digitAt_natCast, digitAt_natCast, Nat.div_div_eq_div_mul, Nat.add_comm place,
    Nat.pow_add]

theorem digitAt_mod_pow {place count : Nat} (below : place < count) (value : Nat) :
    digitAt (value % 10 ^ count) place = digitAt value place := by
  obtain ⟨more, rfl⟩ := Nat.exists_eq_add_of_lt below
  rw [digitAt_natCast, digitAt_natCast, Nat.add_assoc, Nat.pow_add, Nat.mod_mul_right_div_self,
    Nat.mod_mod_of_dvd _ (Nat.pow_succ' ▸ Nat.dvd_mul_right ..)]

/-! ### Shifts to both sides -/

theorem mul_pow_ediv_pow_of_le (value : Int) {left right : Nat} (le : right ≤ left) :
    value * 10 ^ left / 10 ^ right = value * 10 ^ (left - right) := by
  have split : (10 : Int) ^ left = 10 ^ (left - right) * 10 ^ right := by
    rw [← pow_add, Nat.sub_add_cancel le]
  rw [split, ← Int.mul_assoc, Int.mul_ediv_cancel _ (by positivity)]

theorem mul_pow_ediv_pow_of_lt (value : Int) {left right : Nat} (lt : left < right) :
    value * 10 ^ left / 10 ^ right = value / 10 ^ (right - left) := by
  have split : (10 : Int) ^ right = 10 ^ (right - left) * 10 ^ left := by
    rw [← pow_add, Nat.sub_add_cancel (Nat.le_of_lt lt)]
  rw [split, Int.mul_ediv_mul_of_pos_left _ _ (by positivity)]

theorem floor_div_pow (value : Int) (right : Nat) :
    ⌊(value : ℚ) / 10 ^ right⌋ = value / 10 ^ right := by
  simpa using Rat.floor_intCast_div_natCast value (10 ^ right)

/-- What is kept of the shifted digits fits the accumulator. -/
theorem toInt_shift (acc : Accumulator) (operand : UInt8) : (acc.shift operand).toInt =
    acc.toInt * 10 ^ (operand.toNat / 10) / 10 ^ (operand.toNat % 10) % 10000 :=
  Int64.toInt_ofInt_of_le (by omega) (by omega)

/-! ### Values on the way -/

theorem abs_toInt_le (acc : Accumulator) : |acc.toInt| ≤ 2 ^ 63 := by
  have lower := acc.le_toInt
  have upper := acc.toInt_lt
  rw [abs_le]
  omega

theorem wide?_of_abs_le {value : Int} (short : |value| ≤ 2 ^ 63 * 10 ^ 9) :
    wide? value = some value := by
  rw [abs_le] at short
  exact if_pos (by omega)

theorem abs_pow_ten_le {exponent : Nat} (short : exponent ≤ 9) :
    |(10 : Int) ^ exponent| ≤ 10 ^ 9 := by
  rw [abs_of_nonneg (by positivity)]
  exact pow_le_pow_right₀ (by decide) short

/-- Neither shift can leave the 128 bits, for the product is the greatest value on the way. -/
theorem wideShift?_of_lt (acc : Accumulator) {operand : UInt8} (short : operand.toNat < 100) :
    wideShift? acc operand = some (acc.shift operand) := by
  have power : |(10 : Int) ^ (operand.toNat / 10)| ≤ 10 ^ 9 := abs_pow_ten_le (by omega)
  have divisor : |(10 : Int) ^ (operand.toNat % 10)| ≤ 10 ^ 9 := abs_pow_ten_le (by omega)
  have product : |acc.toInt * 10 ^ (operand.toNat / 10)| ≤ 2 ^ 63 * 10 ^ 9 := by
    rw [abs_mul]
    exact mul_le_mul (abs_toInt_le acc) power (abs_nonneg _) (by decide)
  have quotient := (Int.abs_ediv_le_abs (acc.toInt * 10 ^ (operand.toNat / 10))
    (10 ^ (operand.toNat % 10))).trans product
  have rest (value : Int) : |value % 10000| ≤ 2 ^ 63 * 10 ^ 9 := by
    rw [abs_le]
    omega
  have wide : (10 : Int) ^ 9 ≤ 2 ^ 63 * 10 ^ 9 := by decide
  simp only [wideShift?, wide?_of_abs_le (power.trans wide), wide?_of_abs_le product,
    wide?_of_abs_le (divisor.trans wide), wide?_of_abs_le quotient, wide?_of_abs_le (rest _),
    Option.bind_some, bind, pure]
  rfl

/-! ### Sums -/

theorem toInt_add_of_lt {acc operand : Int64} (small : |acc.toInt| + |operand.toInt| < 2 ^ 63) :
    (add acc operand).toInt = acc.toInt + operand.toInt := by
  have bound := (abs_add_le acc.toInt operand.toInt).trans_lt small
  rw [abs_lt] at bound
  rw [add, Int64.toInt_add, Int.bmod_eq_of_le (by omega) (by omega)]

theorem toInt_subtract_of_lt {acc operand : Int64}
    (small : |acc.toInt| + |operand.toInt| < 2 ^ 63) :
    (subtract acc operand).toInt = acc.toInt - operand.toInt := by
  have bound := (abs_sub acc.toInt operand.toInt).trans_lt small
  rw [abs_lt] at bound
  rw [subtract, Int64.toInt_sub, Int.bmod_eq_of_le (by omega) (by omega)]

/-- Even a sum that wraps around is no larger than its operands together. -/
theorem abs_toInt_add_le (acc operand : Int64) :
    |(add acc operand).toInt| ≤ |acc.toInt| + |operand.toInt| := by
  rcases lt_or_ge (|acc.toInt| + |operand.toInt|) (2 ^ 63) with small | large
  · rw [toInt_add_of_lt small]
    exact abs_add_le ..
  · exact (abs_toInt_le _).trans large

theorem abs_toInt_subtract_le (acc operand : Int64) :
    |(subtract acc operand).toInt| ≤ |acc.toInt| + |operand.toInt| := by
  rcases lt_or_ge (|acc.toInt| + |operand.toInt|) (2 ^ 63) with small | large
  · rw [toInt_subtract_of_lt small]
    exact abs_sub ..
  · exact (abs_toInt_le _).trans large

/-! ### Every accumulator and every operand -/

/-- An operand of two digits shifts an accumulator exactly: to the left if the tens are not less
than the units, and else to the right, where what is cut off is rounded down. Of an accumulator
that is not negative each of the last four digits comes from its place before the shift. -/
theorem shift_exact (acc : Accumulator) (left right : Fin 10) :
    let operand := UInt8.ofNat (10 * left + right)
    let shifted := (acc.shift operand).toInt
    wideShift? acc operand = some (acc.shift operand) ∧
      (right ≤ left → shifted = acc.toInt * 10 ^ (left.val - right.val) % 10000) ∧
      (left < right →
        shifted = ⌊(acc.toInt : ℚ) / 10 ^ (right.val - left.val)⌋ % 10000) ∧
      (0 ≤ shifted ∧ shifted ≤ 9999) ∧
      (0 ≤ acc.toInt → ∀ place : Nat, place < 4 →
        digitAt shifted.toNat place = digitAt acc.toInt.toNat (place - left + right)) := by
  intro operand shifted
  have toNat : operand.toNat = 10 * left + right := by
    rw [UInt8.toNat_ofNat']
    omega
  have tens : operand.toNat / 10 = left := by omega
  have units : operand.toNat % 10 = right := by omega
  have value : shifted = acc.toInt * 10 ^ left.val / 10 ^ right.val % 10000 := by
    rw [← tens, ← units]
    exact toInt_shift acc operand
  refine ⟨wideShift?_of_lt acc (by omega), ?_, ?_, by omega, ?_⟩
  · intro le
    rw [value, mul_pow_ediv_pow_of_le _ le]
  · intro lt
    rw [value, mul_pow_ediv_pow_of_lt _ lt, floor_div_pow]
  · intro positive place below
    obtain ⟨number, same⟩ := Int.eq_ofNat_of_zero_le positive
    have moved : shifted.toNat = number * 10 ^ left.val / 10 ^ right.val % 10 ^ 4 := by
      rw [value, same]
      norm_cast
    rw [moved, same, Int.toNat_natCast, digitAt_mod_pow below, digitAt_div_pow, ← Nat.cast_add,
      digitAt_mul_pow]
    congr 1
    omega

/-- The least accumulator is rounded down to -9223372037, and the greatest, which ends in 5807,
moves its last three digits to the left. -/
theorem extremes_shifted :
    let right := shift Int64.minValue 9
    let left := shift Int64.maxValue 98
    right.toInt = 7963 ∧ digitAt left.toInt.toNat 3 = 8 ∧ digitAt left.toInt.toNat 0 = 0 := by
  intro right left
  obtain ⟨-, -, rounded, -⟩ := shift_exact Int64.minValue 0 9
  obtain ⟨-, -, -, -, digits⟩ := shift_exact Int64.maxValue 9 8
  have positive : 0 ≤ Int64.maxValue.toInt := by decide
  refine ⟨(rounded (by decide)).trans ?_, (digits positive 3 (by decide)).trans ?_,
    (digits positive 0 (by decide)).trans ?_⟩
  · rw [floor_div_pow]
    decide
  · simp [Int64.toInt_maxValue, digitAt]
  · simp [digitAt]

end Cardiac.Accumulator
