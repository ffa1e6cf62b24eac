import Cardiac.Instruction

/-! Decoding takes an instruction word apart into the opcode and operand that it was made of. -/
namespace Cardiac

namespace Word

theorem ofInt_value (word : Word) : ofInt word.value = .ok word := by
  simp [ofInt, word.lower, word.upper]

/-- Every word fits a register. -/
theorem toInt_ofInt_value (word : Word) : (Int64.ofInt word.value).toInt = word.value := by
  have lower := word.lower
  have upper := word.upper
  exact Int64.toInt_ofInt_of_le (by omega) (by omega)

/-- The word of a jump. Of a longer target the last two digits remain. -/
def jumpTo (target : Nat) : Word where
  value := 800 + target % 100
  lower := by omega
  upper := by omega

/-- The word of an address card, which is the instruction that reads the next card to there. -/
def ofAddress (address : Nat) : Word where
  value := address % 100
  lower := by omega
  upper := by omega

theorem value_jumpTo (target : Fin 100) : (jumpTo target).value = 800 + target := by
  simp only [jumpTo]
  omega

theorem eq_jumpTo_iff {word : Word} {target : Fin 100} :
    word = jumpTo target ↔ word.value = 800 + target := by
  constructor
  · rintro rfl
    exact value_jumpTo target
  · intro same
    obtain ⟨value, lower, upper⟩ := word
    rw [← value_jumpTo] at same
    simp only at same
    subst same
    rfl

theorem value_ofAddress (address : Fin 100) : (ofAddress address).value = address := by
  simp only [ofAddress]
  omega

theorem ofInt_jumpTo (target : Fin 100) : ofInt (800 + target) = .ok (jumpTo target) := by
  rw [← value_jumpTo, ofInt_value]

end Word

theorem toNat_ofNat_address (address : Fin 100) : (UInt8.ofNat address).toNat = address.val := by
  rw [UInt8.toNat_ofNat']
  omega

namespace Instruction

/-- An operand is taken if it has two digits. -/
theorem make?_byte? (opcode : Opcode) (value : Int) :
    (byte? value).bind (make? opcode) =
      if 0 ≤ value ∧ value ≤ 99 then some ⟨opcode, UInt8.ofNat value.toNat⟩ else none := by
  unfold byte?
  split
  next byte =>
    have small : UInt8.ofNat value.toNat < 100 ↔ 0 ≤ value ∧ value ≤ 99 := by
      rw [UInt8.lt_iff_toNat_lt, UInt8.toNat_ofNat']
      simp only [UInt8.size] at byte
      simp only [UInt8.reduceToNat]
      omega
    simp only [Option.bind_some, make?, small]
  next long =>
    have outside : ¬(0 ≤ value ∧ value ≤ 99) := by
      simp only [UInt8.size] at long
      omega
    rw [if_neg outside, Option.bind_none]

theorem decode_of_digits (opcode : Opcode) (operand : Nat) (short : operand < 100) :
    decode (100 * opcode.digit + operand) = .ok ⟨opcode, UInt8.ofNat operand⟩ := by
  have hundreds : (100 * opcode.digit + operand : Int) / 100 = opcode.digit := by omega
  have rest : ((100 * opcode.digit + operand : Int) % 100).toNat = operand := by omega
  rw [decode, hundreds, Opcode.ofDigit?_digit, rest]

/-- A word without a minus sign is made of an opcode and an operand. -/
theorem exists_digits {word : Word} (positive : 0 ≤ word.value) :
    ∃ (opcode : Opcode) (operand : Fin 100), word.value = 100 * opcode.digit + operand := by
  have upper := word.upper
  have known : ∀ digit : Fin 10, ∃ opcode ∈ Opcode.all, opcode.digit = digit := by decide
  obtain ⟨opcode, -, digit⟩ := known ⟨(word.value / 100).toNat, by omega⟩
  have hundreds : opcode.digit = (word.value / 100).toNat := digit
  exact ⟨opcode, ⟨(word.value % 100).toNat, by omega⟩, by simp only; omega⟩

theorem eq_of_digit_eq {first second : Opcode} (same : first.digit = second.digit) :
    first = second := by
  have found := Opcode.ofDigit?_digit first
  rw [same, Opcode.ofDigit?_digit] at found
  exact (Option.some.inj found).symm

theorem decode_of_eq {word : Word} {opcode : Opcode} {operand : Fin 100}
    (digits : word.value = 100 * opcode.digit + operand) :
    decode word.value = .ok ⟨opcode, UInt8.ofNat operand⟩ := by
  rw [digits]
  exact decode_of_digits opcode operand operand.isLt

/-- The word that an instruction was decoded from. -/
theorem encode_of_eq {word : Word} {opcode : Opcode} {operand : Fin 100}
    (digits : word.value = 100 * opcode.digit + operand) :
    encode ⟨opcode, UInt8.ofNat operand⟩ = word := by
  obtain ⟨value, lower, upper⟩ := word
  simp only [encode, toNat_ofNat_address, Word.mk.injEq] at digits ⊢
  omega

/-- No opcode has a negative digit. -/
theorem decode_of_negative {raw : Int} (negative : raw < 0) :
    decode raw = .error (.unknownOpcode (raw / 100)) := by
  have unknown : Opcode.ofDigit? (raw / 100) = none := by
    simp only [Opcode.ofDigit?, List.find?_eq_none, decide_eq_true_eq]
    intro opcode _ same
    omega
  simp only [decode, unknown]

theorem decode_encode (instruction : Instruction) (short : instruction.operand.toNat < 100) :
    decode instruction.encode.value = .ok instruction := by
  have decoded := decode_of_digits instruction.opcode instruction.operand.toNat short
  have value : instruction.encode.value =
      100 * instruction.opcode.digit + instruction.operand.toNat := by
    simp only [encode]
    omega
  rw [value, decoded, UInt8.ofNat_toNat]

theorem decode_jumpTo (target : Fin 100) :
    decode (Word.jumpTo target).value = .ok ⟨.jump, UInt8.ofNat target⟩ := by
  rw [Word.value_jumpTo]
  exact decode_of_digits .jump target target.isLt

/-- Only a word of the eight hundreds is decoded to a jump. -/
theorem decode_eq_jump_iff {word : Word} {target : UInt8} :
    decode word.value = .ok ⟨.jump, target⟩ ↔
      ∃ start : Fin 100, word = .jumpTo start ∧ target = UInt8.ofNat start := by
  constructor
  · intro decoded
    by_cases negative : word.value < 0
    · rw [decode_of_negative negative] at decoded
      cases decoded
    · obtain ⟨opcode, operand, digits⟩ := exists_digits (Int.not_lt.mp negative)
      rw [decode_of_eq digits] at decoded
      cases decoded
      exact ⟨operand, Word.eq_jumpTo_iff.mpr digits, rfl⟩
  · rintro ⟨start, rfl, rfl⟩
    exact decode_jumpTo start

theorem decode_ofAddress (address : Fin 100) :
    decode (Word.ofAddress address).value = .ok ⟨.input, UInt8.ofNat address⟩ := by
  have decoded := decode_of_digits .input address address.isLt
  simpa [Opcode.digit, Word.value_ofAddress] using decoded

end Instruction
end Cardiac
