import Cardiac.Proofs.Memory.Cells

/-! No write empties a cell or changes the size of a memory. -/
namespace Cardiac.Memory

/-- The later memory has the size of the earlier one, and a word wherever that one has a word. -/
structure Grows (earlier later : Memory) : Prop where
  size : later.size = earlier.size
  filled : ∀ (address : Int) (word : Word), earlier.get address = .ok (some word) →
    ∃ other, later.get address = .ok (some other)

namespace Grows

variable {earlier middle later : Memory}

theorem refl (memory : Memory) : Grows memory memory :=
  ⟨rfl, fun _ word held => ⟨word, held⟩⟩

theorem trans (first : Grows earlier middle) (second : Grows middle later) :
    Grows earlier later := by
  refine ⟨second.size.trans first.size, fun address word held => ?_⟩
  obtain ⟨other, held⟩ := first.filled address word held
  exact second.filled address other held

theorem put (memory : Memory) (address : Int) (word : Word) :
    Grows memory (memory.put address word) := by
  refine ⟨size_put .., fun other old held => ?_⟩
  by_cases same : other = address
  · subst same
    exact ⟨word, get_put_self (inside_of_get held) word⟩
  · exact ⟨old, (get_put_of_ne same word).trans held⟩

theorem setReading (memory : Memory) (address : Int) (reading : Except WordError Word) :
    Grows memory (memory.setReading address reading).2 := by
  rcases written : memory.setReading address reading with ⟨⟨⟩ | ⟨⟩, later⟩
  · rw [eq_of_setReading_error written]
    exact refl memory
  · obtain ⟨word, -, -, rfl⟩ := exists_of_setReading written
    exact put memory address word

/-- Writing pairs keeps what it has written before a pair that fails. -/
theorem write (memory : Memory) (pairs : List (Fin 100 × Word)) :
    Grows memory (memory.write pairs).2 := by
  induction pairs generalizing memory with
  | nil => exact refl memory
  | cons pair rest ih =>
    obtain ⟨address, word⟩ := pair
    have first := setReading memory address.val (.ok word)
    simp only [Memory.write]
    split
    next written done =>
      rw [← Memory.set, done] at first
      exact first.trans (ih written)
    next left done =>
      rw [← Memory.set, done] at first
      exact first

end Grows

/-- What is true of every memory that is made and is never lost: there is an ordinary address, and
cell 0 holds a word. -/
structure WellFormed (memory : Memory) : Prop where
  positive : 1 ≤ memory.size
  bootstrap : ∃ word, memory.get 0 = .ok (some word)

theorem WellFormed.grows {earlier later : Memory} (wellFormed : earlier.WellFormed)
    (grows : Grows earlier later) : later.WellFormed where
  positive := by
    rw [grows.size]
    exact wellFormed.positive
  bootstrap := by
    obtain ⟨word, held⟩ := wellFormed.bootstrap
    exact grows.filled 0 word held

theorem wellFormed_ofSize (size : Nat) : (ofSize size).WellFormed where
  positive := by
    simp only [ofSize]
    omega
  bootstrap := ⟨.bootstrap, get_zero_ofSize size⟩

end Cardiac.Memory
