import Cardiac.Proofs.Memory.Cells

/-! Memories that differ in a few cells at most. Whoever reads none of these cells sees no
difference, and the same writes keep all other cells equal. -/
namespace Cardiac.Memory

/-- The memories have one size and the same cells, except perhaps at the given addresses. -/
structure AgreeOff (excepted : List Int) (first second : Memory) : Prop where
  size : first.size = second.size
  cells : ∀ address ∉ excepted, first.get address = second.get address

namespace AgreeOff

variable {excepted : List Int} {first second : Memory}

theorem refl (excepted : List Int) (memory : Memory) : AgreeOff excepted memory memory :=
  ⟨rfl, fun _ _ => rfl⟩

theorem symm (agree : AgreeOff excepted first second) : AgreeOff excepted second first :=
  ⟨agree.size.symm, fun address other => (agree.cells address other).symm⟩

theorem inside_iff (agree : AgreeOff excepted first second) (address : Int) :
    first.Inside address ↔ second.Inside address := by
  simp only [Inside, agree.size]

/-- A write to both memories, at any address, makes them differ nowhere else. -/
theorem put (agree : AgreeOff excepted first second) (address : Int) (word : Word) :
    AgreeOff excepted (first.put address word) (second.put address word) := by
  refine ⟨by simp only [size_put, agree.size], fun other kept => ?_⟩
  -- at its own address the write makes both memories hold the word, or neither
  by_cases same : other = address
  · subst other
    by_cases inside : first.Inside address
    · rw [get_put_self inside, get_put_self ((agree.inside_iff address).mp inside)]
    · rw [put_of_outside inside, put_of_outside (mt (agree.inside_iff address).mpr inside)]
      exact agree.cells address kept
  · rw [get_put_of_ne same, get_put_of_ne same]
    exact agree.cells other kept

theorem getInt_eq (agree : AgreeOff excepted first second) {address : Int}
    (other : address ∉ excepted) : first.getInt address = second.getInt address := by
  rw [Memory.getInt_eq, Memory.getInt_eq, agree.cells address other]

theorem getText_eq (agree : AgreeOff excepted first second) {address : Int}
    (other : address ∉ excepted) : first.getText address = second.getText address := by
  rw [getText, getText, agree.cells address other]

/-- A write fails for both memories or for neither, and its address may be an excepted one. -/
theorem setReading (agree : AgreeOff excepted first second) (address : Int)
    (reading : Except WordError Word) :
    (∃ error, first.setReading address reading = (.error error, first) ∧
      second.setReading address reading = (.error error, second)) ∨
    ∃ firstWritten secondWritten, first.setReading address reading = (.ok (), firstWritten) ∧
      second.setReading address reading = (.ok (), secondWritten) ∧
      AgreeOff excepted firstWritten secondWritten := by
  by_cases inside : first.Inside address
  · have alsoInside := (agree.inside_iff address).mp inside
    cases reading with
    | error error =>
      exact .inl ⟨_, setReading_of_error inside error, setReading_of_error alsoInside error⟩
    | ok word =>
      exact .inr ⟨_, _, setReading_of_inside inside word, setReading_of_inside alsoInside word,
        agree.put address word⟩
  · -- the error names the size, which the memories share
    have alsoOutside := mt (agree.inside_iff address).mpr inside
    refine .inl ⟨_, setReading_of_outside inside reading, ?_⟩
    rw [setReading_of_outside alsoOutside, agree.size]

/-- A write to an excepted cell of one memory does not show. -/
theorem put_left (agree : AgreeOff excepted first second) {address : Int}
    (member : address ∈ excepted) (word : Word) :
    AgreeOff excepted (first.put address word) second := by
  refine ⟨by simp only [size_put, agree.size], fun other kept => ?_⟩
  have different : other ≠ address := fun same => kept (same ▸ member)
  rw [get_put_of_ne different]
  exact agree.cells other kept

/-- Memories that also hold the same at the excepted addresses are equal. -/
theorem eq_of_get (agree : AgreeOff excepted first second)
    (rest : ∀ address ∈ excepted, first.get address = second.get address) : first = second := by
  refine ext_get agree.size fun address => ?_
  by_cases member : address ∈ excepted
  · exact rest address member
  · exact agree.cells address member

end AgreeOff
end Cardiac.Memory
