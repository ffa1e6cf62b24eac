import Cardiac.Proofs.Stored.Forms

/-!
# Stored memories that are refused

A stored memory is accepted if its cells are those of a memory of its size, and refused with the
size and the number of cells otherwise. There is one exception: the number of cells that the greatest
size asks for is no number of 64 bits, and the program stops when it adds it up, whatever cells there
are. It never stops for a first cell that is missing.
-/
namespace Cardiac

open Stored

namespace MemoryRecord

variable {record : MemoryRecord}

/-- The cells are those of a memory of the size: there is one cell more than the size, which is not
zero, and the first is not empty. -/
structure Consistent (record : MemoryRecord) : Prop where
  positive : 1 ≤ record.size.toNat
  counted : record.cells.length = record.size.toNat + 1
  bootstrap : ∃ word, record.cells.head? = some (some word)

/-- The size is the greatest number of 64 bits. -/
def HasGreatestSize (record : MemoryRecord) : Prop := record.size.toNat + 1 = UInt64.size

theorem hasGreatestSize_iff : record.HasGreatestSize ↔ ¬record.size.toNat + 1 < UInt64.size := by
  have bound : record.size.toNat < UInt64.size := record.size.toNat_lt_size
  unfold HasGreatestSize
  omega

theorem size_ne_zero (greatest : record.HasGreatestSize) : record.size ≠ 0 := by
  rintro zero
  unfold HasGreatestSize at greatest
  rw [zero] at greatest
  exact absurd greatest (by decide)

end MemoryRecord

namespace Memory

/-- What becomes of a record: a memory, the refusal of its layout, or a stop at the sum of its size
and one. -/
inductive Checked (record : MemoryRecord) : Except Panic (Except MemoryError Memory) → Prop where
  | accepted {memory : Memory} (smaller : ¬record.HasGreatestSize) (consistent : record.Consistent)
      (same : memory.record = record) : Checked record (.ok (.ok memory))
  | refused (smaller : ¬record.HasGreatestSize) (inconsistent : ¬record.Consistent) :
      Checked record (.ok (.error (.layout record.size.toNat record.cells.length)))
  | stopped (greatest : record.HasGreatestSize) : Checked record (.error .addOverflow)

theorem checked_ofRecord (record : MemoryRecord) : Checked record (ofRecord record) := by
  unfold ofRecord
  split
  next zero =>
    refine .refused (fun greatest => MemoryRecord.size_ne_zero greatest zero) fun consistent => ?_
    have positive := consistent.positive
    rw [zero] at positive
    exact absurd positive (by decide)
  next ordinary =>
  split
  next countable =>
    have smaller : ¬record.HasGreatestSize := by
      rw [MemoryRecord.hasGreatestSize_iff, not_not]
      exact countable
    split
    next counted =>
      split
      next none =>
        -- one cell more than the size is one cell at least
        rw [List.head?_eq_none_iff.mp none] at counted
        cases counted
      next first =>
        refine .refused smaller ?_
        rintro ⟨-, -, word, other⟩
        rw [first] at other
        cases other
      next word first =>
        have positive : 1 ≤ record.size.toNat :=
          Nat.pos_of_ne_zero fun zero => ordinary (UInt64.toNat_inj.mp zero)
        exact .accepted smaller ⟨positive, counted, word, first⟩ (by simp [Memory.record])
    next miscounted => exact .refused smaller fun consistent => miscounted consistent.counted
  next uncountable => exact .stopped (MemoryRecord.hasGreatestSize_iff.mpr uncountable)

/-- Of all sizes but the greatest, a record is accepted exactly if it is consistent, as the memory that
it is of, and refused for its layout else. The greatest size, and nothing else, stops the program, at
the sum. -/
theorem record_outcomes (record : MemoryRecord) :
    (¬record.HasGreatestSize →
      ((∃ memory, ofRecord record = .ok (.ok memory)) ↔ record.Consistent) ∧
      (∀ memory, ofRecord record = .ok (.ok memory) → memory.record = record) ∧
      (¬record.Consistent →
        ofRecord record = .ok (.error (.layout record.size.toNat record.cells.length)))) ∧
    ∀ panic, ofRecord record = .error panic ↔ panic = .addOverflow ∧ record.HasGreatestSize := by
  have checked := checked_ofRecord record
  generalize ofRecord record = result at checked ⊢
  cases checked with
  | accepted smaller consistent same =>
    refine ⟨fun _ => ⟨iff_of_true ⟨_, rfl⟩ consistent, ?_, fun other => absurd consistent other⟩, ?_⟩
    · rintro _ ⟨⟩
      exact same
    · exact fun panic => iff_of_false nofun fun both => smaller both.2
  | refused smaller inconsistent =>
    refine ⟨fun _ => ⟨iff_of_false ?_ inconsistent, nofun, fun _ => rfl⟩, ?_⟩
    · rintro ⟨memory, accepted⟩
      cases accepted
    · exact fun panic => iff_of_false nofun fun both => smaller both.2
  | stopped greatest =>
    refine ⟨fun smaller => absurd greatest smaller, fun panic => ?_⟩
    constructor
    · rintro ⟨⟩
      exact ⟨rfl, greatest⟩
    · rintro ⟨rfl, -⟩
      rfl

/-- The size next to the greatest is compared with the number of the cells, without a stop. -/
theorem missing_cells_refused :
    let record : MemoryRecord := ⟨18446744073709551614, [some .bootstrap]⟩
    ¬record.HasGreatestSize ∧ ¬record.Consistent ∧
      ofRecord record = .ok (.error (.layout 18446744073709551614 1)) := by
  intro record
  have smaller : ¬record.HasGreatestSize := (by decide : ¬18446744073709551614 + 1 = UInt64.size)
  have inconsistent : ¬record.Consistent := fun consistent => absurd consistent.counted (by decide)
  exact ⟨smaller, inconsistent, ((record_outcomes record).1 smaller).2.2 inconsistent⟩

/-- The greatest size asks for a cell more than can be counted, and the answer to it is no refusal of
the layout. -/
theorem greatest_size_stops :
    let stored : Json := .object [("size", .ofNat 18446744073709551615), ("cells", .array [])]
    let record : MemoryRecord := ⟨18446744073709551615, []⟩
    recordForm.decode stored = .ok record ∧ ¬record.Consistent ∧
      ofRecord record = .error .addOverflow ∧
      ofRecord record ≠ .ok (.error (.layout record.size.toNat record.cells.length)) ∧
      ofJson stored = .error (.stopped .addOverflow) := by
  intro stored record
  have inconsistent : ¬record.Consistent := fun consistent => absurd consistent.counted (by decide)
  have stops : ofRecord record = .error .addOverflow := by cbv
  refine ⟨by rfl, inconsistent, stops, ?_, by rfl⟩
  rw [stops]
  intro refused
  cases refused

end Memory
end Cardiac
