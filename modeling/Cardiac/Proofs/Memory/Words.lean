import Mathlib.Data.List.Sort
import Mathlib.Data.List.Zip
import Cardiac.Listing
import Cardiac.Proofs.Memory.Cells

/-! The words of a range of memory: those that a read gives at its addresses, each once and in
the order of the addresses. -/
namespace Cardiac.Memory

/-- The cells are those of a range that hold words, in the order of their addresses. -/
structure Occupied (memory : Memory) (start stop : Nat) (cells : List (Nat × Word)) : Prop where
  ascending : cells.Pairwise (·.1 < ·.1)
  mem_iff : ∀ address word, (address, word) ∈ cells ↔
    start ≤ address ∧ address < stop ∧ memory.get address = .ok (some word)

theorem get_eq_ok_iff (memory : Memory) (address : Nat) (cell : Option Word) :
    memory.get address = .ok cell ↔ memory.cells.toList[address]? = some cell := by
  by_cases inside : memory.Inside address
  · have bound : address < memory.cells.toList.length := by
      rw [Vector.length_toList]
      exact toNat_lt_of_inside inside
    rw [get_of_inside inside, List.getElem?_eq_getElem bound, Except.ok.injEq, Option.some.injEq]
    rfl
  · have bound : memory.cells.toList.length ≤ address := by
      rw [Vector.length_toList]
      unfold Inside at inside
      omega
    rw [get_of_outside inside, List.getElem?_eq_none bound]
    simp

theorem mem_dump_iff {memory : Memory} {start count address : Nat} {cell : Option Word} :
    (address, cell) ∈ memory.dump start count ↔
      start ≤ address ∧ address < start + count ∧ memory.get address = .ok cell := by
  simp only [dump, List.mem_map, Prod.exists, Prod.mk.injEq, get_eq_ok_iff]
  constructor
  · rintro ⟨_, _, member, rfl, rfl⟩
    obtain ⟨i, found⟩ := List.mem_iff_getElem?.mp member
    rw [List.getElem?_drop, List.getElem?_take, List.getElem?_zipIdx] at found
    split at found
    next counted =>
      obtain ⟨_, held, same⟩ := Option.map_eq_some_iff.mp found
      cases same
      unfold saturatingAdd at counted
      rw [Nat.zero_add]
      exact ⟨by omega, by omega, held⟩
    · cases found
  · rintro ⟨above, below, held⟩
    have inside := inside_of_get ((get_eq_ok_iff ..).mpr held)
    -- the cells can be counted, so the saturated end is behind each of them
    have counted : address < min (saturatingAdd start count) (memory.size + 1) := by
      have countable := memory.countable
      unfold Inside at inside
      unfold saturatingAdd
      omega
    refine ⟨cell, address, List.mem_iff_getElem?.mpr ⟨address - start, ?_⟩, rfl, rfl⟩
    rw [List.getElem?_drop, Nat.add_sub_cancel' above, List.getElem?_take, if_pos counted,
      List.getElem?_zipIdx, held, Option.map_some, Nat.zero_add]

/-- The addresses of a range, as far as there are cells. -/
theorem map_fst_dump (memory : Memory) (start count : Nat) :
    (memory.dump start count).map Prod.fst =
      List.range' start (min count (memory.size + 1 - start)) := by
  have numbers : memory.cells.toList.zipIdx.map Prod.snd = List.range' 0 (memory.size + 1) := by
    rw [List.zipIdx_map_snd, Vector.length_toList]
  have cut : (memory.dump start count).map Prod.fst =
      ((memory.cells.toList.zipIdx.map Prod.snd).take
        (min (saturatingAdd start count) (memory.size + 1))).drop start := by
    rw [dump, List.map_map, ← List.map_take, ← List.map_drop]
    rfl
  have countable := memory.countable
  have rest : min (saturatingAdd start count) (memory.size + 1) - start =
      min count (memory.size + 1 - start) := by
    unfold saturatingAdd
    omega
  rw [cut, numbers, List.take_range'_of_length_ge (Nat.min_le_right ..), List.drop_range', rest,
    Nat.zero_add, Nat.mul_one]

theorem pairwise_dump (memory : Memory) (start count : Nat) :
    (memory.dump start count).Pairwise (·.1 < ·.1) := by
  refine List.pairwise_map.mp (?_ : ((memory.dump start count).map Prod.fst).Pairwise (· < ·))
  rw [map_fst_dump]
  exact List.pairwise_lt_range'

theorem occupied_words (memory : Memory) (start stop : Nat) :
    memory.Occupied start stop (memory.words start stop) where
  ascending := by
    -- the words taken out of the cells keep their order
    refine (memory.pairwise_dump start (stop - start)).filterMap _ ?_
    rintro ⟨_, _⟩ ⟨_, _⟩ before first same second other
    obtain ⟨_, _, rfl⟩ := Option.map_eq_some_iff.mp same
    obtain ⟨_, _, rfl⟩ := Option.map_eq_some_iff.mp other
    exact before
  mem_iff address word := by
    simp only [words, List.mem_filterMap, Prod.exists, mem_dump_iff]
    constructor
    · rintro ⟨_, _, ⟨above, below, held⟩, same⟩
      obtain ⟨_, rfl, same⟩ := Option.map_eq_some_iff.mp same
      cases same
      exact ⟨above, by omega, held⟩
    · rintro ⟨above, below, held⟩
      exact ⟨address, some word, ⟨above, by omega, held⟩, rfl⟩

/-- In a range without empty cells every word has the address that its place gives it. -/
theorem Occupied.swap_zipIdx {memory : Memory} {start stop : Nat} {cells : List (Nat × Word)}
    (occupied : memory.Occupied start stop cells)
    (full : ∀ address : Nat, start ≤ address → address < stop → memory.get address ≠ .ok none) :
    ((cells.map Prod.snd).zipIdx start).map Prod.swap = cells := by
  have ascending : (cells.map Prod.fst).Pairwise (· < ·) := List.pairwise_map.mpr occupied.ascending
  have addresses : cells.map Prod.fst =
      List.range' start (min stop (memory.size + 1) - start) := by
    refine ascending.eq_of_mem_iff List.pairwise_lt_range' fun address => ?_
    simp only [List.mem_map, Prod.exists, exists_and_right, exists_eq_right, occupied.mem_iff,
      List.mem_range'_1]
    constructor
    · rintro ⟨word, above, below, held⟩
      have inside := inside_of_get held
      unfold Inside at inside
      omega
    · rintro ⟨above, below⟩
      have inside : memory.Inside address := by
        unfold Inside
        omega
      obtain ⟨cell, held⟩ := exists_get_of_inside inside
      cases cell with
      | none => exact absurd held (full address above (by omega))
      | some word => exact ⟨word, above, by omega, held⟩
  have count : min stop (memory.size + 1) - start = cells.length := by
    simpa using (congrArg List.length addresses).symm
  rw [List.zipIdx_eq_zip_range', List.zip_swap, List.length_map]
  rw [count] at addresses
  exact (List.zip_of_prod addresses rfl).symm

end Cardiac.Memory
