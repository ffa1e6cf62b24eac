import Mathlib.Data.List.Basic
import Cardiac.Machine.Basic
import Cardiac.Proofs.Memory.Cells

/-!
# Direct loading, pair by pair

Direct loading writes the pairs of an image one after the other, so of several pairs for one cell
the last one stays. It stops at the first pair for a cell that the memory does not have. Then the
pairs before that one have been written, and the registers are those from before the loading.
-/
namespace Cardiac

namespace Memory

/-- The later memory is the earlier one with the pairs written to it in their order. -/
structure WrittenInOrder (earlier : Memory) (pairs : List (Fin 100 × Word)) (later : Memory) :
    Prop where
  size : later.size = earlier.size
  /-- A cell that pairs are for holds the word of the last of them. -/
  last : ∀ {front back : List (Fin 100 × Word)} {address : Fin 100} {word : Word},
    pairs = front ++ (address, word) :: back → (∀ pair ∈ back, pair.1 ≠ address) →
      later.get address.val = .ok (some word)
  rest : ∀ address : Int, (∀ pair ∈ pairs, (pair.1.val : Int) ≠ address) →
    later.get address = earlier.get address

variable {memory : Memory} {pairs before : List (Fin 100 × Word)} {pair : Fin 100 × Word}

theorem writtenInOrder_putAll (inside : ∀ pair ∈ pairs, memory.Inside pair.1.val) :
    memory.WrittenInOrder pairs (memory.putAll pairs) where
  size := size_putAll memory pairs
  last := by
    rintro front back address word rfl final
    have here : (memory.putAll front).Inside address.val := by
      rw [Inside, size_putAll]
      exact inside (address, word) (by simp)
    -- nothing behind the pair goes to its cell again
    have apart : ∀ pair ∈ back, (pair.1.val : Int) ≠ address.val := by
      intro pair member same
      exact final pair member (Fin.ext (by omega))
    rw [putAll_append]
    exact (get_putAll_of_notMem _ apart).trans (get_put_self here word)
  rest address other := get_putAll_of_notMem memory other

theorem write_of_outside (inside : ∀ earlier ∈ before, memory.Inside earlier.1.val)
    (outside : ¬memory.Inside pair.1.val) (after : List (Fin 100 × Word)) :
    memory.write (before ++ pair :: after) =
      (.error (.outOfRange pair.1.val memory.size), memory.putAll before) := by
  have stops : ¬(memory.putAll before).Inside pair.1.val := by
    rwa [Inside, size_putAll]
  rw [write_append inside, write, set, setReading_of_outside stops, size_putAll]

theorem inside_address_iff (address : Fin 100) :
    memory.Inside address.val ↔ address.val ≤ memory.size := by
  unfold Inside
  omega

/-- Unless the memory has cells for all pairs, there is a first pair without one. -/
theorem exists_first_outside (missing : ¬∀ pair ∈ pairs, memory.Inside pair.1.val) :
    ∃ before pair after, pairs = before ++ pair :: after ∧
      (∀ earlier ∈ before, memory.Inside earlier.1.val) ∧ ¬memory.Inside pair.1.val := by
  have found : (pairs.find? fun pair => ¬memory.Inside pair.1.val).isSome := by
    simpa only [List.find?_isSome, decide_eq_true_eq, not_forall, exists_prop] using missing
  obtain ⟨pair, first⟩ := Option.isSome_iff_exists.mp found
  obtain ⟨outside, before, after, split, earlier⟩ := List.find?_eq_some_iff_append.mp first
  exact ⟨before, pair, after, split, by simpa using earlier, by simpa using outside⟩

end Memory

namespace Machine

variable {Port : Type} {machine : Machine Port} {image : CardImage}

theorem load_of_inside (inside : ∀ pair ∈ image.pairs, machine.memory.Inside pair.1.val) :
    machine.load image = (.ok (), { machine with
      memory := machine.memory.putAll image.pairs
      registers := { machine.registers with pc := 2 } }) := by
  rw [load, Memory.write_of_inside inside]

theorem load_of_outside {before after : List (Fin 100 × Word)} {pair : Fin 100 × Word}
    (split : image.pairs = before ++ pair :: after)
    (inside : ∀ earlier ∈ before, machine.memory.Inside earlier.1.val)
    (outside : ¬machine.memory.Inside pair.1.val) :
    machine.load image = (.error (.outOfRange pair.1.val machine.memory.size),
      { machine with memory := machine.memory.putAll before }) := by
  rw [load, split, Memory.write_of_outside inside outside]

/-- Direct loading succeeds exactly if the memory has a cell for every pair. It then leaves the
pairs in memory and starts at cell 2, and else it reports the first pair without a cell and leaves
the pairs before that one in memory. Nothing else of the machine changes. -/
theorem load_in_order (machine : Machine Port) (image : CardImage) :
    let fits (pair : Fin 100 × Word) := pair.1.val ≤ machine.memory.size
    ((machine.load image).1 = .ok () ↔ ∀ pair ∈ image.pairs, fits pair) ∧
      ((∀ pair ∈ image.pairs, fits pair) →
        ∃ memory, machine.memory.WrittenInOrder image.pairs memory ∧
          (machine.load image).2 =
            { machine with memory, registers := { machine.registers with pc := 2 } }) ∧
      (¬(∀ pair ∈ image.pairs, fits pair) →
        ∃ before pair after memory, image.pairs = before ++ pair :: after ∧
          (∀ earlier ∈ before, fits earlier) ∧ ¬fits pair ∧
          machine.memory.WrittenInOrder before memory ∧
          machine.load image =
            (.error (.outOfRange pair.1.val machine.memory.size), { machine with memory })) := by
  simp only [← Memory.inside_address_iff]
  refine ⟨⟨?_, ?_⟩, ?_, ?_⟩
  · intro ok
    by_contra missing
    obtain ⟨before, pair, after, split, inside, outside⟩ := Memory.exists_first_outside missing
    rw [load_of_outside split inside outside] at ok
    cases ok
  · intro inside
    rw [load_of_inside inside]
  · intro inside
    refine ⟨_, Memory.writtenInOrder_putAll inside, ?_⟩
    rw [load_of_inside inside]
  · intro missing
    obtain ⟨before, pair, after, split, inside, outside⟩ := Memory.exists_first_outside missing
    exact ⟨before, pair, after, _, split, inside, outside, Memory.writtenInOrder_putAll inside,
      load_of_outside split inside outside⟩

/-- A memory of size 3 has a cell 3, which keeps the second of two words, but no cell 4. -/
theorem load_stops_behind_memory :
    let machine := fresh Deck.empty { memorySize := 3 }
    let before : List (Fin 100 × Word) := [(3, .zero), (2, .zero), (3, .bootstrap)]
    let full := machine.load ⟨before⟩
    let cut := machine.load ⟨before ++ [(4, .zero), (3, .zero)]⟩
    full.1 = .ok () ∧ full.2.registers.pc = 2 ∧ full.2.memory.get 3 = .ok (some .bootstrap) ∧
      cut.1 = .error (.outOfRange 4 3) ∧ cut.2.registers = {} ∧
      cut.2.memory.get 3 = .ok (some .bootstrap) := by
  intro machine before full cut
  obtain ⟨succeeds, leaves, -⟩ := load_in_order machine ⟨before⟩
  obtain ⟨-, -, stops⟩ := load_in_order machine ⟨before ++ [(4, .zero), (3, .zero)]⟩
  have fits : ∀ pair ∈ before, pair.1.val ≤ machine.memory.size := by decide
  obtain ⟨memory, written, left⟩ := leaves fits
  obtain ⟨front, pair, after, stored, split, earlier, outside, kept, loaded⟩ := stops (by decide)
  -- the first pair without a cell is the one behind the three others
  have shorter : (front ++ pair :: after).takeWhile (·.1.val ≤ machine.memory.size) = front := by
    rw [List.takeWhile_append_of_pos (by simpa using earlier),
      List.takeWhile_cons_of_neg (by simpa using outside), List.append_nil]
  rw [← split] at shorter
  obtain rfl : front = before := shorter.symm.trans (by decide)
  obtain ⟨rfl, -⟩ := List.cons.inj (List.append_cancel_left split)
  have last : before = [(3, .zero), (2, .zero)] ++ [(3, .bootstrap)] := rfl
  refine ⟨succeeds.mpr fits, ?_, ?_, ?_, ?_, ?_⟩
  · simp only [full, left]
  · simp only [full, left]
    exact written.last last (by simp)
  · simp only [cut, loaded]
    rfl
  · simp only [cut, loaded]
    rfl
  · simp only [cut, loaded]
    exact kept.last last (by simp)

end Machine
end Cardiac
