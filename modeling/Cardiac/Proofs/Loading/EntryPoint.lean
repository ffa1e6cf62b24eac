import Cardiac.Proofs.CardImage
import Cardiac.Proofs.Loading.Order
import Cardiac.Proofs.Machine.Returning

/-!
# The entry point of an image

The entry point is looked for from the last pair back, and the machine comes to it by writing the
pairs from the first one on and carrying out what is then in cell 2. Both find the word of the last
pair for that cell. It is an entry point exactly if it is a jump, and the machine goes there.
-/
namespace Cardiac

theorem Memory.WrittenInOrder.get_eq {earlier later : Memory} {image : CardImage}
    (written : earlier.WrittenInOrder image.pairs later) (address : Fin 100) :
    later.get address.val =
      match image.lastWord? address with
      | some word => .ok (some word)
      | none => earlier.get address.val := by
  split
  next word found =>
    obtain ⟨front, back, split, final⟩ := CardImage.lastWord?_eq_some found
    exact written.last split final
  next missing =>
    refine written.rest _ fun pair member same => ?_
    exact CardImage.lastWord?_eq_none missing pair member (Fin.ext (by omega))

namespace Machine

variable {Port : Type} [CardPort Port]

/-- With a cell 99 to leave its way back in, a jump from a cell before that one is carried out. -/
theorem step_jump_iff {machine : Machine Port} (room : 99 ≤ machine.memory.size)
    (low : machine.registers.pc.toNat < 99) (target : UInt8) :
    machine.step.1 = .ok ⟨.jump, target⟩ ∧ machine.step.2.registers.pc.toNat = target.toNat ↔
      machine.pending? = some ⟨.jump, target⟩ := by
  constructor
  · rintro ⟨succeeds, -⟩
    exact pending?_of_step succeeds
  · intro pending
    let back : Fin 100 := ⟨machine.registers.pc.toNat + 1, by omega⟩
    have sum : 100 * Opcode.jump.digit + back = 801 + machine.registers.pc.toNat := by
      simp only [back, Opcode.digit]
      omega
    obtain ⟨succeeds, there, -⟩ := leaves_of_jump pending room sum (.inl rfl)
    exact ⟨succeeds, there⟩

/-- What the search for the entry point finds is what direct loading leaves in cell 2, where the
machine then starts. -/
structure StartsAt (image : CardImage) (machine : Machine Port) : Prop where
  room : 99 ≤ machine.memory.size
  pc : machine.registers.pc = 2
  held : machine.memory.get 2 = .ok (image.lastWord? CardImage.startCell)

omit [CardPort Port] in
theorem load_startsAt (port : Port) {config : Config} (room : 99 ≤ config.memorySize)
    (image : CardImage) :
    let loaded := (fresh port config).load image
    loaded.1 = .ok () ∧ StartsAt image loaded.2 := by
  have memoryRoom : 99 ≤ (fresh port config).memory.size := Memory.le_size_ofSize room
  have inside : ∀ pair ∈ image.pairs, (fresh port config).memory.Inside pair.1.val :=
    fun _ _ => Memory.inside_of_room memoryRoom (by omega) (by omega)
  have written := Memory.writtenInOrder_putAll inside
  have unwritten : (fresh port config).memory.get 2 = .ok none :=
    Memory.get_ofSize_of_ne_zero (Memory.inside_of_room memoryRoom (by decide) (by decide))
      (by decide)
  intro loaded
  have loadedEq : loaded = (.ok (), { fresh port config with
      memory := (fresh port config).memory.putAll image.pairs
      registers := { (fresh port config).registers with pc := 2 } }) := load_of_inside inside
  rw [loadedEq]
  refine ⟨rfl, memoryRoom.trans_eq written.size.symm, rfl, ?_⟩
  refine (written.get_eq CardImage.startCell).trans ?_
  cases image.lastWord? CardImage.startCell with
  | some word => rfl
  | none => exact unwritten

/-- The first step behind direct loading jumps to an address exactly if that is the entry point of
the image. There is no entry point exactly if cell 2 is then empty or holds no jump. -/
theorem first_step_takes_entry_point (port : Port) {config : Config}
    (room : 99 ≤ config.memorySize) (image : CardImage) :
    let loaded := (fresh port config).load image
    let machine := loaded.2
    loaded.1 = .ok () ∧
      (∀ target : UInt8,
        machine.step.1 = .ok ⟨.jump, target⟩ ∧
            machine.step.2.registers.pc.toNat = target.toNat ↔
          image.entryPoint?.map Fin.val = some target.toNat) ∧
      (image.entryPoint? = none ↔
        machine.memory.get 2 = .ok none ∨
          ∃ word, machine.memory.get 2 = .ok (some word) ∧
            ∀ target, Instruction.decode word.value ≠ .ok ⟨.jump, target⟩) := by
  intro loaded machine
  obtain ⟨succeeds, starts⟩ := load_startsAt port room image
  have here : machine.registers.pc = 2 := starts.pc
  have held : machine.memory.get 2 = .ok (image.lastWord? CardImage.startCell) := starts.held
  refine ⟨succeeds, ?_, ?_⟩
  · intro target
    have fetched : machine.memory.get machine.registers.pc.toNat =
        .ok (image.lastWord? CardImage.startCell) := by rw [here]; exact held
    rw [step_jump_iff starts.room (by rw [here]; decide), CardImage.entryPoint?_map_eq_some_iff]
    constructor
    · intro pending
      obtain ⟨word, found, decoded⟩ := exists_get_of_pending? pending
      exact ⟨word, Except.ok.inj (fetched.symm.trans found), decoded⟩
    · rintro ⟨word, found, decoded⟩
      exact pending?_of_decode (fetched.trans (congrArg _ found)) decoded
  · rw [CardImage.entryPoint?_eq_none_iff, held]
    cases image.lastWord? CardImage.startCell with
    | none => simp
    | some word => simp

/-- Of two jumps in cell 2 the second is taken, and none if a card without a jump is behind them. -/
theorem second_of_two_jumps_taken :
    let jumps : List (Fin 100 × Word) := [(2, .jumpTo 3), (7, .zero), (2, .jumpTo 45)]
    let loaded (pairs : List (Fin 100 × Word)) :=
      ((fresh Deck.empty { memorySize := 99 }).load ⟨pairs⟩).2
    (loaded jumps).step.1 = .ok ⟨.jump, 45⟩ ∧ (loaded jumps).step.2.registers.pc.toNat = 45 ∧
      (⟨jumps ++ [(2, .zero)]⟩ : CardImage).entryPoint? = none := by
  intro jumps loaded
  have room : 99 ≤ ({ memorySize := 99 } : Config).memorySize := by decide
  obtain ⟨-, taken, -⟩ := first_step_takes_entry_point Deck.empty room ⟨jumps⟩
  obtain ⟨-, -, nothing⟩ := first_step_takes_entry_point Deck.empty room ⟨jumps ++ [(2, .zero)]⟩
  obtain ⟨succeeds, there⟩ := (taken 45).mpr (by decide)
  refine ⟨succeeds, there, nothing.mpr (.inr ⟨.zero, by cbv, ?_⟩)⟩
  intro target decoded
  cases decoded

end Machine
end Cardiac
