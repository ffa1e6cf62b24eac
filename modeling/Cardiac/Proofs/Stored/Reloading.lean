import Mathlib.Logic.Relation
import Cardiac.Proofs.Machine.Growth
import Cardiac.Proofs.Memory.Calls
import Cardiac.Proofs.Stored.Forms

/-!
# Machines reload

A memory is well-formed when it is made, by whatever way, and no change that it can go through
takes that from it. So the check that a stored memory must pass, which no change knows of, is
passed by every memory in use, and a machine can be stored at any time and read back.
-/
namespace Cardiac

open Relation Stored

namespace Memory

/-- The ways to come by a memory: it is born with a size, or read back alone or in a machine. -/
inductive Made [RecordReader] : Memory → Prop
  | standard : Made standard
  | ofSize (size : Nat) : Made (ofSize size)
  | read {json : Json} {memory : Memory} (accepted : ofJson json = .ok memory) : Made memory
  | readWithin {json : Json} {machine : Machine Deck} (accepted : Machine.ofJson json = .ok machine) :
      Made machine.memory

/-- One change: a word, an integer or a card is written to a cell, an image is loaded, or a machine
with the memory takes a step or runs. -/
inductive Changed : Memory → Memory → Prop
  -- any of these may fail, and is a change to what it leaves then
  | word (memory : Memory) (address : Int) (word : Word) :
      Changed memory (memory.set address word).2
  | integer (memory : Memory) (address value : Int) :
      Changed memory (memory.setInt address value).2
  | card (memory : Memory) (address : Int) (card : Card) :
      Changed memory (memory.setText address card).2
  | image (memory : Memory) (image : CardImage) : Changed memory (memory.write image.pairs).2
  | step {Port : Type} [CardPort Port] (machine : Machine Port) :
      Changed machine.memory machine.step.2.memory
  | run {Port Seen : Type} [CardPort Port] {observe : Seen → Snapshot → Seen} {seen : Seen}
      {limit : Option Nat} {machine : Machine Port} {done : RunEnd Port Seen}
      (ends : Machine.Ends observe seen limit machine done) : Changed machine.memory done.machine.memory

variable {first memory later : Memory}

theorem Made.wellFormed [RecordReader] [LawfulRecordReader] (made : Made memory) :
    memory.WellFormed := by
  cases made with
  | standard => exact wellFormed_ofSize defaultSize
  | ofSize size => exact wellFormed_ofSize size
  | read accepted => exact wellFormed_of_ofJson accepted
  | readWithin accepted => exact Machine.wellFormed_of_ofJson accepted

theorem Changed.grows (changed : Changed memory later) : memory.Grows later := by
  cases changed with
  | word memory address word => exact .setReading memory address (.ok word)
  | integer memory address value => exact .setReading memory address (Word.ofInt value)
  | card memory address card => exact .setReading memory address (Word.parse card)
  | image memory image => exact .write memory image.pairs
  | step machine => exact machine.grows_step
  | run ends => exact ends.grows

theorem grows_of_reached (reached : ReflTransGen Changed memory later) : memory.Grows later := by
  induction reached with
  | refl => exact .refl memory
  | tail _ changed ih => exact ih.trans changed.grows

/-- What holds of a memory that is reached from a first one. -/
structure Sound [RecordReader] (first memory : Memory) : Prop where
  size : 1 ≤ memory.size ∧ memory.size = first.size
  counted : memory.cells.toList.length = memory.size + 1
  bootstrap : ∃ word, memory.get 0 = .ok (some word)
  words : ∀ word : Word, some word ∈ memory.cells.toList → -999 ≤ word.value ∧ word.value ≤ 999
  kept : ∀ later, ReflTransGen Changed memory later → ∀ (address : Int) (word : Word),
    memory.get address = .ok (some word) → ∃ other, later.get address = .ok (some other)
  reloaded : ofJson memory.toJson = .ok memory
  reloadedWithin : ∀ machine : Machine Deck, machine.memory = memory →
    Machine.ofJson machine.toJson = .ok machine

/-- Whatever a memory goes through, it keeps its size and no cell of it is emptied, and every machine
that it is in is read back as it was stored, by whichever reader. -/
theorem sound_of_reached [RecordReader] [LawfulRecordReader] (made : Made first)
    (reached : ReflTransGen Changed first memory) : Sound first memory := by
  have grows := grows_of_reached reached
  have wellFormed : memory.WellFormed := made.wellFormed.grows grows
  constructor
  case size => exact ⟨wellFormed.positive, grows.size⟩
  case counted => exact memory.cells.length_toList
  case bootstrap => exact wellFormed.bootstrap
  case words =>
    intro word _
    exact ⟨word.lower, word.upper⟩
  case kept =>
    intro later further
    exact (grows_of_reached further).filled
  case reloaded => exact ofJson_toJson wellFormed
  case reloadedWithin =>
    rintro machine rfl
    exact Machine.ofJson_toJson wellFormed

/-- A memory of size 1 is read back, is not given a card that is no word, and comes through a step
that fails for want of a card. -/
theorem reloaded_after_failures :
    let stored : Json := .object [("size", .ofNat 1), ("cells", .array [.integer 1, .null])]
    let memory := ((ofSize 1).setText 1 "x12").2
    let machine := (⟨{}, memory, Deck.empty, .reset, 7, none⟩ : Machine Deck).step.2
    ofJson stored = .ok (ofSize 1) ∧ ReflTransGen Changed (ofSize 1) machine.memory ∧
      Machine.ofJson machine.toJson = .ok machine := by
  intro stored memory machine
  have accepted : ofJson stored = .ok (ofSize 1) := by rfl
  have reached : ReflTransGen Changed (ofSize 1) machine.memory :=
    .tail (.single (.card _ 1 "x12"))
      (.step (⟨{}, memory, Deck.empty, .reset, 7, none⟩ : Machine Deck))
  have sound := sound_of_reached (.read accepted) reached
  exact ⟨accepted, reached, sound.reloadedWithin machine rfl⟩

end Memory
end Cardiac
