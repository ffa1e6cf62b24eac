import Mathlib
import Cardiac.Proofs.Assembly.Image
import Cardiac.Proofs.Machine.Stepping
import Cardiac.Proofs.Memory.Agreement
import Cardiac.Proofs.Text.Numerals

/-!
# The bootstrap loader

The loader is the instruction in cell 0, which reads an address card to cell 1. There the card
is the instruction that reads the next card to its address, and behind it the jump in cell 2
goes back to cell 0. So three steps load a pair, and on the way cells 1 and 99 are overwritten:
cell 1 by the address card and cell 99 by the jump's way back. The last pair replaces the jump
in cell 2 by the one that starts the program.
-/
namespace Cardiac

namespace Memory

/-- The three writes with which the loader loads a pair. -/
def loadPair (memory : Memory) (pair : Fin 100 × Word) : Memory :=
  ((memory.put 1 (.ofAddress pair.1)).put pair.1.val pair.2).put 99 (.jumpTo 3)

def loadPairs (memory : Memory) (pairs : List (Fin 100 × Word)) : Memory :=
  pairs.foldl loadPair memory

@[simp] theorem size_loadPair (memory : Memory) (pair : Fin 100 × Word) :
    (memory.loadPair pair).size = memory.size := by
  simp only [loadPair, size_put]

@[simp] theorem size_loadPairs (memory : Memory) (pairs : List (Fin 100 × Word)) :
    (memory.loadPairs pairs).size = memory.size := by
  induction pairs generalizing memory with
  | nil => rfl
  | cons pair rest ih => exact (ih _).trans (size_loadPair ..)

theorem get_loadPair_of_ne (memory : Memory) {pair : Fin 100 × Word} {address : Int}
    (card : address ≠ 1) (back : address ≠ 99) (other : (pair.1.val : Int) ≠ address) :
    (memory.loadPair pair).get address = memory.get address := by
  rw [loadPair, get_put_of_ne back, get_put_of_ne other.symm, get_put_of_ne card]

theorem get_loadPair_card {memory : Memory} (room : 99 ≤ memory.size) {pair : Fin 100 × Word}
    (other : pair.1 ≠ 1) : (memory.loadPair pair).get 1 = .ok (some (.ofAddress pair.1)) := by
  have apart : (1 : Int) ≠ pair.1.val := by omega
  rw [loadPair, get_put_of_ne (by decide), get_put_of_ne apart]
  exact get_put_self (inside_of_room room (by decide) (by decide)) _

theorem get_loadPair_data {memory : Memory} (room : 99 ≤ memory.size) {pair : Fin 100 × Word}
    (other : pair.1 ≠ 99) : (memory.loadPair pair).get pair.1.val = .ok (some pair.2) := by
  have apart : (pair.1.val : Int) ≠ 99 := by omega
  rw [loadPair, get_put_of_ne apart]
  refine get_put_self (inside_of_room ?_ (by omega) (by omega)) _
  rwa [size_put]

theorem get_loadPair_back {memory : Memory} (room : 99 ≤ memory.size) (pair : Fin 100 × Word) :
    (memory.loadPair pair).get 99 = .ok (some (.jumpTo 3)) :=
  get_put_self (inside_of_room (by simpa only [size_put] using room) (by decide) (by decide)) _

/-- Only in cells 1 and 99 does the loader's memory differ from the plainly written one. -/
theorem AgreeOff.loadPairs {first second : Memory} (agree : AgreeOff [1, 99] first second)
    (pairs : List (Fin 100 × Word)) :
    AgreeOff [1, 99] (first.loadPairs pairs) (second.putAll pairs) := by
  induction pairs generalizing first second with
  | nil => exact agree
  | cons pair rest ih =>
    have card : (1 : Int) ∈ [1, 99] := by decide
    have back : (99 : Int) ∈ [1, 99] := by decide
    have data := (agree.put_left card (.ofAddress pair.1)).put pair.1.val pair.2
    exact ih (data.put_left back (.jumpTo 3))

/-- What the loader leaves when its last pair is for cell 2: the pairs, the last address card
in cell 1 and the way back of its last jump in cell 99. -/
theorem loadPairs_concat_startCell {memory : Memory} (room : 99 ≤ memory.size)
    (pairs : List (Fin 100 × Word)) (word : Word) :
    memory.loadPairs (pairs ++ [(CardImage.startCell, word)]) =
      memory.putAll (pairs ++ [(CardImage.startCell, word)] ++
        [(1, .ofAddress 2), (99, .jumpTo 3)]) := by
  have agree := (AgreeOff.refl [1, 99] memory).loadPairs (pairs ++ [(CardImage.startCell, word)])
  have last : memory.loadPairs (pairs ++ [(CardImage.startCell, word)]) =
      (memory.loadPairs pairs).loadPair (CardImage.startCell, word) := List.foldl_append
  have loaderRoom : 99 ≤ (memory.loadPairs pairs).size := by rwa [size_loadPairs]
  have plainRoom : 99 ≤ (memory.putAll (pairs ++ [(CardImage.startCell, word)])).size := by
    rwa [size_putAll]
  rw [putAll_append]
  refine AgreeOff.eq_of_get ((agree.symm.put_left ?_ _).put_left ?_ _).symm ?_
  · decide
  · decide
  -- the cells in which the two loadings differ hold what the last pair left there
  intro address member
  simp only [List.mem_cons, List.not_mem_nil, or_false] at member
  rcases member with rfl | rfl
  · have apart : CardImage.startCell ≠ 1 := by decide
    rw [last, get_loadPair_card loaderRoom apart]
    refine ((get_put_of_ne (by decide) _).trans ?_).symm
    exact get_put_self (inside_of_room plainRoom (by decide) (by decide)) _
  · rw [last, get_loadPair_back loaderRoom]
    refine (get_put_self (inside_of_room ?_ (by decide) (by decide)) _).symm
    simpa only [size_put] using plainRoom

end Memory

theorem Deck.read_of_cons {deck : Deck} {card : Card} {rest : List Card}
    (waiting : deck.input = card :: rest) :
    CardPort.read deck = (some card, { deck with input := rest }) := by
  simp only [CardPort.read, Deck.read, waiting]

namespace Machine

/-- The machine behind a step that has read a card to an address. -/
def cardRead (machine : Machine Deck) (address : Fin 100) (word : Word) (rest : List Card) :
    Machine Deck where
  registers := { machine.registers with
    pc := machine.registers.pc + 1
    ir := Int64.ofInt (Word.ofAddress address).value }
  memory := machine.memory.put address.val word
  port := { machine.port with input := rest }
  policy := machine.policy
  cycles := machine.cycles + 1
  last := some ⟨.input, UInt8.ofNat address⟩

/-- The machine behind a step that has jumped and left the way back. -/
def jumped (machine : Machine Deck) (target back : Fin 100) : Machine Deck where
  registers := { machine.registers with
    pc := (UInt8.ofNat target).toUInt32
    ir := Int64.ofInt (Word.jumpTo target).value }
  memory := machine.memory.put 99 (.jumpTo back)
  port := machine.port
  policy := machine.policy
  cycles := machine.cycles + 1
  last := some ⟨.jump, UInt8.ofNat target⟩

theorem step_addressCard {machine : Machine Deck} {address : Fin 100} {word : Word} {card : Card}
    {rest : List Card} (room : 99 ≤ machine.memory.size)
    (small : machine.registers.pc.toNat ≤ 2)
    (held : machine.memory.get machine.registers.pc.toNat = .ok (some (.ofAddress address)))
    (waiting : machine.port.input = card :: rest) (parsed : Word.parse card = .ok word) :
    machine.step =
      (.ok ⟨.input, UInt8.ofNat address⟩, machine.cardRead address word rest) := by
  have inside : (machine.fetched (.ofAddress address)).memory.Inside (UInt8.ofNat address).toNat := by
    rw [toNat_ofNat_address]
    exact Memory.inside_of_room room (by omega) (by omega)
  rw [step_of_execute held (Instruction.decode_ofAddress address)
    (execute_input (Deck.read_of_cons waiting) parsed inside), toNat_ofNat_address]
  rw [fetched, Registers.advance_of_le (by simp only; omega)]
  rfl

theorem step_jumpTo {machine : Machine Deck} {target back : Fin 100}
    (room : 99 ≤ machine.memory.size)
    (held : machine.memory.get machine.registers.pc.toNat = .ok (some (.jumpTo target)))
    (behind : machine.registers.pc.toNat + 1 = back) :
    machine.step = (.ok ⟨.jump, UInt8.ofNat target⟩, machine.jumped target back) := by
  have inside : (machine.fetched (.jumpTo target)).memory.Inside returnCell :=
    Memory.inside_of_room room (by decide) (by decide)
  have here : (Word.jumpTo back).value =
      800 + (machine.fetched (.jumpTo target)).registers.pc.toNat := by
    rw [fetched, Registers.advance_of_le (by simp only; omega), Word.value_jumpTo, ← behind]
    simp only [UInt32.toNat_add, UInt32.toNat_one]
    omega
  rw [step_of_execute held (Instruction.decode_jumpTo target) (execute_jump inside here)]
  rw [fetched, Registers.advance_of_le (by simp only; omega)]
  rfl

/-- The machine behind the loading of pairs whose last jump goes to the target. -/
def loadedWith (machine : Machine Deck) (pairs : List (Fin 100 × Word)) (target : Fin 100)
    (rest : List Card) : Machine Deck where
  registers := { machine.registers with
    pc := (UInt8.ofNat target).toUInt32
    ir := Int64.ofInt (Word.jumpTo target).value }
  memory := machine.memory.loadPairs pairs
  port := { machine.port with input := rest }
  policy := machine.policy
  cycles := machine.cycles + UInt64.ofNat (3 * pairs.length)
  last := some ⟨.jump, UInt8.ofNat target⟩

/-- The program counter is inside of the loader. -/
def InLoader (machine : Machine Deck) : Prop := machine.registers.pc.toNat ≤ 2

theorem inLoader_of_pc {machine : Machine Deck} {pc : UInt32} (here : machine.registers.pc = pc)
    (inside : pc.toNat ≤ 2) : InLoader machine := by
  rw [InLoader, here]
  exact inside

/-- The instruction in cell 0 reads an address card to cell 1. -/
theorem step_reader {machine : Machine Deck} {address : Fin 100} {rest : List Card}
    (room : 99 ≤ machine.memory.size) (here : machine.registers.pc = 0)
    (reader : machine.memory.get 0 = .ok (some .bootstrap))
    (waiting : machine.port.input = Text.zeroPadded 3 address :: rest) :
    machine.step = (.ok ⟨.input, 1⟩, machine.cardRead 1 (.ofAddress address) rest) := by
  have held : machine.memory.get machine.registers.pc.toNat =
      .ok (some (.ofAddress (1 : Fin 100))) := by
    rw [here]
    exact reader
  exact step_addressCard room (inLoader_of_pc here (by decide)) held waiting
    (Word.parse_addressCard address)

/-- The address card in cell 1 reads a data card to its address. -/
theorem step_card {machine : Machine Deck} {pair : Fin 100 × Word} {rest : List Card}
    (room : 99 ≤ machine.memory.size) (here : machine.registers.pc = 1)
    (card : machine.memory.get 1 = .ok (some (.ofAddress pair.1)))
    (waiting : machine.port.input = pair.2.text :: rest) :
    machine.step = (.ok ⟨.input, UInt8.ofNat pair.1⟩, machine.cardRead pair.1 pair.2 rest) := by
  have held : machine.memory.get machine.registers.pc.toNat = .ok (some (.ofAddress pair.1)) := by
    rw [here]
    exact card
  exact step_addressCard room (inLoader_of_pc here (by decide)) held waiting
    (Word.parse_text pair.2)

/-- The jump in cell 2 leaves the way back to cell 3. -/
theorem step_loaderJump {machine : Machine Deck} {target : Fin 100}
    (room : 99 ≤ machine.memory.size) (here : machine.registers.pc = 2)
    (jump : machine.memory.get 2 = .ok (some (.jumpTo target))) :
    machine.step = (.ok ⟨.jump, UInt8.ofNat target⟩, machine.jumped target 3) := by
  have held : machine.memory.get machine.registers.pc.toNat = .ok (some (.jumpTo target)) := by
    rw [here]
    exact jump
  exact step_jumpTo room held (by rw [here]; rfl)

/-- Three steps load a pair. -/
theorem passes_loadPair {machine : Machine Deck} {pair : Fin 100 × Word} {target : Fin 100}
    {rest : List Card} (room : 99 ≤ machine.memory.size) (start : machine.registers.pc = 0)
    (reader : machine.memory.get 0 = .ok (some .bootstrap))
    (waiting : machine.port.input = Text.zeroPadded 3 pair.1 :: pair.2.text :: rest)
    (jump : (machine.memory.loadPair pair).get 2 = .ok (some (.jumpTo target))) :
    Passes InLoader 3 machine (machine.loadedWith [pair] target rest) := by
  let second := machine.cardRead 1 (.ofAddress pair.1) (pair.2.text :: rest)
  let third := second.cardRead pair.1 pair.2 rest
  have secondPc : second.registers.pc = 1 := congrArg (· + 1) start
  have thirdPc : third.registers.pc = 2 := congrArg (· + 1) secondPc
  have secondRoom : 99 ≤ second.memory.size := room.trans_eq (Memory.size_put ..).symm
  have thirdRoom : 99 ≤ third.memory.size := secondRoom.trans_eq (Memory.size_put ..).symm
  have card : second.memory.get 1 = .ok (some (.ofAddress pair.1)) :=
    Memory.get_put_self (Memory.inside_of_room room (by decide) (by decide)) _
  -- the last of the three writes is not to cell 2, so the jump there is fetched
  have held : third.memory.get 2 = .ok (some (.jumpTo target)) :=
    (Memory.get_put_of_ne (by decide) (.jumpTo 3)).symm.trans jump
  have final : third.jumped target 3 = machine.loadedWith [pair] target rest := by
    simp only [third, second, jumped, cardRead, loadedWith, UInt64.add_assoc]
    rfl
  have started := step_loaderJump thirdRoom thirdPc held
  rw [final] at started
  exact .next (inLoader_of_pc start (by decide)) (step_reader room start reader waiting)
    (.next (inLoader_of_pc secondPc (by decide)) (step_card secondRoom secondPc card rfl)
      (.next (inLoader_of_pc thirdPc (by decide)) started (.done _)))

theorem loadedWith_cons (machine : Machine Deck) (pair : Fin 100 × Word)
    (pairs : List (Fin 100 × Word)) (between target : Fin 100) (cards rest : List Card) :
    (machine.loadedWith [pair] between cards).loadedWith pairs target rest =
      machine.loadedWith (pair :: pairs) target rest := by
  have count : 3 * (pair :: pairs).length = 3 * [pair].length + 3 * pairs.length := by
    simp only [List.length_cons, List.length_nil]
    omega
  rw [loadedWith, loadedWith, loadedWith, count, UInt64.ofNat_add]
  simp only [UInt64.add_assoc]
  rfl

/-- Pairs that leave cells 0 and 2 alone are loaded one after the other, for the jump in cell 2
goes back to cell 0 each time; the jump of the last pair starts the program. -/
theorem passes_loadPairs {machine : Machine Deck} {body : List (Fin 100 × Word)} {start : Fin 100}
    {rest : List Card} (room : 99 ≤ machine.memory.size) (atLoader : machine.registers.pc = 0)
    (reader : machine.memory.get 0 = .ok (some .bootstrap))
    (jump : machine.memory.get 2 = .ok (some (.jumpTo 0)))
    (clear : ∀ pair ∈ body, pair.1 ≠ 0 ∧ pair.1 ≠ 2)
    (waiting : machine.port.input =
      CardImage.cards ⟨body ++ [(CardImage.startCell, .jumpTo start)]⟩ ++ rest) :
    Passes InLoader (3 * (body.length + 1)) machine
      (machine.loadedWith (body ++ [(CardImage.startCell, .jumpTo start)]) start rest) := by
  -- the jump in cell 2 holds its target until the last pair replaces it
  induction body generalizing machine with
  | nil =>
    have notBack : CardImage.startCell ≠ 99 := by decide
    exact passes_loadPair room atLoader reader waiting (Memory.get_loadPair_data room notBack)
  | cons pair body ih =>
    rw [List.forall_mem_cons] at clear
    obtain ⟨⟨notReader, notJump⟩, clear⟩ := clear
    have kept {address : Int} (card : address ≠ 1) (back : address ≠ 99)
        (other : (pair.1.val : Int) ≠ address) :
        (machine.memory.loadPair pair).get address = machine.memory.get address :=
      Memory.get_loadPair_of_ne _ card back other
    have jumpKept : (machine.memory.loadPair pair).get 2 = .ok (some (.jumpTo 0)) :=
      (kept (by decide) (by decide) (by omega)).trans jump
    have readerKept : (machine.memory.loadPair pair).get 0 = .ok (some .bootstrap) :=
      (kept (by decide) (by decide) (by omega)).trans reader
    -- the jump goes back to cell 0 with the cards of the other pairs still to be read
    let behind := CardImage.cards ⟨body ++ [(CardImage.startCell, .jumpTo start)]⟩ ++ rest
    have first : Passes InLoader 3 machine (machine.loadedWith [pair] 0 behind) :=
      passes_loadPair room atLoader reader waiting jumpKept
    have others : Passes InLoader (3 * (body.length + 1)) (machine.loadedWith [pair] 0 behind) _ :=
      ih (room.trans_eq (Memory.size_loadPair ..).symm) rfl readerKept jumpKept clear rfl
    rw [loadedWith_cons] at others
    exact first.trans others

/-- The machine behind booting an image that starts a program. -/
def booted (machine : Machine Deck) (image : CardImage) (start : Fin 100) : Machine Deck where
  registers := { machine.registers with
    pc := (UInt8.ofNat start).toUInt32
    ir := Int64.ofInt (Word.jumpTo start).value }
  memory := ((machine.memory.putAll image.pairs).put 1 (.ofAddress 2)).put 99 (.jumpTo 3)
  port := machine.port
  policy := machine.policy
  cycles := machine.cycles + UInt64.ofNat (3 * image.pairs.length)
  last := some ⟨.jump, UInt8.ofNat start⟩

/-- A framed image is loaded pair by pair, and the input behind it is left as it was. -/
theorem passes_boot {machine : Machine Deck} {body : List (Fin 100 × Word)} {start : Fin 100}
    (room : 99 ≤ machine.memory.size) (reader : machine.memory.get 0 = .ok (some .bootstrap))
    (clear : ∀ pair ∈ body, pair.1 ≠ 0 ∧ pair.1 ≠ 2) :
    Passes InLoader (3 * (CardImage.framed body start).pairs.length)
      (machine.boot (.framed body start)) (machine.booted (.framed body start) start) := by
  have notBack : CardImage.startCell ≠ 99 := by decide
  have installs : (machine.memory.loadPair (CardImage.startCell, .jumpTo 0)).get 2 =
      .ok (some (.jumpTo 0)) := Memory.get_loadPair_data room notBack
  have keeps : (machine.memory.loadPair (CardImage.startCell, .jumpTo 0)).get 0 =
      .ok (some .bootstrap) :=
    (Memory.get_loadPair_of_ne _ (by decide) (by decide) (by decide +revert)).trans reader
  -- the first pair installs the jump back to cell 0 that the others rely on
  let queued := machine.boot (.framed body start)
  let behind := CardImage.cards ⟨body ++ [(CardImage.startCell, .jumpTo start)]⟩ ++
    machine.port.input
  have first : Passes InLoader 3 queued
      (queued.loadedWith [(CardImage.startCell, .jumpTo 0)] 0 behind) :=
    passes_loadPair room rfl reader rfl installs
  have others : Passes InLoader (3 * (body.length + 1))
      (queued.loadedWith [(CardImage.startCell, .jumpTo 0)] 0 behind) _ :=
    passes_loadPairs (room.trans_eq (Memory.size_loadPair ..).symm) rfl keeps installs clear rfl
  have passes := first.trans others
  rw [loadedWith_cons] at passes
  have final : (machine.boot (.framed body start)).loadedWith (CardImage.framed body start).pairs
      start machine.port.input = machine.booted (.framed body start) start := by
    have memory := Memory.loadPairs_concat_startCell room
      ((CardImage.startCell, .jumpTo 0) :: body) (.jumpTo start)
    rw [Memory.putAll_append] at memory
    rw [loadedWith, booted]
    exact congrArg (fun memory => (⟨_, memory, _, _, _, _⟩ : Machine Deck)) memory
  rw [CardImage.length_framed]
  exact final ▸ passes

/-- What has changed when the image of a program is loaded and the program is about to start. -/
structure Loaded (before : Machine Deck) (image : CardImage) (start : Fin 100)
    (after : Machine Deck) : Prop where
  pc : after.registers.pc.toNat = start
  acc : after.registers.acc = before.registers.acc
  input : after.port.input = before.port.input
  output : after.port.output = before.port.output
  cycles : after.cycles.toNat = before.cycles.toNat + 3 * image.pairs.length
  memory : before.memory.write (image.pairs ++ [(1, .ofAddress 2), (99, .jumpTo 3)]) =
    (.ok (), after.memory)

/-- Booting takes three steps for every pair, all of them succeed, and the image is loaded. -/
def BootLoads (machine : Machine Deck) (image : CardImage) (start : Fin 100) : Prop :=
  ∃ after, ((machine.boot image).stepMany (3 * image.pairs.length)).2 = (none, after) ∧
    Loaded machine image start after

theorem toNat_toUInt32_ofNat (address : Fin 100) :
    (UInt8.ofNat address).toUInt32.toNat = address := by
  rw [UInt8.toNat_toUInt32, toNat_ofNat_address]

theorem loaded_booted {machine : Machine Deck} {image : CardImage} {start : Fin 100}
    (room : 99 ≤ machine.memory.size)
    (counter : machine.cycles.toNat + 3 * image.pairs.length < UInt64.size) :
    Loaded machine image start (machine.booted image start) where
  pc := toNat_toUInt32_ofNat start
  acc := rfl
  input := rfl
  output := rfl
  cycles := by
    rw [booted, UInt64.toNat_add, UInt64.toNat_ofNat']
    simp only [UInt64.size] at counter
    omega
  memory := by
    rw [Memory.write_eq_putAll room, Memory.putAll_append]
    rfl

/-- Whatever the body of a framed image is, booting loads it exactly, unless it replaces the
reader in cell 0 or the jump in cell 2. The image of a program never does. -/
theorem boot_loads_exactly {machine : Machine Deck} (room : 99 ≤ machine.memory.size)
    (reader : machine.memory.get 0 = .ok (some .bootstrap)) :
    (∀ (body : List (Fin 100 × Word)) (start : Fin 100),
      (∀ pair ∈ body, pair.1 ≠ 0 ∧ pair.1 ≠ 2) →
      machine.cycles.toNat + 3 * (CardImage.framed body start).pairs.length < UInt64.size →
      machine.BootLoads (.framed body start) start) ∧
    (∀ (source : String) (program : AssembledProgram), assemble source = .ok program →
      machine.cycles.toNat + 3 * program.image.pairs.length < UInt64.size →
      ∃ start : Fin 100, program.start = start ∧ machine.BootLoads program.image start) := by
  have framed (body : List (Fin 100 × Word)) (start : Fin 100)
      (clear : ∀ pair ∈ body, pair.1 ≠ 0 ∧ pair.1 ≠ 2)
      (counter : machine.cycles.toNat + 3 * (CardImage.framed body start).pairs.length < UInt64.size) :
      machine.BootLoads (.framed body start) start :=
    ⟨_, (passes_boot room reader clear).stepMany_eq, loaded_booted room counter⟩
  refine ⟨framed, fun source program accepted counter => ?_⟩
  obtain ⟨entries, words, start, related, assembled⟩ := Assembly.exists_assembled accepted
  obtain ⟨body, image, -, clear⟩ := assembled.exists_body
  rw [image] at counter ⊢
  exact ⟨start, assembled.starts, framed body start clear counter⟩

/-- The body may write a cell twice and may write to the cells that the loader itself uses. -/
theorem boot_loads_repeated_cells :
    let machine := fresh (Deck.ofCards ["-7"]) { memorySize := 99 }
    let body : List (Fin 100 × Word) := [(3, .jumpTo 5), (99, .zero), (1, .zero), (3, .jumpTo 7)]
    machine.BootLoads (.framed body 3) 3 ∧
    ∃ start : Fin 100, 4 = start.val ∧ machine.BootLoads
      ⟨[(2, .jumpTo 0), (3, .zero), (4, ⟨103, by decide, by decide⟩), (2, .jumpTo 4)]⟩ start := by
  intro machine body
  have room : 99 ≤ machine.memory.size := Memory.le_size_ofSize (by decide)
  have reader : machine.memory.get 0 = .ok (some .bootstrap) := Memory.get_zero_ofSize 99
  have loads := boot_loads_exactly room reader
  refine ⟨loads.1 body 3 (by decide) (by decide), ?_⟩
  exact loads.2 "x DATA 0\nCLA x" ⟨[("x", 3)], 4, _⟩ (by cbv) (by decide)

end Machine
end Cardiac
