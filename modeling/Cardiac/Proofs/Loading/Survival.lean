import Mathlib
import Cardiac.Proofs.Assembly.Translation
import Cardiac.Proofs.Loading.Direct

/-!
# What is left of a program when it starts

On its way to the program the machine jumps, and every jump writes the way back to cell 99. That
is the last cell the assembler gives to a program: the word of the ninety-seventh line, if there
is one, is lost before the program starts. All other words are where they belong.
-/
namespace Cardiac

namespace Memory

/-- Words that are put to their addresses in order are held there. -/
theorem holds_putAll {memory : Memory} (room : 99 ≤ memory.size) {body : List (Fin 100 × Word)}
    {words : List Word} {first : Nat}
    (places : CardImage.plain body = (words.zipIdx first).map Prod.swap) :
    (memory.putAll body).Holds first words := by
  induction words generalizing memory body first with
  | nil =>
    intro i word found
    simp at found
  | cons head words ih =>
    cases body with
    | nil => simp [CardImage.plain] at places
    | cons pair body =>
      simp only [CardImage.plain, List.map_cons, List.zipIdx_cons, Prod.swap, List.cons.injEq,
        Prod.mk.injEq] at places
      obtain ⟨⟨address, data⟩, places⟩ := places
      intro i word found
      cases i with
      | zero =>
        -- the words behind this one go to greater addresses and leave its cell alone
        have later : ∀ other ∈ body, (other.1.val : Int) ≠ first := by
          intro other member
          have above := Assembly.le_of_mem_places places member
          omega
        have inside : memory.Inside pair.1.val := inside_of_room room (by omega) (by omega)
        have stored : (memory.put pair.1.val pair.2).get first = .ok (some word) := by
          simp only [List.getElem?_cons_zero, Option.some.injEq] at found
          rw [← address, get_put_self inside, data, found]
        exact (get_putAll_of_notMem _ later).trans stored
      | succ i =>
        have nextRoom : 99 ≤ (memory.put pair.1.val pair.2).size := by rwa [size_put]
        have held := ih nextRoom places i word (by simpa using found)
        rwa [Nat.add_right_comm] at held

theorem Holds.put_of_lt {memory : Memory} {first : Nat} {words : List Word}
    (holds : memory.Holds first words) {address : Int} (below : address < first) (word : Word) :
    (memory.put address word).Holds first words := by
  intro i held found
  have apart : ((first + i : Nat) : Int) ≠ address := by omega
  rw [get_put_of_ne apart]
  exact holds i held found

/-- A write over one of the words loses it, unless it is written anew. -/
theorem Holds.put_iff {memory : Memory} {first i : Nat} {words : List Word}
    (holds : memory.Holds first words) (inside : memory.Inside (first + i : Nat)) (word : Word) :
    (memory.put (first + i : Nat) word).Holds first words ↔
      ∀ held, words[i]? = some held → held = word := by
  constructor
  · intro kept held found
    have cell := (kept i held found).symm.trans (get_put_self inside word)
    simpa using cell
  · intro same j held found
    by_cases written : j = i
    · subst written
      rw [get_put_self inside, same held found]
    · have apart : ((first + j : Nat) : Int) ≠ (first + i : Nat) := by omega
      rw [get_put_of_ne apart]
      exact holds j held found

/-- The image of a program puts its words into the cells from cell 3 on. -/
theorem holds_framed {memory : Memory} (room : 99 ≤ memory.size) {body : List (Fin 100 × Word)}
    {words : List Word} (start : Fin 100)
    (places : CardImage.plain body = (words.zipIdx 3).map Prod.swap) :
    (memory.putAll (CardImage.framed body start).pairs).Holds 3 words := by
  have installed : 99 ≤ (memory.put 2 (.jumpTo 0)).size := by rwa [size_put]
  rw [CardImage.framed, putAll_append]
  have below : (2 : Int) < (3 : Nat) := by decide
  exact (holds_putAll installed places).put_of_lt below (.jumpTo start)

end Memory

/-- Of ninety-seven words at most, the one with index 96 is the last. -/
theorem forall_getElem?_iff_getLast? {words : List Word} (bounded : words.length ≤ 97)
    (word : Word) : (∀ held, words[96]? = some held → held = word) ↔
      words.length ≤ 96 ∨ words.getLast? = some word := by
  by_cases short : words.length ≤ 96
  · simp [short]
  · have full : words.length = 97 := by omega
    simp [List.getLast?_eq_getElem?, full]

namespace Machine

/-- The machine has just come to the program. Of the program's words only the one for cell 99
may be missing: the last jump has left its way back there. -/
structure Started (machine : Machine Deck) (start : Nat) (words : List Word)
    (arrived : Machine Deck) : Prop where
  reached : FirstReaches machine start arrived
  kept : ∀ (i : Nat) (word : Word), i ≠ 96 → words[i]? = some word →
    arrived.memory.get (3 + i : Nat) = .ok (some word)
  complete : arrived.memory.Holds 3 words ↔
    words.length ≤ 96 ∨ words.getLast? = some (.jumpTo 3)

theorem started_of_put {machine arrived : Machine Deck} {start : Nat} {words : List Word}
    {memory : Memory} (reached : FirstReaches machine start arrived) (room : 99 ≤ memory.size)
    (bounded : words.length ≤ 97) (holds : memory.Holds 3 words)
    (left : arrived.memory = memory.put 99 (.jumpTo 3)) : Started machine start words arrived where
  reached := reached
  kept := by
    intro i word other found
    have apart : ((3 + i : Nat) : Int) ≠ 99 := by omega
    rw [left, Memory.get_put_of_ne apart]
    exact holds i word found
  complete := by
    have inside : memory.Inside ((3 + 96 : Nat) : Int) :=
      Memory.inside_of_room room (by decide) (by decide)
    rw [left, ← forall_getElem?_iff_getLast? bounded]
    exact holds.put_iff inside (.jumpTo 3)

theorem firstReaches_of_passes {machine arrived : Machine Deck} {count : Nat} {start : Fin 100}
    (passes : Passes InLoader count machine arrived) (above : 3 ≤ start.val)
    (there : arrived.registers.pc = (UInt8.ofNat start).toUInt32) :
    FirstReaches machine start arrived := by
  refine passes.firstReaches ?_ (there ▸ toNat_toUInt32_ofNat start)
  intro passed inLoader
  unfold InLoader at inLoader
  omega

section Framed

variable {machine : Machine Deck} {body : List (Fin 100 × Word)} {words : List Word}
  {start : Fin 100} (room : 99 ≤ machine.memory.size)
  (places : CardImage.plain body = (words.zipIdx 3).map Prod.swap) (bounded : words.length ≤ 97)
  (above : 3 ≤ start.val)

include room places bounded above

theorem started_booted (reader : machine.memory.get 0 = .ok (some .bootstrap))
    (clear : ∀ pair ∈ body, pair.1 ≠ 0 ∧ pair.1 ≠ 2) :
    Started (machine.boot (.framed body start)) start words
      (machine.booted (.framed body start) start) := by
  have reached := firstReaches_of_passes (passes_boot room reader clear) above rfl
  have holds := Memory.holds_framed room start places
  -- the last address card stays below the program
  have below : (1 : Int) < (3 : Nat) := by decide
  have cardHolds := holds.put_of_lt below (.ofAddress 2)
  refine started_of_put reached ?_ bounded cardHolds rfl
  rwa [Memory.size_put, Memory.size_putAll]

theorem started_jumped :
    Started (machine.written (.framed body start)) start words
      ((machine.written (.framed body start)).jumped start 3) := by
  have trampoline : InLoader (machine.written (.framed body start)) := Nat.le_refl 2
  have jump := Passes.next trampoline (step_written room body start) (.done _)
  have reached := firstReaches_of_passes jump above rfl
  refine started_of_put reached ?_ bounded (Memory.holds_framed room start places) rfl
  rwa [Memory.size_putAll]

end Framed

/-- Whatever the assembler accepts, all words but the one for cell 99 are in their cells when the
program starts, and that one is if there is no such line or if it is the jump to cell 3, which
the loading leaves there anyway. -/
theorem words_survive_iff {source : String} {program : AssembledProgram}
    (accepted : assemble source = .ok program) {config : Config} (room : 99 ≤ config.memorySize)
    (cards : List Card) :
    let machine := fresh (Deck.ofCards cards) config
    let loaded := machine.load program.image
    ∃ entries words, Assembly.Translation source entries words program ∧
      (∃ arrived, Started (machine.boot program.image) program.start words arrived) ∧
      loaded.1 = .ok () ∧ ∃ arrived, Started loaded.2 program.start words arrived := by
  intro machine loaded
  have memoryRoom : 99 ≤ machine.memory.size := Memory.le_size_ofSize room
  have reader : machine.memory.get 0 = .ok (some .bootstrap) := Memory.get_zero_ofSize _
  obtain ⟨entries, words, start, related, assembled⟩ := Assembly.exists_assembled accepted
  obtain ⟨body, image, places, clear⟩ := assembled.exists_body
  have bounded : words.length ≤ 97 := assembled.length_words.trans_le assembled.fits.bounded
  have above : 3 ≤ start.val := assembled.firstAddress_le_start
  have loadedEq : loaded = (.ok (), machine.written program.image) := load_eq memoryRoom _
  have booted := started_booted memoryRoom places bounded above reader clear
  have direct := started_jumped memoryRoom places bounded above
  rw [assembled.starts, loadedEq, image]
  exact ⟨entries, words, assembled.translation related, ⟨_, booted⟩, rfl, ⟨_, direct⟩⟩

/-- Data and a jump to cell 3, which the loading itself leaves in cell 99. -/
theorem words_survive_labelled :
    let machine := fresh (Deck.ofCards ["5"]) { memorySize := 99 }
    let image : CardImage := ⟨[(2, .jumpTo 0), (3, .zero), (4, .jumpTo 3), (2, .jumpTo 4)]⟩
    ∃ entries words, Assembly.Translation "x DATA 0\nJMP x" entries words ⟨[("x", 3)], 4, image⟩ ∧
      (∃ arrived, Started (machine.boot image) 4 words arrived) ∧
      (machine.load image).1 = .ok () ∧
      ∃ arrived, Started (machine.load image).2 4 words arrived := by
  intro machine image
  have accepted : assemble "x DATA 0\nJMP x" = .ok ⟨[("x", 3)], 4, image⟩ := by cbv
  have room : 99 ≤ ({ memorySize := 99 } : Config).memorySize := by decide
  exact words_survive_iff accepted room ["5"]

/-- Lines that each hold a halt. -/
def haltLines (count : Nat) : List Char :=
  (List.replicate count ['H', 'R', 'S', ' ', '0', '\n']).flatten

/-- The statements of the lines. -/
def haltStatements (count : Nat) : List Assembly.Statement :=
  (List.range count).map fun index => ⟨index + 1, "HRS 0", ["", "HRS", "0"]⟩

/-- The word of a halt. -/
def haltWord : Word := ⟨900, by decide, by decide⟩

/-- Ninety-seven lines are accepted, and the last of them gets cell 99. -/
theorem assemble_haltLines : ∃ program, assemble (String.ofList (haltLines 97)) = .ok program ∧
    program.image.pairs.length = 99 ∧ program.image.pairs[97]? = some (99, haltWord) := by
  have statements : Assembly.statements (String.ofList (haltLines 97)) = haltStatements 97 := by
    simp only [Assembly.statements, Text.numberedLines, String.toList_ofList]
    decide +kernel
  have checked : (Assembly.ofStatements (haltStatements 97)).toOption.map
      (fun program => (program.image.pairs.length, program.image.pairs[97]?)) =
        some (99, some (99, haltWord)) := by
    decide +kernel
  rw [assemble, statements]
  cases returned : Assembly.ofStatements (haltStatements 97) with
  | error error =>
    rw [returned] at checked
    cases checked
  | ok program =>
    rw [returned] at checked
    simp only [Except.toOption, Option.map_some, Option.some.injEq, Prod.mk.injEq] at checked
    exact ⟨program, rfl, checked⟩

/-- The last line's word, the halt, is not in cell 99 when the program starts. -/
theorem last_halt_lost : ∃ program entries words arrived,
    assemble (String.ofList (haltLines 97)) = .ok program ∧
    Assembly.Translation (String.ofList (haltLines 97)) entries words program ∧
    FirstReaches ((fresh (Deck.ofCards []) {}).boot program.image) program.start arrived ∧
    entries.length = 97 ∧ words[96]? = some haltWord ∧
    arrived.memory.get (3 + 96) = .ok (some (.jumpTo 3)) := by
  obtain ⟨program, accepted, count, last⟩ := assemble_haltLines
  obtain ⟨entries, words, start, related, assembled⟩ := Assembly.exists_assembled accepted
  obtain ⟨body, image, places, clear⟩ := assembled.exists_body
  have length : body.length = 97 := by
    rw [image, CardImage.length_framed] at count
    omega
  have full : words.length = 97 := by
    have lengths := congrArg List.length places
    simpa [CardImage.plain, length] using lengths.symm
  have word : words[96]? = some haltWord := by
    -- behind the pair that installs the loader's jump, the last line's pair has index 97
    have placed : body[96]? = some (99, haltWord) := by
      rw [image, CardImage.framed, List.cons_append, List.getElem?_cons_succ,
        List.getElem?_append_left (by omega)] at last
      exact last
    have plain := congrArg (·[96]?) places
    simpa [CardImage.plain, placed, List.getElem?_zipIdx, Assembly.firstAddress, eq_comm] using plain
  have room : 99 ≤ (fresh (Deck.ofCards []) {}).memory.size := by decide
  have above : 3 ≤ start.val := assembled.firstAddress_le_start
  have started := started_booted room places full.le above (Memory.get_zero_ofSize _) clear
  have inside : (((fresh (Deck.ofCards []) {}).memory.putAll program.image.pairs).put 1
      (.ofAddress 2)).Inside 99 := by
    refine Memory.inside_of_room ?_ (by decide) (by decide)
    rwa [Memory.size_put, Memory.size_putAll]
  refine ⟨program, entries, words, (fresh (Deck.ofCards []) {}).booted program.image start, accepted,
    assembled.translation related, ?_, assembled.length_words.symm.trans full, word,
    Memory.get_put_self inside _⟩
  rw [assembled.starts, image]
  exact started.reached

end Machine
end Cardiac
