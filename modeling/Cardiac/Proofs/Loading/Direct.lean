import Mathlib
import Cardiac.Proofs.Loading.Bootstrap
import Cardiac.Proofs.Machine.Agreement

/-!
# Loading without the loader

A machine may also be loaded by writing the image to its memory. Its first step is then the jump
in cell 2. What the loader leaves is the same machine, but for the address card in cell 1 and
the steps that it has taken, so the program runs in the same way until it looks at cell 1.
-/
namespace Cardiac.Machine

/-- The machine behind the direct loading of an image. -/
def written (machine : Machine Deck) (image : CardImage) : Machine Deck :=
  { machine with
    memory := machine.memory.putAll image.pairs
    registers := { machine.registers with pc := 2 } }

theorem load_eq {machine : Machine Deck} (room : 99 ≤ machine.memory.size) (image : CardImage) :
    machine.load image = (.ok (), machine.written image) := by
  rw [load, Memory.write_eq_putAll room]
  rfl

theorem get_putAll_framed {memory : Memory} (room : 99 ≤ memory.size)
    (body : List (Fin 100 × Word)) (start : Fin 100) :
    (memory.putAll (CardImage.framed body start).pairs).get 2 = .ok (some (.jumpTo start)) := by
  -- whatever the body puts to cell 2, the last pair is written over it
  rw [CardImage.framed, Memory.putAll_append]
  have inside : (memory.putAll ((CardImage.startCell, .jumpTo 0) :: body)).Inside 2 := by
    refine Memory.inside_of_room ?_ (by decide) (by decide)
    rwa [Memory.size_putAll]
  exact Memory.get_put_self inside _

/-- The first step behind direct loading starts the program. -/
theorem step_written {machine : Machine Deck} (room : 99 ≤ machine.memory.size)
    (body : List (Fin 100 × Word)) (start : Fin 100) :
    (machine.written (.framed body start)).step = (.ok ⟨.jump, UInt8.ofNat start⟩,
      (machine.written (.framed body start)).jumped start 3) := by
  have writtenRoom : 99 ≤ (machine.written (.framed body start)).memory.size := by
    rwa [written, Memory.size_putAll]
  exact step_jumpTo writtenRoom (get_putAll_framed room body start) rfl

/-- The two loadings differ in cell 1 and in the number of steps. -/
theorem agreeOff_booted (machine : Machine Deck) {image : CardImage} (some : 0 < image.pairs.length)
    (start : Fin 100) :
    AgreeOff [1] (UInt64.ofNat (3 * image.pairs.length - 1)) (machine.booted image start)
      ((machine.written image).jumped start 3) where
  registers := rfl
  memory := ((Memory.AgreeOff.refl [1] _).put_left (by decide) _).put 99 _
  port := rfl
  policy := rfl
  cycles := by
    -- one of the steps of booting stands against the one step of direct loading
    have count : 3 * image.pairs.length = 1 + (3 * image.pairs.length - 1) := by omega
    have steps := (congrArg UInt64.ofNat count).trans (UInt64.ofNat_add ..)
    simp only [booted, jumped, written, UInt64.add_assoc]
    exact congrArg (machine.cycles + ·) steps
  last := rfl

/-- Whatever the program does, both machines do it alike, up to the step that looks at cell 1:
each step has the same result, even if it fails, and leaves the same registers, cards and cells. -/
theorem boot_and_load_run_alike {source : String} {program : AssembledProgram}
    (accepted : assemble source = .ok program) {config : Config} (room : 99 ≤ config.memorySize)
    (cards : List Card) :
    let machine := fresh (Deck.ofCards cards) config
    let count := 3 * program.image.pairs.length
    let booted := ((machine.boot program.image).stepMany count).2
    let loaded := machine.load program.image
    let direct := loaded.2.step
    booted.1 = none ∧ loaded.1 = .ok () ∧ (∃ instruction, direct.1 = .ok instruction) ∧
    ∀ steps, (∀ earlier < steps, ¬(direct.2.afterSteps earlier).LooksAt 1) →
      (∀ earlier < steps, (booted.2.afterSteps earlier).step.1 =
        (direct.2.afterSteps earlier).step.1) ∧
      AgreeOff [1] (UInt64.ofNat (count - 1)) (booted.2.afterSteps steps)
        (direct.2.afterSteps steps) := by
  intro machine count booted loaded direct
  have memoryRoom : 99 ≤ machine.memory.size := Memory.le_size_ofSize room
  have reader : machine.memory.get 0 = .ok (some .bootstrap) := Memory.get_zero_ofSize _
  obtain ⟨entries, words, start, related, assembled⟩ := Assembly.exists_assembled accepted
  obtain ⟨body, image, -, clear⟩ := assembled.exists_body
  -- both machines are known, so what is left is to run them
  have bootedEq : booted = (none, machine.booted program.image start) := by
    simp only [booted, count, image]
    exact (passes_boot memoryRoom reader clear).stepMany_eq
  have loadedEq : loaded = (.ok (), machine.written program.image) := load_eq memoryRoom _
  have directEq : direct = (.ok ⟨.jump, UInt8.ofNat start⟩,
      (machine.written program.image).jumped start 3) := by
    simp only [direct, loadedEq, image]
    exact step_written memoryRoom body start
  have length : 0 < program.image.pairs.length := by
    rw [image, CardImage.length_framed]
    omega
  have agree := machine.agreeOff_booted length start
  refine ⟨by rw [bootedEq], by rw [loadedEq], ⟨_, by rw [directEq]⟩, ?_⟩
  intro steps unseen
  have apart : ∀ earlier < steps, ∀ address ∈ [(1 : Int)],
      ¬(direct.2.afterSteps earlier).LooksAt address := by
    intro earlier less address member
    rw [List.mem_singleton.mp member]
    exact unseen earlier less
  rw [bootedEq]
  rw [directEq] at apart ⊢
  exact ⟨fun earlier less => agree.result_afterSteps apart less, agree.afterSteps apart⟩

/-- A program whose jump changes cell 99, whose input then fails for want of a second card, and
which goes on behind the failed step. -/
theorem run_alike_past_failure :
    let machine := fresh (Deck.ofCards ["7"]) { memorySize := 99 }
    let image : CardImage := ⟨[(2, .jumpTo 0), (3, ⟨20, by decide, by decide⟩), (4, .jumpTo 3),
      (2, .jumpTo 3)]⟩
    let booted := ((machine.boot image).stepMany 12).2
    let direct := (machine.load image).2.step
    (∀ earlier < 5, (booted.2.afterSteps earlier).step.1 = (direct.2.afterSteps earlier).step.1) ∧
      AgreeOff [1] 11 (booted.2.afterSteps 5) (direct.2.afterSteps 5) := by
  intro machine image booted direct
  have accepted : assemble "INP 20\nJMP 3" = .ok ⟨[], 3, image⟩ := by cbv
  have room : 99 ≤ ({ memorySize := 99 } : Config).memorySize := by decide
  have alike := boot_and_load_run_alike accepted room ["7"]
  exact alike.2.2.2 5 (by decide +kernel)

end Cardiac.Machine
