import Cardiac.CommandLine.Commands
import Cardiac.Proofs.Cards.Written
import Cardiac.Proofs.CommandLine.Disk
import Cardiac.Proofs.Machine.Punching

/-!
# Output decks that are saved and loaded

The machine punches the texts of words and, for a cell that nothing has been written to, an empty
card. In a deck file an empty card is a blank line, and blank lines hold no card: it is the only
card that is lost when the output of a run is saved and loaded as the input of another.
-/
namespace Cardiac

open CommandLine

/-- A card that the machine can punch. -/
def IsPunched (card : Card) : Prop := card = "" ∨ ∃ word : Word, card = word.text

theorem IsPunched.dense {card : Card} (punched : IsPunched card) :
    ∀ c ∈ card.toList, Text.isBlank c = false := by
  intro c inside
  rcases punched with rfl | ⟨word, rfl⟩
  · simp at inside
  · exact Word.isBlank_of_mem_text inside

theorem Machine.isPunched_of_punched? {Port : Type} {machine : Machine Port} {card : Card}
    (punches : machine.punched? = some card) : IsPunched card := by
  obtain ⟨operand, -, text⟩ := punched?_eq_some_iff.mp punches
  rcases Memory.getText_eq_ok_iff.mp text with ⟨-, rfl⟩ | ⟨word, -, rfl⟩
  · exact .inl rfl
  · exact .inr ⟨word, rfl⟩

namespace Deck

/-- What becomes of a tray that is saved to a deck file, and when all of it comes back. -/
structure SurvivesSaving (deck : Deck) (whole : Prop) : Prop where
  punched : ∀ card ∈ deck.output.toList, IsPunched card
  kept : cardsOfText (textOfCards deck.output.toList) = deck.output.toList.filter (· ≠ "")
  same : cardsOfText (textOfCards deck.output.toList) = deck.output.toList ↔ whole
  /-- The output file of a run is the tray's text. -/
  saved : ∀ {disk saved : Disk} {path : String} {options : RunOptions},
    options.outputFile = some path →
    disk.write path (textOfCards deck.output.toList) = .ok saved →
    ∀ (next : Script) (output errors : String),
      (Script.saveOutput options deck next).runOn disk output errors =
        (Script.printLine ("💾 Output cards saved to " ++ path) next).runOn saved output errors
  /-- As the input file of another run it gives the cards that are not empty. -/
  loaded : ∀ {disk saved : Disk} {path : String} {options : MachineOptions},
    options.inputFile = some path →
    disk.write path (textOfCards deck.output.toList) = .ok saved →
    ∀ (next : List Card → Script) (output errors : String),
      (Script.loadInput options next).runOn saved output errors =
        (next (options.input ++ deck.output.toList.filter (· ≠ ""))).runOn saved output errors

theorem survivesSaving {deck : Deck} {whole : Prop}
    (punched : ∀ card ∈ deck.output.toList, IsPunched card)
    (filled : "" ∉ deck.output.toList ↔ whole) : SurvivesSaving deck whole := by
  have kept : cardsOfText (textOfCards deck.output.toList) =
      deck.output.toList.filter (· ≠ "") :=
    cardsOfText_textOfCards fun card member => (punched card member).dense
  refine ⟨punched, kept, ?_, ?_, ?_⟩
  · rw [kept, List.filter_eq_self, ← filled]
    constructor
    · intro all empty
      simpa using all "" empty
    · intro none card member
      rw [decide_eq_true_eq]
      rintro rfl
      exact none member
  · intro disk saved path options wanted done next output errors
    simp only [Script.saveOutput, wanted, Script.runOn, done]
  · intro disk saved path options wanted done next output errors
    simp only [Script.loadInput, wanted, Script.runOn, Disk.read_of_write done, kept]

end Deck

namespace Machine

theorem survivesSaving_of_tray {machine : Machine Deck} {deck : Deck} {steps : Nat}
    (tray : deck.output.toList = machine.punchedBy steps) :
    deck.SurvivesSaving (∀ earlier < steps, ¬(machine.afterSteps earlier).PunchesEmptyCell) := by
  apply Deck.survivesSaving
  · intro card member
    rw [tray, mem_punchedBy_iff] at member
    obtain ⟨earlier, -, punches⟩ := member
    exact isPunched_of_punched? punches
  · rw [tray, mem_punchedBy_iff]
    simp only [punched?_eq_empty_iff, not_exists, not_and]

/-- What a machine has punched by steps or in a run comes back from a deck file, but for the empty
cards, which only cells give that nothing has been written to. -/
theorem output_read_back {machine : Machine Deck} (unused : machine.port.output = #[]) :
    (∀ steps, (machine.afterSteps steps).port.SurvivesSaving
      (∀ earlier < steps, ¬(machine.afterSteps earlier).PunchesEmptyCell)) ∧
    ∀ limit result final, machine.RunsTo limit result final →
      ∃ count, Course machine.started limit count result final ∧
        final.port.SurvivesSaving
          (∀ earlier < count, ¬(machine.started.afterSteps earlier).PunchesEmptyCell) := by
  constructor
  · intro steps
    apply survivesSaving_of_tray
    rw [tray_afterSteps, unused, List.nil_append]
  · intro limit result final runs
    obtain ⟨count, course⟩ := runsTo_iff.mp runs
    refine ⟨count, course, ?_⟩
    apply survivesSaving_of_tray
    have started : machine.started.port.output = #[] := unused
    rw [course.tray, started, List.nil_append]

/-- A card that is copied and a word that is punched behind it. -/
theorem copied_card_read_back :
    let image : CardImage := ⟨[(2, .jumpTo 0), (3, ⟨50, by decide, by decide⟩),
      (4, ⟨550, by decide, by decide⟩), (5, ⟨500, by decide, by decide⟩),
      (6, ⟨900, by decide, by decide⟩), (2, .jumpTo 3)]⟩
    let machine := (fresh (Deck.ofCards ["-7"]) {}).boot image
    let final := (machine.runLimited 22).2
    machine.port.output = #[] ∧ machine.RunsTo none (.ok ⟨22, .halted⟩) final ∧
      final.port.output.toList = ["-007", "001"] ∧
      cardsOfText (textOfCards final.port.output.toList) = ["-007", "001"] := by
  intro image machine final
  have unused : machine.port.output = #[] := rfl
  have runs : machine.RunsTo none (.ok ⟨22, .halted⟩) final := ⟨23, by decide +kernel⟩
  have tray : final.port.output.toList = ["-007", "001"] := by decide +kernel
  obtain ⟨count, -, survives⟩ := (output_read_back unused).2 none _ final runs
  refine ⟨unused, runs, tray, survives.kept.trans ?_⟩
  rw [tray]
  decide

/-- Cell 50 holds nothing, so the first of two cards is empty, and only the second comes back. -/
theorem empty_card_lost :
    let image : CardImage := ⟨[(2, .jumpTo 0), (3, ⟨550, by decide, by decide⟩),
      (4, ⟨500, by decide, by decide⟩), (5, ⟨900, by decide, by decide⟩), (2, .jumpTo 3)]⟩
    let machine := (fresh Deck.empty {}).boot image
    let final := (machine.runLimited 18).2
    assemble "OUT 50\nOUT 0\nHRS 0" = .ok ⟨[], 3, image⟩ ∧
      machine.RunsTo none (.ok ⟨18, .halted⟩) final ∧
      final.port.output.toList = ["", "001"] ∧
      cardsOfText (textOfCards final.port.output.toList) = ["001"] := by
  intro image machine final
  have tray : final.port.output.toList = ["", "001"] := by decide +kernel
  refine ⟨by cbv, ⟨19, by decide +kernel⟩, tray, ?_⟩
  rw [tray]
  decide

end Machine
end Cardiac
