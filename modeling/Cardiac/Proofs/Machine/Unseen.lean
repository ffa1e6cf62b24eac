import Cardiac.Proofs.Machine.Course

/-!
# Ports that show nothing

The machine itself only reads and punches. That a port may be looked at matters to the snapshots
of a trace alone, and there to what they show of the cards. So a run over a port that shows
nothing is the run over a deck, and its trace is that of the deck with the cards left out.
-/
namespace Cardiac

/-- The snapshot without what it shows of the cards. -/
def Snapshot.blinded (snapshot : Snapshot) : Snapshot :=
  { snapshot with nextInput := none, output := #[] }

/-- The port only reads and punches: the rest of it is left at the defaults. -/
def ShowsNothing (Port : Type) [CardPort Port] : Prop :=
  ∀ port : Port, CardPort.next? port = none ∧ CardPort.tray port = #[]

/-- A port that reads and punches as the deck does that it holds, and shows nothing of it. -/
structure HoldsUnseen {Port : Type} [CardPort Port] (held : Port → Deck) : Prop where
  card : ∀ port : Port, (CardPort.read port).1 = (CardPort.read (held port)).1
  rest : ∀ port : Port, held (CardPort.read port).2 = (CardPort.read (held port)).2
  punch : ∀ (port : Port) (card : Card),
    held (CardPort.punch port card) = CardPort.punch (held port) card
  showsNothing : ShowsNothing Port

theorem holdsUnseen_blindPort : HoldsUnseen BlindPort.deck where
  card _ := rfl
  rest _ := rfl
  punch _ _ := rfl
  showsNothing _ := ⟨rfl, rfl⟩

namespace Machine

variable {First Second : Type} {alike : First → Second → Prop} {first : Machine First}
  {second : Machine Second} {offset : UInt64}

/-! ### Runs of machines that stay in step -/

namespace AlikeOff

theorem started (same : AlikeOff alike [] offset first second) :
    AlikeOff alike [] offset first.started second.started := by
  simp only [Machine.started, same.registers]
  exact same.withRegisters _

theorem reset (same : AlikeOff alike [] offset first second) :
    AlikeOff alike [] offset first.reset second.reset :=
  { same with registers := rfl, last := rfl }

theorem endOfFault (same : AlikeOff alike [] offset first second) (executed : Nat)
    (fault : Fault) :
    Machine.endOfFault executed first fault = Machine.endOfFault executed second fault := by
  cases fault <;> simp only [Machine.endOfFault, same.policy]

variable [CardPort First] [CardPort Second]

theorem stepWithPolicy (same : AlikeOff alike [] offset first second) (ports : PortsAlike alike) :
    SameOutcome alike [] offset first.stepWithPolicy second.stepWithPolicy := by
  have stepped := same.step ports nofun
  unfold Machine.stepWithPolicy
  generalize first.step = firstDone at stepped ⊢
  generalize second.step = secondDone at stepped ⊢
  obtain ⟨result, firstLeft⟩ := firstDone
  obtain ⟨_, secondLeft⟩ := secondDone
  obtain ⟨rfl, left⟩ := stepped
  have policy : firstLeft.policy = secondLeft.policy := left.policy
  cases result with
  | ok instruction => exact ⟨rfl, left⟩
  | error fault =>
    cases fault with
    | inputExhausted =>
      simp only [policy]
      cases secondLeft.policy with
      | reset => exact ⟨rfl, left.reset⟩
      | abort => exact ⟨rfl, left⟩
    | memory error => exact ⟨rfl, left⟩
    | invalidOperation error => exact ⟨rfl, left⟩

theorem snapshot (same : AlikeOff alike [] 0 first second) (hidden : ShowsNothing First)
    (address : UInt32) (instruction : Instruction) :
    first.snapshot address instruction = (second.snapshot address instruction).blinded := by
  simp only [Machine.snapshot, Snapshot.blinded, same.cycles_eq, same.registers, same.memory_eq,
    hidden first.port]

end AlikeOff

/-- The runs end alike, and the trace of the first is that of the second without the cards. -/
structure TracedAlike (alike : First → Second → Prop) (first : RunEnd First (Array Snapshot))
    (second : RunEnd Second (Array Snapshot)) : Prop where
  result : first.result = second.result
  machine : AlikeOff alike [] 0 first.machine second.machine
  seen : first.seen = second.seen.map Snapshot.blinded

section Runs

variable [CardPort First] [CardPort Second] (ports : PortsAlike alike)
  (hidden : ShowsNothing First)

include ports hidden

/-- Both runs take the next step together, and come to an end together. -/
theorem AlikeOff.continueRun (same : AlikeOff alike [] 0 first second) {allowed executed : Nat}
    {firstSeen secondSeen : Array Snapshot}
    (seen : firstSeen = secondSeen.map Snapshot.blinded) :
    TracedAlike alike (continueRun Array.push allowed executed firstSeen first)
      (continueRun Array.push allowed executed secondSeen second) := by
  -- the two machines are any that the runs have reached so far
  induction allowed generalizing executed firstSeen secondSeen first second with
  | zero =>
    simp only [Machine.continueRun, same.registers]
    exact ⟨rfl, same, seen⟩
  | succ allowed ih =>
    cases running : second.registers.running with
    | false =>
      have alsoStopped : first.registers.running = false := by rw [same.registers, running]
      rw [continueRun_of_not_running running, continueRun_of_not_running alsoStopped]
      exact ⟨rfl, same, seen⟩
    | true =>
      have alsoRunning : first.registers.running = true := by rw [same.registers, running]
      have stepped := same.stepWithPolicy ports
      cases firstStepped : first.stepWithPolicy with
      | mk result firstLeft =>
        cases secondStepped : second.stepWithPolicy with
        | mk _ secondLeft =>
          rw [firstStepped, secondStepped] at stepped
          obtain ⟨rfl, left⟩ := stepped
          cases result with
          | error fault =>
            rw [continueRun_of_error alsoRunning firstStepped,
              continueRun_of_error running secondStepped]
            exact ⟨left.endOfFault executed fault, left, seen⟩
          | ok instruction =>
            rw [continueRun_of_ok alsoRunning firstStepped, continueRun_of_ok running secondStepped]
            apply ih left
            rw [Array.map_push, seen, same.registers, left.snapshot hidden]

theorem AlikeOff.runObserved? (same : AlikeOff alike [] 0 first second) (limit : Option Nat)
    (patience : Nat) :
    Option.Rel (TracedAlike alike) (first.runObserved? Array.push #[] limit patience)
      (second.runObserved? Array.push #[] limit patience) := by
  have traced (allowed : Nat) : TracedAlike alike (first.runObserved Array.push #[] allowed)
      (second.runObserved Array.push #[] allowed) :=
    same.started.continueRun ports hidden Array.map_empty.symm
  cases limit with
  | some limit => exact .some (traced limit)
  | none =>
    -- whether patience was enough is seen from the results
    simp only [Machine.runObserved?, RunEnd.settled?, (traced patience).result]
    split
    · exact .none
    · exact .some (traced patience)

/-- If either run ends, so does the other, and they end alike. -/
theorem AlikeOff.ends (same : AlikeOff alike [] 0 first second) (limit : Option Nat) :
    ((∃ done, Ends Array.push #[] limit first done) ↔
      ∃ shown, Ends Array.push #[] limit second shown) ∧
    ∀ done shown, Ends Array.push #[] limit first done → Ends Array.push #[] limit second shown →
      TracedAlike alike done shown := by
  have traced := same.runObserved? ports hidden limit
  -- the same patience is enough for both
  have forth (done) (ended : Ends Array.push #[] limit first done) :
      ∃ shown, Ends Array.push #[] limit second shown ∧ TracedAlike alike done shown := by
    obtain ⟨patience, reached⟩ := ended
    have related := traced patience
    rw [reached] at related
    generalize alsoReached : second.runObserved? Array.push #[] limit patience = other at related
    cases related with
    | some related => exact ⟨_, ⟨patience, alsoReached⟩, related⟩
  constructor
  · constructor
    · rintro ⟨done, ended⟩
      obtain ⟨shown, alsoEnded, -⟩ := forth done ended
      exact ⟨shown, alsoEnded⟩
    · rintro ⟨shown, patience, reached⟩
      have related := traced patience
      rw [reached] at related
      generalize alsoReached : first.runObserved? Array.push #[] limit patience = other at related
      cases related with
      | some related => exact ⟨_, patience, alsoReached⟩
  · intro done shown ended alsoEnded
    obtain ⟨other, reached, related⟩ := forth done ended
    obtain rfl := reached.unique alsoEnded
    exact related

end Runs

/-! ### A deck that is not seen -/

variable {Port : Type} {held : Port → Deck}

theorem portsAlike_of_holdsUnseen [CardPort Port] (unseen : HoldsUnseen held) :
    PortsAlike fun port deck => held port = deck where
  reading := by
    rintro port _ rfl
    rw [unseen.card]
  rest := by
    rintro port _ rfl
    exact unseen.rest port
  punch := by
    rintro port _ rfl card
    exact unseen.punch port card

/-- A run over a port that shows nothing, beside the run over the deck that the port holds. -/
structure RunsUnseen (held : Port → Deck) (blind : RunEnd Port (Array Snapshot))
    (shown : RunEnd Deck (Array Snapshot)) : Prop where
  result : blind.result = shown.result
  /-- The snapshots are the same but for the cards, of which the first ones show none. -/
  seen : blind.seen = shown.seen.map Snapshot.blinded
  registers : blind.machine.registers = shown.machine.registers
  memory : blind.machine.memory = shown.machine.memory
  deck : held blind.machine.port = shown.machine.port

theorem TracedAlike.runsUnseen {blind : RunEnd Port (Array Snapshot)}
    {shown : RunEnd Deck (Array Snapshot)}
    (traced : TracedAlike (fun port deck => held port = deck) blind shown) :
    RunsUnseen held blind shown where
  result := traced.result
  seen := traced.seen
  registers := traced.machine.registers
  memory := traced.machine.memory_eq
  deck := traced.machine.port

/-- A booted machine does not depend on whether its port lets its cards be seen. -/
theorem unseen_deck_runs_alike [CardPort Port] (unseen : HoldsUnseen held) {image : CardImage}
    {input : List Card} {port : Port} (holds : held port = Deck.ofCards (image.cards ++ input))
    (config : Config) (limit : Option Nat) :
    let blind := fresh port config
    let booted := (fresh (Deck.ofCards input) config).boot image
    ((∃ done, Ends Array.push #[] limit blind done) ↔
      ∃ shown, Ends Array.push #[] limit booted shown) ∧
    ∀ done shown, Ends Array.push #[] limit blind done → Ends Array.push #[] limit booted shown →
      RunsUnseen held done shown := by
  intro blind booted
  have same : AlikeOff (fun port deck => held port = deck) [] 0 blind booted := {
    registers := rfl
    memory := .refl [] _
    port := holds
    policy := rfl
    cycles := rfl
    last := rfl }
  obtain ⟨both, traced⟩ := same.ends (portsAlike_of_holdsUnseen unseen) unseen.showsNothing limit
  refine ⟨both, ?_⟩
  intro done shown ended alsoEnded
  exact (traced done shown ended alsoEnded).runsUnseen

/-- A program that copies a card to its tray and then finds none that is a word. -/
theorem unseen_card_copied :
    let image : CardImage := ⟨[(2, .jumpTo 0), (3, ⟨50, by decide, by decide⟩),
      (4, ⟨550, by decide, by decide⟩), (5, .jumpTo 3), (2, .jumpTo 3)]⟩
    let port : BlindPort := ⟨Deck.ofCards (image.cards ++ ["7", "x"])⟩
    let blind := (fresh port {}).runTraced 100
    HoldsUnseen BlindPort.deck ∧
      port.deck = Deck.ofCards (image.cards ++ ["7", "x"]) ∧
      blind.result = .error (.memory (.data (.notInteger "x"))) ∧
      blind.seen.size = 18 ∧
      blind.machine.port.deck = ⟨[], #["007"]⟩ := by
  intro image port blind
  let shown := ((fresh (Deck.ofCards ["7", "x"]) {}).boot image).runTraced 100
  have holds : port.deck = Deck.ofCards (image.cards ++ ["7", "x"]) := rfl
  have alike := unseen_deck_runs_alike holdsUnseen_blindPort holds {} (some 100)
  have runs : RunsUnseen BlindPort.deck blind shown :=
    alike.2 _ _ (ends_runObserved ..) (ends_runObserved ..)
  refine ⟨holdsUnseen_blindPort, holds, runs.result.trans ?_, ?_, runs.deck.trans ?_⟩
  · decide +kernel
  · rw [runs.seen, Array.size_map]
    decide +kernel
  · decide +kernel

end Machine
end Cardiac
