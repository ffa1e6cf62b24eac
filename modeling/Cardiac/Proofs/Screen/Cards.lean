import Cardiac.Proofs.Cards.Output
import Cardiac.Proofs.Screen.Board
import Cardiac.Screen.Drawing

/-!
# The output cards

The machine punches words and empty cards, and none of them takes more than four columns. So the
cards that a panel counts on having room for fit behind its heading, and the newest ones are shown
whole.
-/
namespace Cardiac

theorem IsPunched.length_le {card : Card} (punched : IsPunched card) : card.length ≤ 4 := by
  rcases punched with rfl | ⟨word, rfl⟩
  · decide
  · exact word.length_text_le

namespace Machine

variable {machine : Machine Deck}

/-- All cards on the tray are such as the machine can punch. -/
def HasPunchedTray (machine : Machine Deck) : Prop :=
  ∀ card ∈ machine.port.output.toList, IsPunched card

theorem tray_advanced (machine : Machine Deck) : machine.advanced.port.output.toList =
    machine.port.output.toList ++ machine.punched?.toList := by
  rw [← machine.tray_step.1]
  rcases machine.advanced_eq_or_reset with same | same
  · rw [same]
  · rw [same]
    rfl

theorem HasPunchedTray.advanced (only : machine.HasPunchedTray) :
    machine.advanced.HasPunchedTray := by
  intro card member
  rw [tray_advanced, List.mem_append, Option.mem_toList] at member
  rcases member with before | punches
  · exact only card before
  · exact isPunched_of_punched? punches

theorem HasPunchedTray.iterate (only : machine.HasPunchedTray) (steps : Nat) :
    (Machine.advanced^[steps] machine).HasPunchedTray := by
  induction steps with
  | zero => exact only
  | succ steps ih =>
    rw [Function.iterate_succ_apply']
    exact ih.advanced

end Machine

/-- In a session the tray gets no other cards, for a machine is booted with an empty one. -/
theorem Debugger.hasPunchedTray_after (image : CardImage) (input : List Card) (config : Config)
    (events : List Event) : ((start image input config).after events).machine.HasPunchedTray := by
  have begins : (start image input config).IsBehind 0 := rfl
  have behind := begins.after events
  rw [IsBehind, home_after] at behind
  rw [behind]
  refine Machine.HasPunchedTray.iterate ?_ _
  intro card member
  cases member

namespace Screen

open Debugger

variable {cards : List Card} {deck : Deck} {width : Nat}

/-! ### Cards in a line -/

/-- Four columns and a blank are enough for a card, and no blank stands behind the last one. -/
theorem length_intercalate_le (short : ∀ card ∈ cards, card.length ≤ 4) :
    (" ".intercalate cards).length ≤ 5 * cards.length - 1 := by
  induction cards with
  | nil => exact Nat.zero_le _
  | cons card cards ih =>
    have first := short card List.mem_cons_self
    cases cards with
    | nil =>
      rw [String.intercalate_singleton]
      exact first
    | cons next rest =>
      have others := ih fun card member => short card (List.mem_cons_of_mem _ member)
      have blank : " ".length = 1 := rfl
      rw [String.intercalate_cons_cons, String.length_append, String.length_append, blank]
      simp only [List.length_cons] at others ⊢
      omega

theorem eq_blank_or_mem_of_mem_intercalate {c : Char}
    (member : c ∈ (" ".intercalate cards).toList) :
    c = ' ' ∨ ∃ card ∈ cards, c ∈ card.toList := by
  induction cards with
  | nil => cases member
  | cons card cards ih =>
    cases cards with
    | nil =>
      rw [String.intercalate_singleton] at member
      exact .inr ⟨card, List.mem_cons_self, member⟩
    | cons next rest =>
      rw [String.intercalate_cons_cons, String.toList_append, String.toList_append,
        List.mem_append, List.mem_append] at member
      rcases member with (first | blank) | others
      · exact .inr ⟨card, List.mem_cons_self, first⟩
      · exact .inl (List.mem_singleton.mp blank)
      · exact (ih others).imp_right fun ⟨card, member, inside⟩ =>
          ⟨card, List.mem_cons_of_mem _ member, inside⟩

theorem isPlain_cards (punched : ∀ card ∈ cards, IsPunched card) :
    IsPlain (" ".intercalate cards) := by
  intro c member
  rcases eq_blank_or_mem_of_mem_intercalate member with rfl | ⟨card, shown, inside⟩
  · decide
  · rcases punched card shown with rfl | ⟨word, rfl⟩
    · cases inside
    · exact isPlain_wordText word c inside

/-! ### The newest cards -/

/-- The cards are the newest of a tray, as many as a panel of some width counts on having room for.
With the heading and the blanks between them they take no more than one line of it. -/
structure NewestThatFit (cards tray : List Card) (width : Nat) : Prop where
  last : cards <:+ tray
  count : cards.length = min tray.length ((width - 10) / 5)
  newest : cards.getLast? = tray.getLast?
  fits : ("out  " ++ " ".intercalate cards).length ≤ width - 2

theorem newestThatFit_shownCards (punched : ∀ card ∈ deck.output.toList, IsPunched card)
    (wide : 15 ≤ width) : NewestThatFit (shownCards deck width) deck.output.toList width := by
  have last : shownCards deck width <:+ deck.output.toList := List.drop_suffix ..
  have count : (shownCards deck width).length =
      min deck.output.toList.length ((width - 10) / 5) := by
    rw [shownCards, List.length_drop, Array.length_toList]
    omega
  constructor
  case last => exact last
  case count => exact count
  case newest =>
    rw [shownCards, List.getLast?_drop]
    split
    next nothing =>
      -- there is room for a card, so none is shown only if there is none
      rw [Array.length_toList] at nothing
      have empty : deck.output.toList = [] := by
        apply List.eq_nil_of_length_eq_zero
        rw [Array.length_toList]
        omega
      rw [empty]
      rfl
    · rfl
  case fits =>
    have short := length_intercalate_le fun card member =>
      (punched card (last.mem member)).length_le
    have heading : "out  ".length = 5 := rfl
    rw [String.length_append, heading]
    omega

/-! ### The line of the tray -/

/-- A panel of some width has the text in a line of its own between the sides of its frame, a
character to a column and blanks behind them. -/
def ReadsAt (rows : List Row) (width place : Nat) (text : String) : Prop :=
  ∃ line, rows[place]? = some line ∧ line.map Cell.glyph =
    "│" :: text.toList.map String.singleton ++
      List.replicate (width - 2 - text.length) " " ++ ["│"]

theorem readsAt_of_paragraph [Toolkit] [LawfulToolkit] {panel : Panel} {lines : List (List Span)}
    {look : Look} {line : List Span} {i height : Nat}
    {text : String} (content : panel.content = .paragraph lines look)
    (found : lines[i]? = some line) (reads : lineText line = text) (plain : IsPlain text)
    (wide : 2 ≤ width) (room : i < height - 2) (fits : text.length ≤ width - 2) :
    ReadsAt (Toolkit.render panel width height) width (i + 1) text := by
  subst reads
  obtain ⟨row, drawn, glyphs⟩ := LawfulToolkit.paragraph_line content found plain wide room
  rw [inColumns_of_length_le fits] at glyphs
  exact ⟨row, drawn, glyphs⟩

theorem lineText_pair (first second : Span) :
    lineText [first, second] = first.text ++ second.text := by
  simp only [lineText, String.join, List.map_cons, List.map_nil, List.foldl_cons, List.foldl_nil,
    String.empty_append]

theorem isPlain_append {first second : String} (before : IsPlain first) (behind : IsPlain second) :
    IsPlain (first ++ second) := by
  intro c member
  rw [String.toList_append] at member
  exact (List.mem_append.mp member).elim (before c) (behind c)

end Screen

namespace Debugger

open Screen

/-- Whatever keys are pressed and however often the clock ticks, only words and empty cells are
punched, and a cards panel that has room for a card at all shows the newest ones whole. -/
theorem newest_cards_shown_whole [Toolkit] [LawfulToolkit] (image : CardImage) (input : List Card)
    (config : Config) (events : List Event) {width : Nat} (wide : 15 ≤ width) :
    let debugger := (start image input config).after events
    let tray := debugger.machine.port.output.toList
    let shown := shownCards debugger.machine.port width
    (∀ card ∈ tray, IsPunched card) ∧ NewestThatFit shown tray width ∧
      ∀ height, 4 ≤ height → ReadsAt (Toolkit.render (cardPanel debugger width) width height)
        width 2 ("out  " ++ " ".intercalate shown) := by
  intro debugger tray shown
  have punched : ∀ card ∈ tray, IsPunched card := hasPunchedTray_after image input config events
  have newest : NewestThatFit shown tray width := newestThatFit_shownCards punched wide
  have cards : IsPlain (" ".intercalate shown) :=
    isPlain_cards fun card member => punched card (newest.last.mem member)
  have heading : IsPlain "out  " := by decide
  refine ⟨punched, newest, fun height tall => ?_⟩
  have content : (cardPanel debugger width).content =
    .paragraph (cardLines debugger.machine.port width) {} := rfl
  have line : (cardLines debugger.machine.port width)[1]? =
    some [⟨"out  ", {}⟩, ⟨" ".intercalate shown, { foreground := .green }⟩] := rfl
  exact readsAt_of_paragraph content line (lineText_pair ..) (isPlain_append heading cards)
    (by omega) (by omega) newest.fits

/-- Of three cards a panel with room for two shows the empty one and the one behind it. -/
theorem two_newest_cards_shown :
    let input := ["002", "800", "599", "550", "003", "-7", "503"]
    let events : List Event := .key (.char 's') :: .key (.char 'r') :: List.replicate 15 .tick
    let debugger := (start .empty input {}).after events
    15 ≤ 20 ∧ debugger.machine.port.output.toList = ["803", "", "-007"] ∧
      shownCards debugger.machine.port 20 = ["", "-007"] ∧
      ReadsAt (Toolkit.render (cardPanel debugger 20) 20 5) 20 2 "out   -007" := by
  intro input events debugger
  have tray : debugger.machine.port.output.toList = ["803", "", "-007"] := by decide +kernel
  obtain ⟨-, newest, reads⟩ :=
    newest_cards_shown_whole .empty input {} events (by decide : 15 ≤ 20)
  have newest : NewestThatFit (shownCards debugger.machine.port 20) ["803", "", "-007"] 20 :=
    tray ▸ newest
  have shown := List.suffix_iff_eq_drop.mp newest.last
  rw [newest.count] at shown
  have line := reads 5 (by decide)
  change ReadsAt _ 20 2 ("out  " ++ " ".intercalate (shownCards debugger.machine.port 20)) at line
  rw [shown] at line
  exact ⟨by decide, tray, shown, line⟩

end Debugger
end Cardiac
