import Mathlib.Data.List.Basic
import Mathlib.Data.List.TakeWhile
import Cardiac.Text.Pieces

/-! Texts with separators: the pieces of a text that was put together at one, and the cut of a text
at its first. -/
namespace Cardiac.Text

theorem pieces_ne_nil (separator : Char) (text : List Char) : pieces separator text ≠ [] := by
  induction text with
  | nil => exact List.cons_ne_nil [] []
  | cons c rest ih =>
    rw [pieces]
    split
    · exact List.cons_ne_nil [] _
    · simpa using ih

theorem pieces_append (separator : Char) (front back : List Char) :
    pieces separator (front ++ separator :: back) =
      pieces separator front ++ pieces separator back := by
  induction front with
  | nil => simp [pieces]
  | cons c front ih =>
    rw [List.cons_append, pieces, pieces, ih]
    split
    · rfl
    · -- the character joins the first piece, which is one of the front
      cases found : pieces separator front with
      | nil => exact absurd found (pieces_ne_nil separator front)
      | cons piece more => rfl

theorem pieces_of_notMem {separator : Char} {text : List Char} (whole : separator ∉ text) :
    pieces separator text = [text] := by
  induction text with
  | nil => rfl
  | cons c rest ih =>
    rw [List.mem_cons, not_or] at whole
    rw [pieces, if_neg (Ne.symm whole.1), ih whole.2, List.modifyHead_cons]

theorem pieces_eq_splitOn (separator : Char) (text : List Char) :
    pieces separator text = text.splitOn separator := by
  induction text with
  | nil => rfl
  | cons c rest ih =>
    rw [pieces, ih, List.splitOn, List.splitOn, List.splitOnP_cons_eq_if_modifyHead]
    simp only [beq_iff_eq]

theorem pieces_intercalate {separator : Char} {written : List (List Char)} (some : written ≠ [])
    (whole : ∀ piece ∈ written, separator ∉ piece) :
    pieces separator ([separator].intercalate written) = written := by
  rw [pieces_eq_splitOn, List.splitOn_intercalate separator whole some]

/-- A list is nothing, or begins with the separator. -/
def StopsAt (separator : Char) (text : List Char) : Prop :=
  text = [] ∨ ∃ rest, text = separator :: rest

/-- A text is cut at its first separator, which stays with the rest. -/
theorem cut (separator : Char) (text : List Char) :
    text = text.takeWhile (· ≠ separator) ++ text.dropWhile (· ≠ separator) ∧
      separator ∉ text.takeWhile (· ≠ separator) ∧
      StopsAt separator (text.dropWhile (· ≠ separator)) := by
  refine ⟨List.takeWhile_append_dropWhile.symm, ?_, ?_⟩
  · intro member
    have other := List.mem_takeWhile_imp member
    simp at other
  · have stopped := List.head?_dropWhile_not (· ≠ separator) text
    cases dropped : text.dropWhile (· ≠ separator) with
    | nil => exact .inl rfl
    | cons c rest =>
      rw [dropped] at stopped
      obtain rfl : c = separator := by simpa using stopped
      exact .inr ⟨rest, rfl⟩

theorem cut_append {separator : Char} {front back : List Char} (whole : separator ∉ front)
    (stops : StopsAt separator back) :
    (front ++ back).takeWhile (· ≠ separator) = front ∧
      (front ++ back).dropWhile (· ≠ separator) = back := by
  have within : ∀ c ∈ front, decide (c ≠ separator) = true := by
    intro c member
    rw [decide_eq_true_eq]
    rintro rfl
    exact whole member
  rw [List.takeWhile_append_of_pos within, List.dropWhile_append_of_pos within]
  rcases stops with rfl | ⟨rest, rfl⟩ <;> simp

/-- What holds of texts without the separator, and of a text behind another separator if it holds of
the rest, holds of every text. -/
theorem cut_induction (separator : Char) {motive : List Char → Prop}
    (whole : ∀ text, separator ∉ text → motive text)
    (behind : ∀ front back, separator ∉ front → motive back → motive (front ++ separator :: back))
    (text : List Char) : motive text := by
  induction size : text.length using Nat.strong_induction_on generalizing text with
  | _ length ih =>
    obtain ⟨parts, front, stops⟩ := cut separator text
    rcases stops with none | ⟨back, found⟩
    · rw [parts, none, List.append_nil]
      exact whole _ front
    · rw [found] at parts
      have shorter : back.length < length := by
        rw [← size, parts, List.length_append, List.length_cons]
        omega
      rw [parts]
      exact behind _ _ front (ih back.length shorter back rfl)

theorem notMem_of_mem_pieces {separator : Char} {text piece : List Char}
    (member : piece ∈ pieces separator text) : separator ∉ piece := by
  induction text using cut_induction separator with
  | whole text whole =>
    rw [pieces_of_notMem whole, List.mem_singleton] at member
    exact member ▸ whole
  | behind front back whole ih =>
    rw [pieces_append, pieces_of_notMem whole, List.singleton_append, List.mem_cons] at member
    rcases member with rfl | later
    · exact whole
    · exact ih later

end Cardiac.Text
