import Mathlib.Data.List.DropRight
import Cardiac.Text.Blank

/-!
# Trimmed text

A text is made of blanks, its trimmed form and blanks again, where the trimmed form has no blank at
its ends. It has only one such form, which is empty if the text is blank.
-/
namespace Cardiac.Text

/-- The second text is the first without the blanks at its two ends. -/
structure Trimmed (text bare : List Char) : Prop where
  whole : ∃ front back, text = front ++ (bare ++ back) ∧
    (∀ c ∈ front, isBlank c = true) ∧ ∀ c ∈ back, isBlank c = true
  front : ∀ c ∈ bare.head?, isBlank c = false
  back : ∀ c ∈ bare.getLast?, isBlank c = false

theorem isBlank_of_head?_dropWhile {text : List Char} {c : Char}
    (first : c ∈ (text.dropWhile isBlank).head?) : isBlank c = false := by
  have stopped := List.head?_dropWhile_not isBlank text
  rwa [Option.mem_def.mp first] at stopped

theorem dropWhile_blanks {blanks rest : List Char} (blank : ∀ c ∈ blanks, isBlank c = true)
    (stops : ∀ c ∈ rest.head?, isBlank c = false) : (blanks ++ rest).dropWhile isBlank = rest := by
  rw [List.dropWhile_append_of_pos blank]
  cases rest with
  | nil => rfl
  | cons c rest => rw [List.dropWhile_cons_of_neg (by simp [stops c rfl])]

theorem trim_eq_rdropWhile (text : List Char) :
    trim text = (text.dropWhile isBlank).rdropWhile isBlank := rfl

theorem trimmed_trim (text : List Char) : Trimmed text (trim text) where
  whole := by
    refine ⟨text.takeWhile isBlank, (text.dropWhile isBlank).rtakeWhile isBlank, ?_,
      fun c member => List.mem_takeWhile_imp member, fun c member => List.mem_rtakeWhile_imp member⟩
    rw [trim_eq_rdropWhile, List.rdropWhile_append_rtakeWhile, List.takeWhile_append_dropWhile]
  front c first := by
    -- the cut at the end leaves the first character in its place
    obtain ⟨back, whole⟩ := List.rdropWhile_prefix isBlank (text.dropWhile isBlank)
    have same : (text.dropWhile isBlank).head? = some c := by
      rw [← whole, ← trim_eq_rdropWhile, List.head?_append, Option.mem_def.mp first]
      rfl
    exact isBlank_of_head?_dropWhile same
  back c last := by
    rw [trim, List.getLast?_reverse] at last
    exact isBlank_of_head?_dropWhile last

/-- A text has one trimmed form. -/
theorem Trimmed.eq_trim {text bare : List Char} (trimmed : Trimmed text bare) : trim text = bare := by
  obtain ⟨⟨front, back, rfl, before, behind⟩, first, last⟩ := trimmed
  cases bare with
  | nil =>
    have blank : ∀ c ∈ front ++ back, isBlank c = true := fun c member =>
      (List.mem_append.mp member).elim (before c) (behind c)
    rw [trim, List.nil_append, List.dropWhile_eq_nil_iff.mpr blank]
    rfl
  | cons c more =>
    have front : (front ++ (c :: more ++ back)).dropWhile isBlank = c :: more ++ back :=
      dropWhile_blanks before first
    have back : (back.reverse ++ (c :: more).reverse).dropWhile isBlank = (c :: more).reverse :=
      dropWhile_blanks (fun d member => behind d (List.mem_reverse.mp member))
        fun d ends => last d (List.head?_reverse ▸ ends)
    rw [trim, front, List.reverse_append, back, List.reverse_reverse]

theorem trim_eq_nil_iff (text : List Char) : trim text = [] ↔ ∀ c ∈ text, isBlank c = true := by
  constructor
  · intro none c member
    obtain ⟨front, back, whole, before, behind⟩ := (trimmed_trim text).whole
    rw [none, List.nil_append] at whole
    rw [whole, List.mem_append] at member
    exact member.elim (before c) (behind c)
  · intro blank
    have empty : Trimmed text [] := ⟨⟨text, [], by simp, blank, nofun⟩, nofun, nofun⟩
    exact empty.eq_trim

end Cardiac.Text
