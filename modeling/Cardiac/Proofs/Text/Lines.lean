import Cardiac.Text.Lines
import Cardiac.Proofs.Text.Numerals

/-!
# Composed text taken apart

Text that was put together line by line is cut into the same lines, and a line whose words stand
between blanks is cut into the same words.
-/
namespace Cardiac.Text

/-! ### Lines -/

theorem lines_append_lineFeed {line : List Char} (feed : '\n' ∉ line) (carriage : '\r' ∉ line)
    (rest : List Char) : lines (line ++ '\n' :: rest) = line :: lines rest := by
  induction line with
  | nil => simp [lines]
  | cons c line ih =>
    rw [List.mem_cons, not_or] at feed carriage
    have inner := ih feed.2 carriage.2
    rw [List.cons_append, lines, if_neg fun same => feed.1 same.symm,
      if_neg fun both => carriage.1 both.1.symm, inner]

/-- Lines that are written one behind the other are read back as they are. -/
theorem lines_flatMap {written : List (List Char)} (feeds : ∀ line ∈ written, '\n' ∉ line)
    (carriages : ∀ line ∈ written, '\r' ∉ line) :
    lines (written.flatMap (· ++ ['\n'])) = written := by
  induction written with
  | nil => rfl
  | cons line written ih =>
    rw [List.forall_mem_cons] at feeds carriages
    rw [List.flatMap_cons, List.append_assoc, List.singleton_append,
      lines_append_lineFeed feeds.1 carriages.1, ih feeds.2 carriages.2]

theorem lines_of_notMem {text : List Char} (whole : '\n' ∉ text) :
    lines text = if text = [] then [] else [text] := by
  induction text with
  | nil => rfl
  | cons c text ih =>
    rw [List.mem_cons, not_or] at whole
    have ends : ¬(c = '\r' ∧ text.head? = some '\n') := fun both =>
      whole.2 (List.mem_of_head? both.2)
    rw [lines, if_neg (Ne.symm whole.1), if_neg ends, ih whole.2, if_neg (List.cons_ne_nil c text)]
    cases text <;> rfl

/-- A line feed ends a line, and takes a carriage return before it along. -/
theorem exists_line_of_lineFeed {front : List Char} (whole : '\n' ∉ front) (back : List Char) :
    ∃ line, lines (front ++ '\n' :: back) = line :: lines back ∧
      (front = line ∨ front = line ++ ['\r']) := by
  induction front with
  | nil => exact ⟨[], by simp [lines], .inl rfl⟩
  | cons c front ih =>
    rw [List.mem_cons, not_or] at whole
    by_cases last : c = '\r' ∧ front = []
    · obtain ⟨rfl, rfl⟩ := last
      exact ⟨[], by simp [lines], .inr rfl⟩
    · have goes : ¬(c = '\r' ∧ (front ++ '\n' :: back).head? = some '\n') := by
        cases front with
        | nil => simpa using last
        | cons d more => simpa using fun _ => Ne.symm (List.ne_of_not_mem_cons whole.2)
      obtain ⟨line, found, ends⟩ := ih whole.2
      rw [List.cons_append, lines, if_neg (Ne.symm whole.1), if_neg goes, found]
      refine ⟨c :: line, rfl, ?_⟩
      rcases ends with rfl | rfl
      · exact .inl rfl
      · exact .inr rfl

theorem numberedLines_eq_zipIdx (text : String) :
    numberedLines text = ((lines text.toList).zipIdx 1).map Prod.swap := by
  rw [numberedLines, List.mapIdx_eq_zipIdx_map, List.zipIdx_succ, List.map_map]
  rfl

theorem map_snd_numberedLines (text : String) :
    (numberedLines text).map Prod.snd = lines text.toList := by
  simp [numberedLines, List.mapIdx_eq_zipIdx_map, List.map_map, Function.comp_def,
    List.zipIdx_map_fst]

/-! ### Fields -/

theorem fields_cons_of_blank {c : Char} (blank : isBlank c = true) (rest : List Char) :
    fields (c :: rest) = fields rest := by
  rw [fields, if_pos blank]

theorem fields_eq_nil_iff (text : List Char) : fields text = [] ↔ text.all isBlank = true := by
  induction text with
  | nil => simp [fields]
  | cons c rest ih =>
    by_cases blank : isBlank c = true
    · simp [fields, blank, ih]
    · by_cases ends : rest.head?.all isBlank = true
      · simp [fields, blank, ends]
      · -- the character joins the first field of the rest, so there has to be one
        have inner : fields rest ≠ [] := by
          intro none
          rw [ih] at none
          cases rest with
          | nil => simp at ends
          | cons d more =>
            simp only [List.all_cons, Bool.and_eq_true] at none
            simp [none.1] at ends
        cases found : fields rest with
        | nil => exact absurd found inner
        | cons field others => simp [fields, blank, ends, found]

/-- A run without blanks is a field if a blank or nothing follows. -/
theorem fields_append {run rest : List Char} (nonempty : run ≠ [])
    (dense : ∀ c ∈ run, isBlank c = false) (ends : rest.head?.all isBlank = true) :
    fields (run ++ rest) = run :: fields rest := by
  induction run with
  | nil => exact absurd rfl nonempty
  | cons c run ih =>
    rw [List.forall_mem_cons] at dense
    have char : ¬isBlank c = true := by simp [dense.1]
    rw [List.cons_append, fields, if_neg char]
    cases run with
    | nil => rw [List.nil_append, if_pos ends]
    | cons d more =>
      have longer : ¬(d :: more ++ rest).head?.all isBlank = true := by simp [dense.2]
      rw [if_neg longer, ih (List.cons_ne_nil d more) dense.2, List.modifyHead_cons]

end Cardiac.Text
