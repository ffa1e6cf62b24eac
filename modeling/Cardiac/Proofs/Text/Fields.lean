import Cardiac.Proofs.Text.Lines

/-!
# Fields put in the place of others

The fields of a text can be replaced where they stand. The blanks between them stay as they are, and
the text is cut into the new fields.
-/
namespace Cardiac.Text

/-- A field is not empty and has no blank. -/
def Dense (field : List Char) : Prop := field ≠ [] ∧ ∀ c ∈ field, isBlank c = false

/-- Puts fields in the place of as many first fields of a text. -/
def replaceFields : List (List Char) → List Char → List Char
  | [], text => text
  | field :: more, text =>
    text.takeWhile isBlank ++ field ++
      replaceFields more ((text.dropWhile isBlank).dropWhile fun c => !isBlank c)

/-! ### Fields where they stand -/

theorem fields_append_of_blanks {blanks : List Char} (blank : ∀ c ∈ blanks, isBlank c = true)
    (rest : List Char) : fields (blanks ++ rest) = fields rest := by
  induction blanks with
  | nil => rfl
  | cons c blanks ih =>
    rw [List.forall_mem_cons] at blank
    rw [List.cons_append, fields_cons_of_blank blank.1, ih blank.2]

/-- A text can be taken apart where a blank or nothing follows. -/
theorem fields_append_of_ends {rest : List Char} (ends : rest.head?.all isBlank = true)
    (text : List Char) : fields (text ++ rest) = fields text ++ fields rest := by
  induction text with
  | nil => rfl
  | cons c text ih =>
    have next : (text ++ rest).head?.all isBlank = text.head?.all isBlank := by
      cases text with
      | nil => simpa using ends
      | cons d more => rfl
    rw [List.cons_append, fields, fields, next, ih]
    split
    · rfl
    · split
      · rfl
      next goes =>
        -- the character joins a field of the text, and not one of the rest
        have counted : fields text ≠ [] := by
          rw [Ne, fields_eq_nil_iff]
          cases text with
          | nil => simp at goes
          | cons d more =>
            intro blank
            simp only [List.all_cons, Bool.and_eq_true] at blank
            exact goes blank.1
        cases found : fields text with
        | nil => exact absurd found counted
        | cons field more => rfl

theorem fields_concat_of_blank {c : Char} (blank : isBlank c = true) (text : List Char) :
    fields (text ++ [c]) = fields text := by
  have ends : [c].head?.all isBlank = true := blank
  rw [fields_append_of_ends ends, fields_cons_of_blank blank]
  exact List.append_nil _

/-- The text has blanks in front, then a field, and a rest that does not go on with the field. -/
structure Cut (text blanks field rest : List Char) : Prop where
  whole : text = blanks ++ (field ++ rest)
  blank : ∀ c ∈ blanks, isBlank c = true
  dense : Dense field
  ends : rest.head?.all isBlank = true

theorem Cut.fields {text blanks field rest : List Char} (cut : Cut text blanks field rest) :
    fields text = field :: fields rest := by
  rw [cut.whole, fields_append_of_blanks cut.blank,
    fields_append cut.dense.1 cut.dense.2 cut.ends]

/-- A text with a field is cut at its first. -/
theorem exists_cut {text : List Char} (counted : fields text ≠ []) :
    ∃ field, Cut text (text.takeWhile isBlank) field
      ((text.dropWhile isBlank).dropWhile fun c => !isBlank c) := by
  refine ⟨(text.dropWhile isBlank).takeWhile fun c => !isBlank c, ?_, ?_, ⟨?_, ?_⟩, ?_⟩
  · rw [List.takeWhile_append_dropWhile, List.takeWhile_append_dropWhile]
  · exact fun c member => List.mem_takeWhile_imp member
  · intro none
    -- otherwise the text would be blank
    have stopped := List.head?_dropWhile_not isBlank text
    cases dropped : text.dropWhile isBlank with
    | nil =>
      rw [← List.takeWhile_append_dropWhile (p := isBlank) (l := text), dropped,
        fields_append_of_blanks fun c member => List.mem_takeWhile_imp member] at counted
      exact counted rfl
    | cons c rest =>
      rw [dropped] at stopped
      have solid : isBlank c = false := by simpa using stopped
      rw [dropped, List.takeWhile_cons_of_pos (by rw [solid]; rfl)] at none
      exact List.cons_ne_nil c _ none
  · intro c member
    have other := List.mem_takeWhile_imp member
    simpa using other
  · have stopped := List.head?_dropWhile_not (fun c => !isBlank c) (text.dropWhile isBlank)
    cases rest : (text.dropWhile isBlank).dropWhile fun c => !isBlank c with
    | nil => rfl
    | cons c more =>
      rw [rest] at stopped
      simpa using stopped

theorem dense_of_mem_fields {text field : List Char} (member : field ∈ fields text) :
    Dense field ∧ ∀ c ∈ field, c ∈ text := by
  fun_induction fields text generalizing field with
  | case1 => cases member
  | case2 d rest blank ih =>
    obtain ⟨dense, within⟩ := ih member
    exact ⟨dense, fun c inside => List.mem_cons_of_mem d (within c inside)⟩
  | case3 d rest solid ends ih =>
    rcases List.mem_cons.mp member with rfl | later
    · simp [Dense, solid]
    · obtain ⟨dense, within⟩ := ih later
      exact ⟨dense, fun c inside => List.mem_cons_of_mem d (within c inside)⟩
  | case4 d rest solid goes ih =>
    -- the character joins the first field of the rest, if there is one
    cases found : fields rest with
    | nil => simp [found] at member
    | cons first others =>
      rw [found] at member ih
      rw [List.modifyHead_cons] at member
      rcases List.mem_cons.mp member with rfl | later
      · obtain ⟨⟨-, dense⟩, within⟩ := ih List.mem_cons_self
        simp only [Dense, List.forall_mem_cons]
        exact ⟨⟨List.cons_ne_nil d first, by simpa using solid, dense⟩, List.mem_cons_self,
          fun c inside => List.mem_cons_of_mem d (within c inside)⟩
      · obtain ⟨dense, within⟩ := ih (List.mem_cons_of_mem first later)
        exact ⟨dense, fun c inside => List.mem_cons_of_mem d (within c inside)⟩

/-! ### Fields replaced -/

/-- A text that begins with a blank still does when its fields are replaced. -/
theorem head?_replaceFields {text : List Char} (ends : text.head?.all isBlank = true)
    {edits : List (List Char)} (enough : edits.length ≤ (fields text).length) :
    (replaceFields edits text).head?.all isBlank = true := by
  cases edits with
  | nil => exact ends
  | cons field more =>
    cases text with
    | nil => simp [fields] at enough
    | cons c rest =>
      have blank : isBlank c = true := ends
      simp [replaceFields, blank]

/-- The text has the new fields, and behind them those that were not replaced. -/
theorem fields_replaceFields {edits : List (List Char)} {text : List Char}
    (dense : ∀ field ∈ edits, Dense field) (enough : edits.length ≤ (fields text).length) :
    fields (replaceFields edits text) = edits ++ (fields text).drop edits.length := by
  induction edits generalizing text with
  | nil => rfl
  | cons field more ih =>
    rw [List.forall_mem_cons] at dense
    have counted : fields text ≠ [] := by
      rintro none
      simp [none] at enough
    obtain ⟨old, cut⟩ := exists_cut counted
    rw [cut.fields, List.length_cons, List.length_cons, Nat.add_le_add_iff_right] at enough
    rw [replaceFields, List.append_assoc, fields_append_of_blanks cut.blank,
      fields_append dense.1.1 dense.1.2 (head?_replaceFields cut.ends enough), ih dense.2 enough,
      cut.fields, List.length_cons, List.drop_succ_cons, List.cons_append]

theorem mem_replaceFields {edits : List (List Char)} {text : List Char} {c : Char}
    (member : c ∈ replaceFields edits text) : c ∈ text ∨ ∃ field ∈ edits, c ∈ field := by
  induction edits generalizing text with
  | nil => exact .inl member
  | cons field more ih =>
    rw [replaceFields, List.mem_append, List.mem_append] at member
    rcases member with (blank | new) | rest
    · exact .inl ((List.takeWhile_prefix _).subset blank)
    · exact .inr ⟨field, List.mem_cons_self, new⟩
    · rcases ih rest with old | ⟨other, later, inside⟩
      · exact .inl ((List.dropWhile_suffix _).subset ((List.dropWhile_suffix _).subset old))
      · exact .inr ⟨other, List.mem_cons_of_mem field later, inside⟩

end Cardiac.Text
