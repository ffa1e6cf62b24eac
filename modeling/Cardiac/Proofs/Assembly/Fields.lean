import Cardiac.Proofs.Assembly.Entries
import Cardiac.Proofs.Text.Fields
import Cardiac.Proofs.Text.Pieces

/-!
# Fields of source lines

A field is a text without blanks and semicolons. The fields of a line can be replaced where they
stand, with its comment kept, if they are such as a line can have: an empty label is not written, so
the operation has to be a mnemonic then, and a label must not be one.
-/
namespace Cardiac.Assembly

/-- The text makes one field: it is not empty, has no blank and does not start a comment. -/
structure IsField (text : String) : Prop where
  nonempty : text.toList ≠ []
  solid : ∀ c ∈ text.toList, Text.isBlank c = false ∧ c ≠ ';'

theorem isField_iff (text : String) : IsField text ↔ (!text.toList.isEmpty &&
    text.toList.all fun c => !Text.isBlank c && c != ';') = true := by
  -- the right-hand side is what `decide` evaluates on names and signs
  simp only [Bool.and_eq_true, Bool.not_eq_true', List.isEmpty_eq_false_iff, List.all_eq_true,
    bne_iff_ne]
  exact ⟨fun field => ⟨field.nonempty, field.solid⟩, fun both => ⟨both.1, both.2⟩⟩

instance (text : String) : Decidable (IsField text) := decidable_of_iff _ (isField_iff text).symm

theorem IsField.append {first second : String} (left : IsField first) (right : IsField second) :
    IsField (first ++ second) where
  nonempty := by simp [left.nonempty]
  solid c member := by
    rw [String.toList_append, List.mem_append] at member
    exact member.elim (left.solid c) (right.solid c)

theorem IsField.fields_append {text : String} (field : IsField text) {rest : List Char}
    (ends : rest.head?.all Text.isBlank = true) :
    Text.fields (text.toList ++ rest) = text.toList :: Text.fields rest :=
  Text.fields_append field.nonempty (fun c member => (field.solid c member).1) ends

theorem IsField.notMem {text : String} (field : IsField text) {c : Char}
    (separates : Text.isBlank c = true ∨ c = ';') : c ∉ text.toList := by
  intro member
  have solid := field.solid c member
  simp [solid] at separates


/-- Three fields that a line can have. -/
structure Writable (label name operand : String) : Prop where
  label : label = "" ∧ (Opcode.ofMnemonic? name).isSome = true ∨
    IsField label ∧ Opcode.ofMnemonic? label = none
  name : IsField name
  operand : IsField operand

/-- The fields as they are written on a line. -/
def written (fields : List String) : List String := fields.filter (· ≠ "")

/-- Puts fields in the place of those of a line. -/
def rewritten (fields : List String) (line : List Char) : List Char :=
  Text.replaceFields ((written fields).map String.toList) (uncommented line) ++
    line.dropWhile (· ≠ ';')

variable {label name operand : String} {line : List Char}

theorem IsField.ne_empty {text : String} (field : IsField text) : text ≠ "" := by
  rintro rfl
  exact field.nonempty rfl

theorem IsField.dense {text : String} (field : IsField text) : Text.Dense text.toList :=
  ⟨field.nonempty, fun c member => (field.solid c member).1⟩

theorem isField_of_mem_fields {field : List Char}
    (member : field ∈ Text.fields (uncommented line)) : IsField (String.ofList field) := by
  obtain ⟨⟨nonempty, dense⟩, within⟩ := Text.dense_of_mem_fields member
  refine ⟨by rwa [String.toList_ofList], ?_⟩
  rw [String.toList_ofList]
  intro c inside
  refine ⟨dense c inside, ?_⟩
  rintro rfl
  exact (Text.cut ';' line).2.1 (within _ inside)

theorem Writable.labelFirst (writable : Writable label name operand) (rest : List String) :
    labelFirst (written [label, name, operand] ++ rest) = [label, name, operand] := by
  have name := writable.name.ne_empty
  have operand := writable.operand.ne_empty
  rcases writable.label with ⟨rfl, known⟩ | ⟨field, unknown⟩
  · simp [written, Assembly.labelFirst, name, operand, known]
  · simp [written, Assembly.labelFirst, name, operand, field.ne_empty, unknown]

/-- What a line has as its fields is written there. -/
theorem writable_of_fieldsOfLine (found : fieldsOfLine line = [label, name, operand]) :
    Writable label name operand ∧
      ∃ rest, (Text.fields (uncommented line)).map String.ofList =
        written [label, name, operand] ++ rest := by
  have field : ∀ token ∈ (Text.fields (uncommented line)).map String.ofList, IsField token :=
    List.forall_mem_map.mpr fun _ member => isField_of_mem_fields member
  rw [fieldsOfLine] at found
  cases tokens : (Text.fields (uncommented line)).map String.ofList with
  | nil => simp [tokens, labelFirst] at found
  | cons first more =>
    rw [tokens, List.forall_mem_cons] at field
    rw [tokens, labelFirst] at found
    split at found
    next known =>
      cases more with
      | nil => simp at found
      | cons second rest =>
        simp only [List.take_succ_cons, List.take_zero, List.cons.injEq] at found
        obtain ⟨rfl, rfl, rfl, -⟩ := found
        have second := field.2 _ List.mem_cons_self
        refine ⟨⟨.inl ⟨rfl, known⟩, field.1, second⟩, rest, ?_⟩
        simp [written, field.1.ne_empty, second.ne_empty]
    next unknown =>
      rcases more with _ | ⟨second, _ | ⟨third, rest⟩⟩
      · simp at found
      · simp at found
      · simp only [List.take_succ_cons, List.take_zero, List.cons.injEq] at found
        obtain ⟨rfl, rfl, rfl, -⟩ := found
        have second := field.2 _ List.mem_cons_self
        have third := field.2 _ (List.mem_cons_of_mem _ List.mem_cons_self)
        rw [Bool.not_eq_true, Option.isSome_eq_false_iff, Option.isNone_iff_eq_none] at unknown
        refine ⟨⟨.inr ⟨field.1, unknown⟩, second, third⟩, rest, ?_⟩
        simp [written, field.1.ne_empty, second.ne_empty, third.ne_empty]

theorem Writable.isField_of_mem_written (writable : Writable label name operand) :
    ∀ field ∈ written [label, name, operand], IsField field := by
  intro field member
  rw [written, List.mem_filter, decide_eq_true_eq] at member
  obtain ⟨among, nonempty⟩ := member
  simp only [List.mem_cons, List.not_mem_nil, or_false] at among
  rcases among with rfl | rfl | rfl
  · exact (writable.label.resolve_left fun unlabelled => nonempty unlabelled.1).1
  · exact writable.name
  · exact writable.operand

theorem Writable.length_written (writable : Writable label name operand) :
    (written [label, name, operand]).length = if label = "" then 2 else 3 := by
  by_cases unlabelled : label = "" <;>
    simp [written, unlabelled, writable.name.ne_empty, writable.operand.ne_empty]

theorem rewritten_nil (line : List Char) : rewritten [] line = line :=
  List.takeWhile_append_dropWhile

/-- Only the code of a line is written anew. -/
theorem uncommented_rewritten {fields : List String}
    (solid : ∀ field ∈ written fields, IsField field) (line : List Char) :
    uncommented (rewritten fields line) =
      Text.replaceFields ((written fields).map String.toList) (uncommented line) := by
  obtain ⟨-, front, stops⟩ := Text.cut ';' line
  refine (Text.cut_append (fun member => ?_) stops).1
  rcases Text.mem_replaceFields member with old | ⟨_, new, inside⟩
  · exact front old
  · obtain ⟨field, present, rfl⟩ := List.mem_map.mp new
    exact (solid field present).notMem (.inr rfl) inside

theorem fieldsOfLine_rewritten {label' name' operand' : String}
    (found : fieldsOfLine line = [label, name, operand]) (writable : Writable label' name' operand')
    (labelled : label = "" ↔ label' = "") :
    fieldsOfLine (rewritten [label', name', operand'] line) = [label', name', operand'] := by
  obtain ⟨old, rest, tokens⟩ := writable_of_fieldsOfLine found
  have solid := writable.isField_of_mem_written
  have enough : ((written [label', name', operand']).map String.toList).length ≤
      (Text.fields (uncommented line)).length := by
    have length := congrArg List.length tokens
    rw [List.length_map, List.length_append, old.length_written] at length
    simp only [List.length_map, writable.length_written, ← labelled, length]
    omega
  have dense : ∀ field ∈ (written [label', name', operand']).map String.toList, Text.Dense field :=
    List.forall_mem_map.mpr fun field member => (solid field member).dense
  rw [fieldsOfLine, uncommented_rewritten solid, Text.fields_replaceFields dense enough,
    List.map_append, List.map_map]
  simp only [Function.comp_def, String.ofList_toList, List.map_id']
  exact writable.labelFirst _

/-! ### Lines and pieces -/

theorem uncommented_append_of_notMem {front : List Char} (plain : ';' ∉ front) (back : List Char) :
    uncommented (front ++ back) = front ++ uncommented back := by
  refine List.takeWhile_append_of_pos fun c member => ?_
  rw [decide_eq_true_eq]
  rintro rfl
  exact plain member

theorem uncommented_append_of_mem {front : List Char} (commented : ';' ∈ front) (back : List Char) :
    uncommented (front ++ back) = uncommented front := by
  obtain ⟨parts, plain, stops⟩ := Text.cut ';' front
  have rest : Text.StopsAt ';' (front.dropWhile (· ≠ ';') ++ back) := by
    rcases stops with none | ⟨more, found⟩
    · rw [none, List.append_nil] at parts
      exact absurd (parts ▸ commented) plain
    · exact .inr ⟨more ++ back, by rw [found, List.cons_append]⟩
  nth_rewrite 1 [parts]
  rw [List.append_assoc]
  exact (Text.cut_append plain rest).1

theorem uncommented_of_notMem {line : List Char} (plain : ';' ∉ line) : uncommented line = line := by
  have whole := uncommented_append_of_notMem plain []
  have nothing : uncommented [] = [] := rfl
  rwa [nothing, List.append_nil] at whole

/-- A carriage return at the end of a line is blank, or part of the comment. -/
theorem fieldsOfLine_concat_carriageReturn (line : List Char) :
    fieldsOfLine (line ++ ['\r']) = fieldsOfLine line := by
  rw [fieldsOfLine, fieldsOfLine]
  by_cases commented : ';' ∈ line
  · rw [uncommented_append_of_mem commented]
  · have blank : Text.isBlank '\r' = true := by decide
    have plain : uncommented ['\r'] = ['\r'] := rfl
    rw [uncommented_of_notMem commented, uncommented_append_of_notMem commented, plain,
      Text.fields_concat_of_blank blank]

/-- The fields of the lines that are not blank. -/
def recordedFields (lines : List (List Char)) : List (List String) :=
  (lines.map fieldsOfLine).filter (· ≠ [])

theorem recordedFields_cons (line : List Char) (lines : List (List Char)) :
    recordedFields (line :: lines) =
      if fieldsOfLine line = [] then recordedFields lines
      else fieldsOfLine line :: recordedFields lines := by
  by_cases blank : fieldsOfLine line = [] <;> simp [recordedFields, blank]

theorem fieldLists_eq_recordedFields (source : String) :
    fieldLists source = recordedFields (Text.lines source.toList) := by
  rw [fieldLists]
  induction Text.lines source.toList with
  | nil => rfl
  | cons line rest ih =>
    rw [recordedFields_cons, ← ih]
    by_cases blank : (uncommented line).all Text.isBlank = true
    · simp [blank, (fieldsOfLine_eq_nil_iff line).mpr blank]
    · rw [if_neg (mt (fieldsOfLine_eq_nil_iff line).mp blank)]
      simp [blank, fieldsOfLine]

/-- The fields may as well be read off the pieces between the line feeds. -/
theorem recordedFields_pieces (text : List Char) :
    recordedFields (Text.pieces '\n' text) = recordedFields (Text.lines text) := by
  induction text using Text.cut_induction '\n' with
  | whole text whole =>
    rw [Text.pieces_of_notMem whole, Text.lines_of_notMem whole]
    split
    next empty => rw [empty]; rfl
    · rfl
  | behind front back whole ih =>
    obtain ⟨line, found, ends⟩ := Text.exists_line_of_lineFeed whole back
    have same : fieldsOfLine front = fieldsOfLine line := by
      rcases ends with rfl | rfl
      · rfl
      · exact fieldsOfLine_concat_carriageReturn line
    rw [Text.pieces_append, Text.pieces_of_notMem whole, List.singleton_append, found,
      recordedFields_cons, recordedFields_cons, same, ih]

end Cardiac.Assembly
