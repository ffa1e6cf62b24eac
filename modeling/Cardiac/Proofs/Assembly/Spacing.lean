import Mathlib.Logic.Relation
import Cardiac.Proofs.Assembly.Correspondence

/-!
# Blanks, comments and line ends

Sources can be laid out anew without a change to what they are: indented otherwise, with other comments,
with further fields behind the operand, with blank lines and with either kind of line ends. None of this
changes the fields of the lines with code, so the same program or error comes of the source, and only
the numbers of lines move.
-/
namespace Cardiac.Assembly

/-- One change to a line that leaves its code as it is. -/
inductive LineEdit : List Char → List Char → Prop where
  | indentation {old new code : List Char} (oldBlank : ∀ c ∈ old, Text.isBlank c = true)
      (newBlank : ∀ c ∈ new, Text.isBlank c = true) : LineEdit (old ++ code) (new ++ code)
  | spacing {front old new back : List Char} (oldBlank : ∀ c ∈ old, Text.isBlank c = true)
      (newBlank : ∀ c ∈ new, Text.isBlank c = true) (oldSome : old ≠ []) (newSome : new ≠ []) :
      LineEdit (front ++ (old ++ back)) (front ++ (new ++ back))
  /-- A comment gets another text, or comes or goes. -/
  | comment {code old new : List Char} (plain : ';' ∉ code) (oldComment : Text.StopsAt ';' old)
      (newComment : Text.StopsAt ';' new) : LineEdit (code ++ old) (code ++ new)
  /-- More fields stand behind three that are there, and before a comment. -/
  | trailing {code more comment : List Char} (plain : ';' ∉ code) (morePlain : ';' ∉ more)
      (behind : Text.StopsAt ';' comment) (ends : more.head?.all Text.isBlank = true)
      (full : (fieldsOfLine code).length = 3) :
      LineEdit (code ++ comment) (code ++ (more ++ comment))
  | lineEnd {line : List Char} : LineEdit line (line ++ ['\r'])

/-- One change to the lines of a source, taken as they stand between line feeds: one of them is edited,
or a line without code comes between them. -/
inductive Edit : List (List Char) → List (List Char) → Prop where
  | line {front back : List (List Char)} {old new : List Char} (edit : LineEdit old new) :
      Edit (front ++ old :: back) (front ++ new :: back)
  | insertion {front back : List (List Char)} {line : List Char}
      (blank : (uncommented line).all Text.isBlank = true) :
      Edit (front ++ back) (front ++ line :: back)

/-- The text with a carriage return before every line feed. -/
def carriageReturned (text : List Char) : List Char :=
  text.flatMap fun c => if c = '\n' then ['\r', '\n'] else [c]

def withCarriageReturns (source : String) : String := String.ofList (carriageReturned source.toList)

/-! ### Lines -/

theorem semicolon_notMem_of_blank {text : List Char} (blank : ∀ c ∈ text, Text.isBlank c = true) :
    ';' ∉ text := fun member => absurd (blank ';' member) (by decide)

/-- Blanks in the place of blanks cut a text into the same fields. -/
theorem fields_respaced {front old new back : List Char}
    (oldBlank : ∀ c ∈ old, Text.isBlank c = true) (newBlank : ∀ c ∈ new, Text.isBlank c = true)
    (oldSome : old ≠ []) (newSome : new ≠ []) :
    Text.fields (front ++ (old ++ back)) = Text.fields (front ++ (new ++ back)) := by
  have ends {blanks : List Char} (blank : ∀ c ∈ blanks, Text.isBlank c = true)
      (some : blanks ≠ []) : (blanks ++ back).head?.all Text.isBlank = true := by
    cases blanks with
    | nil => exact absurd rfl some
    | cons c more => exact blank c List.mem_cons_self
  rw [Text.fields_append_of_ends (ends oldBlank oldSome),
    Text.fields_append_of_ends (ends newBlank newSome), Text.fields_append_of_blanks oldBlank,
    Text.fields_append_of_blanks newBlank]

theorem labelFirst_append {fields : List String} (full : (labelFirst fields).length = 3)
    (more : List String) : labelFirst (fields ++ more) = labelFirst fields := by
  cases fields with
  | nil => cases full
  | cons first rest =>
    simp only [labelFirst, List.cons_append] at full ⊢
    split at full
    next known =>
      rw [if_pos known, if_pos known, ← List.cons_append, ← List.cons_append]
      refine List.take_append_of_le_length ?_
      rw [List.length_take] at full
      omega
    next unknown =>
      rw [if_neg unknown, if_neg unknown, ← List.cons_append]
      refine List.take_append_of_le_length ?_
      rw [List.length_take] at full
      omega

theorem fieldsOfLine_of_edit {old new : List Char} (edit : LineEdit old new) :
    fieldsOfLine old = fieldsOfLine new := by
  cases edit with
  | @indentation old new code oldBlank newBlank =>
    rw [fieldsOfLine, fieldsOfLine,
      uncommented_append_of_notMem (semicolon_notMem_of_blank oldBlank),
      uncommented_append_of_notMem (semicolon_notMem_of_blank newBlank),
      Text.fields_append_of_blanks oldBlank, Text.fields_append_of_blanks newBlank]
  | @spacing front old new back oldBlank newBlank oldSome newSome =>
    by_cases commented : ';' ∈ front
    · -- the blanks belong to the comment
      rw [fieldsOfLine, fieldsOfLine, uncommented_append_of_mem commented,
        uncommented_append_of_mem commented]
    · rw [fieldsOfLine, fieldsOfLine, uncommented_append_of_notMem commented,
        uncommented_append_of_notMem commented,
        uncommented_append_of_notMem (semicolon_notMem_of_blank oldBlank),
        uncommented_append_of_notMem (semicolon_notMem_of_blank newBlank),
        fields_respaced oldBlank newBlank oldSome newSome]
  | @comment code old new plain oldComment newComment =>
    have first : uncommented (code ++ old) = code := (Text.cut_append plain oldComment).1
    have second : uncommented (code ++ new) = code := (Text.cut_append plain newComment).1
    rw [fieldsOfLine, fieldsOfLine, first, second]
  | @trailing code more comment plain morePlain behind ends full =>
    have first : uncommented (code ++ comment) = code := (Text.cut_append plain behind).1
    have second : uncommented (more ++ comment) = more := (Text.cut_append morePlain behind).1
    rw [fieldsOfLine, uncommented_of_notMem plain] at full
    rw [fieldsOfLine, fieldsOfLine, first, uncommented_append_of_notMem plain, second,
      Text.fields_append_of_ends ends, List.map_append, labelFirst_append full]
  | lineEnd => exact (fieldsOfLine_concat_carriageReturn old).symm

/-! ### Sources -/

theorem recordedFields_append (front back : List (List Char)) :
    recordedFields (front ++ back) = recordedFields front ++ recordedFields back := by
  simp [recordedFields]

theorem recordedFields_of_edit {lines others : List (List Char)} (edit : Edit lines others) :
    recordedFields lines = recordedFields others := by
  cases edit with
  | line edit =>
    rw [recordedFields_append, recordedFields_append, recordedFields_cons, recordedFields_cons,
      fieldsOfLine_of_edit edit]
  | insertion blank =>
    rw [recordedFields_append, recordedFields_append, recordedFields_cons,
      if_pos ((fieldsOfLine_eq_nil_iff _).mpr blank)]

/-- However many edits lead from one source to the other, in either direction. -/
theorem fieldLists_of_edits {source other : String}
    (edits : Relation.EqvGen Edit (Text.pieces '\n' source.toList)
      (Text.pieces '\n' other.toList)) : fieldLists source = fieldLists other := by
  have same {lines others : List (List Char)} (edits : Relation.EqvGen Edit lines others) :
      recordedFields lines = recordedFields others := by
    induction edits with
    | rel _ _ edit => exact recordedFields_of_edit edit
    | refl _ => rfl
    | symm _ _ _ ih => exact ih.symm
    | trans _ _ _ _ _ first second => exact first.trans second
  rw [fieldLists_eq_recordedFields, fieldLists_eq_recordedFields, ← recordedFields_pieces,
    ← recordedFields_pieces other.toList, same edits]

theorem carriageReturned_of_notMem {text : List Char} (whole : '\n' ∉ text) :
    carriageReturned text = text := by
  induction text with
  | nil => rfl
  | cons c text ih =>
    rw [List.mem_cons, not_or] at whole
    rw [carriageReturned, List.flatMap_cons, if_neg (Ne.symm whole.1)]
    exact congrArg (c :: ·) (ih whole.2)

theorem carriageReturned_append {front : List Char} (whole : '\n' ∉ front) (back : List Char) :
    carriageReturned (front ++ '\n' :: back) =
      front ++ ['\r'] ++ '\n' :: carriageReturned back := by
  have same := carriageReturned_of_notMem whole
  rw [carriageReturned] at same
  rw [carriageReturned, List.flatMap_append, List.flatMap_cons, if_pos rfl, same, carriageReturned]
  simp

theorem recordedFields_carriageReturned (text : List Char) :
    recordedFields (Text.pieces '\n' (carriageReturned text)) =
      recordedFields (Text.pieces '\n' text) := by
  induction text using Text.cut_induction '\n' with
  | whole text whole => rw [carriageReturned_of_notMem whole]
  | behind front back whole ih =>
    have longer : '\n' ∉ front ++ ['\r'] := by simp [whole]
    rw [carriageReturned_append whole, Text.pieces_append, Text.pieces_append,
      Text.pieces_of_notMem whole, Text.pieces_of_notMem longer, recordedFields_append,
      recordedFields_append, ih, recordedFields_cons, recordedFields_cons,
      fieldsOfLine_concat_carriageReturn]

theorem fieldLists_withCarriageReturns (source : String) :
    fieldLists (withCarriageReturns source) = fieldLists source := by
  rw [fieldLists_eq_recordedFields, fieldLists_eq_recordedFields, withCarriageReturns,
    String.toList_ofList, ← recordedFields_pieces, ← recordedFields_pieces source.toList,
    recordedFields_carriageReturned]

/-- The layout of a source, its comments and its line ends do not matter to what is assembled. -/
theorem layout_irrelevant (source other : String) :
    (fieldLists source = fieldLists other → AssembledAlike source other) ∧
    (Relation.EqvGen Edit (Text.pieces '\n' source.toList) (Text.pieces '\n' other.toList) →
      AssembledAlike source other) ∧
    AssembledAlike source (withCarriageReturns source) := by
  refine ⟨assembledAlike_of_fieldLists, fun edits => ?_, ?_⟩
  · exact assembledAlike_of_fieldLists (fieldLists_of_edits edits)
  · exact assembledAlike_of_fieldLists (fieldLists_withCarriageReturns source).symm

/-- Two spellings of a program come to the same image. And two other sources are refused for the same
operand, which is on the second line with code in either. A comment between the lines alone would only
move the second one. -/
theorem relaid_source_refused_alike :
    let program : AssembledProgram := ⟨[("N", 3)], 4, ⟨[(2, .jumpTo 0),
      (3, ⟨7, by decide, by decide⟩), (4, ⟨503, by decide, by decide⟩),
      (5, ⟨900, by decide, by decide⟩), (2, .jumpTo 4)]⟩⟩
    let seven := "N DATA 7\nOUT N\nHRS 0\n"
    let respelled := "; seven\r\nN\tDATA 7 cards\n\n  OUT N ; 8\r\nHRS  0"
    let source := "HRS 0\nX CLA 100\n"
    let relaid := "; stop\r\n\n\tHRS  0 now ; 100\r\nX CLA 100"
    let commented := "HRS 0\n; stop\nX CLA 100\n"
    assemble seven = .ok program ∧ assemble respelled = .ok program ∧
      assemble source = .error (.operandOutOfRange 2 100) ∧
      assemble relaid = .error (.operandOutOfRange 4 100) ∧
      AssembledAlike source relaid ∧ AssembledAlike source commented := by
  intro program seven respelled source relaid commented
  have accepted : assemble seven = .ok program := by cbv
  have spelled : fieldLists seven = fieldLists respelled := by decide
  have same : fieldLists source = fieldLists relaid := by decide
  have before : Text.pieces '\n' source.toList =
      ["HRS 0".toList] ++ ["X CLA 100".toList, []] := by decide
  have after : Text.pieces '\n' commented.toList =
      ["HRS 0".toList] ++ "; stop".toList :: ["X CLA 100".toList, []] := by decide
  have edits : Relation.EqvGen Edit (Text.pieces '\n' source.toList)
      (Text.pieces '\n' commented.toList) := by
    rw [before, after]
    exact .rel _ _ (.insertion (by decide))
  exact ⟨accepted, ((layout_irrelevant seven respelled).1 spelled).eq_ok accepted,
    by decide, by decide, (layout_irrelevant source relaid).1 same,
    (layout_irrelevant source commented).2.1 edits⟩

end Cardiac.Assembly
