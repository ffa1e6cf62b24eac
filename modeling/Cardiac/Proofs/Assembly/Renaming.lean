import Cardiac.Proofs.Assembly.Operands

/-!
# Labels under other names

The names of labels do not matter to a program. They can be replaced by any others that can stand on
a line as labels and are not mistaken for each other or for an operand that was no label. Data is
never looked up, and keeps its text.
-/
namespace Cardiac.Assembly

/-- The fields of a line under other names, if these are the known labels. -/
def renameFields (known : List String) (rename : String → String) : List String → List String
  | [label, name, operand] =>
    [if label = "" then "" else rename label, name,
      if name ≠ "DATA" ∧ operand ∈ known then rename operand else operand]
  | fields => fields

def renameLine (known : List String) (rename : String → String) (line : List Char) : List Char :=
  rewritten (renameFields known rename (fieldsOfLine line)) line

/-- Gives the labels of a source other names, where they are defined and where they are used. -/
def renameSource (rename : String → String) (source : String) : String :=
  let known := definedLabels (Text.lines source.toList)
  String.ofList (['\n'].intercalate
    ((Text.pieces '\n' source.toList).map (renameLine known rename)))

/-- Names that labels can be given on lines with these fields. -/
structure Renaming (known : List String) (lines : List (List String)) (rename : String → String) :
    Prop where
  injective : ∀ first ∈ known, ∀ second ∈ known, rename first = rename second → first = second
  field : ∀ label ∈ known, IsField (rename label)
  unknown : ∀ label ∈ known, Opcode.ofMnemonic? (rename label) = none
  /-- An instruction's operand that is no label does not become one. -/
  free : ∀ label ∈ known, ∀ other name operand, [other, name, operand] ∈ lines →
    name ≠ "DATA" → operand ∉ known → rename label ≠ operand

/-! ### Entries -/

/-- The other entry is the same under other names, perhaps on another line. -/
structure Entry.RenamedTo (known : List String) (rename : String → String) (entry other : Entry) :
    Prop where
  label : other.label = if entry.label = "" then "" else rename entry.label
  operation : other.operation = entry.operation
  operand : other.operand =
    if entry.operation ≠ .data ∧ entry.operand ∈ known then rename entry.operand else entry.operand

theorem exists_renamed {known : List String} {rename : String → String} {entries : List Entry}
    {statements : List Statement}
    (fields : statements.map Statement.fields =
      entries.map fun entry => renameFields known rename entry.fields) :
    ∃ others, List.Forall₂ Entry.Of statements others ∧
      List.Forall₂ (Entry.RenamedTo known rename) entries others := by
  induction entries generalizing statements with
  | nil =>
    rw [List.map_nil, List.map_eq_nil_iff] at fields
    subst fields
    exact ⟨[], .nil, .nil⟩
  | cons entry entries ih =>
    obtain ⟨statement, rest, rfl, first, later⟩ := List.map_eq_cons_iff.mp fields
    obtain ⟨others, related, renamed⟩ := ih later
    refine ⟨⟨statement.line, if entry.label = "" then "" else rename entry.label, entry.operation,
      if entry.operation ≠ .data ∧ entry.operand ∈ known then rename entry.operand
      else entry.operand⟩ :: others, .cons ⟨rfl, ?_⟩ related, .cons ⟨rfl, rfl, rfl⟩ renamed⟩
    simp only [first, Entry.fields, renameFields, ne_eq, name_eq_data_iff]

theorem lookup_map {rename : String → String} {key : String} {table : List (String × Nat)}
    (distinct : ∀ pair ∈ table, rename pair.1 = rename key → pair.1 = key) :
    (table.map fun pair => (rename pair.1, pair.2)).lookup (rename key) = table.lookup key := by
  induction table with
  | nil => rfl
  | cons pair rest ih =>
    rw [List.forall_mem_cons] at distinct
    have same : (rename key == rename pair.1) = (key == pair.1) := by
      rw [Bool.eq_iff_iff, beq_iff_eq, beq_iff_eq]
      exact ⟨fun equal => (distinct.1 equal.symm).symm, fun equal => equal ▸ rfl⟩
    rw [List.map_cons, List.lookup_cons, List.lookup_cons, same, ih distinct.2]

/-- Operands that are looked up with the same result have the same value, on whichever line. -/
theorem resolve_of_lookup {symbols table : List (String × Nat)} {line number : Nat}
    {operand other : String} (found : table.lookup other = symbols.lookup operand)
    (same : symbols.lookup operand = none → other = operand) {value : Int}
    (resolved : resolve symbols line operand = .ok value) :
    resolve table number other = .ok value := by
  unfold resolve at resolved ⊢
  rw [found]
  cases lookup : symbols.lookup operand with
  | some address => simpa only [lookup] using resolved
  | none =>
    simp only [lookup, same lookup] at resolved ⊢
    cases read : Text.integer64? operand.toList with
    | some literal => simpa only [read] using resolved
    | none => simp [read] at resolved

theorem forall₂_of_common {α β γ : Type} {first : α → β → Prop} {second : α → γ → Prop}
    {both : β → γ → Prop} {common : List α} {left : List β} {right : List γ}
    (toLeft : List.Forall₂ first common left) (toRight : List.Forall₂ second common right)
    (each : ∀ x ∈ common, ∀ y z, first x y → second x z → both y z) :
    List.Forall₂ both left right := by
  induction toLeft generalizing right with
  | nil =>
    cases toRight
    exact .nil
  | cons related _ ih =>
    cases toRight with
    | cons other rest =>
      rw [List.forall_mem_cons] at each
      exact .cons (each.1 _ _ related other) (ih rest each.2)

section Entries

variable {known : List String} {rename : String → String} {entries others : List Entry}

theorem definitions_renamed (renamed : List.Forall₂ (Entry.RenamedTo known rename) entries others)
    (nonempty : ∀ entry ∈ entries, entry.label ≠ "" → rename entry.label ≠ "") :
    definitions others = (definitions entries).map fun pair => (rename pair.1, pair.2) := by
  rw [definitions, definitions]
  -- the addresses count up alike, wherever they start
  generalize firstAddress = address
  induction renamed generalizing address with
  | nil => rfl
  | @cons entry other entries others first _ ih =>
    rw [List.forall_mem_cons] at nonempty
    have rest := ih nonempty.2 (address + 1)
    by_cases unlabelled : entry.label = ""
    · have same : other.label = "" := by rw [first.label, if_pos unlabelled]
      simp [List.zipIdx_cons, unlabelled, same, rest]
    · have same : other.label = rename entry.label := by rw [first.label, if_neg unlabelled]
      simp [List.zipIdx_cons, unlabelled, same, nonempty.1 unlabelled, rest]

theorem findIdx?_renamed (renamed : List.Forall₂ (Entry.RenamedTo known rename) entries others) :
    others.findIdx? (·.operation ≠ .data) = entries.findIdx? (·.operation ≠ .data) := by
  induction renamed with
  | nil => rfl
  | cons first _ ih => rw [List.findIdx?_cons, List.findIdx?_cons, first.operation, ih]

variable (allowed : Renaming (labels entries) (entries.map Entry.fields) rename)

include allowed

theorem Renaming.ne_empty : ∀ entry ∈ entries, entry.label ≠ "" → rename entry.label ≠ "" :=
  fun _ member labelled =>
    (allowed.field _ (mem_labels_iff.mpr ⟨labelled, List.mem_map_of_mem member⟩)).ne_empty

theorem labels_renamed (renamed : List.Forall₂ (Entry.RenamedTo known rename) entries others) :
    labels others = (labels entries).map rename := by
  rw [← map_fst_definitions, definitions_renamed renamed allowed.ne_empty, ← map_fst_definitions,
    List.map_map, List.map_map]
  rfl

theorem fits_renamed (renamed : List.Forall₂ (Entry.RenamedTo known rename) entries others)
    (fits : Fits entries) : Fits others where
  bounded := renamed.length_eq ▸ fits.bounded
  distinct := by
    rw [labels_renamed allowed renamed]
    exact (List.nodup_map_iff_inj_on fits.distinct).mpr allowed.injective

/-- An operand is looked up under its new name with the same result. -/
theorem lookup_renamed (renamed : List.Forall₂ (Entry.RenamedTo (labels entries) rename) entries others)
    {entry other : Entry} (member : entry ∈ entries)
    (same : entry.RenamedTo (labels entries) rename other) (code : entry.operation ≠ .data) :
    (definitions others).lookup other.operand = (definitions entries).lookup entry.operand := by
  by_cases known : entry.operand ∈ labels entries
  · rw [same.operand, if_pos ⟨code, known⟩, definitions_renamed renamed allowed.ne_empty]
    refine lookup_map fun pair defined equal => allowed.injective _ ?_ _ known equal
    rw [← map_fst_definitions]
    exact List.mem_map_of_mem defined
  · rw [same.operand, if_neg fun both => known both.2, lookup_of_notMem_labels known]
    refine lookup_of_notMem_labels fun taken => ?_
    rw [labels_renamed allowed renamed, List.mem_map] at taken
    obtain ⟨label, defined, equal⟩ := taken
    refine allowed.free label defined entry.label entry.operation.name entry.operand
      (List.mem_map_of_mem member) ?_ known equal
    rwa [ne_eq, name_eq_data_iff]

theorem yields_renamed (renamed : List.Forall₂ (Entry.RenamedTo (labels entries) rename) entries others)
    {entry other : Entry} (member : entry ∈ entries)
    (same : entry.RenamedTo (labels entries) rename other) (fits : Fits entries) {word : Word}
    (yields : entry.Yields (definitions entries) word) : other.Yields (definitions others) word := by
  intro address
  have returned := yields address
  cases operation : entry.operation with
  | data =>
    have operand : other.operand = entry.operand := by
      rw [same.operand, if_neg fun both => both.1 operation]
    simp only [Placement.word, operation, same.operation, operand] at returned ⊢
    cases parsed : Word.parse entry.operand with
    | error error => simp [parsed] at returned
    | ok literal => simpa only [parsed] using returned
  | code opcode =>
    have executable : entry.operation ≠ .data := by simp [operation]
    have found := lookup_renamed allowed renamed member same executable
    have unlabelled (missing : (definitions entries).lookup entry.operand = none) :
        other.operand = entry.operand := by
      rw [same.operand, if_neg fun both => ?_]
      obtain ⟨_, -, defined⟩ := exists_lookup_of_mem_labels fits both.2
      rw [missing] at defined
      cases defined
    rw [Placement.word_of_code operation] at returned
    rw [Placement.word_of_code (same.operation.trans operation)]
    simp only at returned ⊢
    cases resolved : resolve (definitions entries) entry.line entry.operand with
    | error error => simp [resolved] at returned
    | ok value =>
      rw [resolve_of_lookup found unlabelled resolved]
      simp only [resolved] at returned ⊢
      split at returned
      next inside => rwa [if_pos inside]
      · cases returned

/-- Entries under other names have the same words. -/
theorem encoded_renamed (renamed : List.Forall₂ (Entry.RenamedTo (labels entries) rename) entries others)
    (fits : Fits entries) {words : List Word}
    (encoded : List.Forall₂ (fun entry word => entry.Yields (definitions entries) word)
      entries words) :
    List.Forall₂ (fun other word => other.Yields (definitions others) word) others words :=
  forall₂_of_common renamed encoded fun _ member _ _ same yields =>
    yields_renamed allowed renamed member same fits yields

end Entries

/-! ### Lines -/

section Lines

variable {known : List String} {rename : String → String} {lines : List (List String)}
  (allowed : Renaming known lines rename)

theorem renameFields_eq_nil_iff (fields : List String) :
    renameFields known rename fields = [] ↔ fields = [] := by
  unfold renameFields
  split <;> simp

theorem renameLine_of_blank {line : List Char} (blank : fieldsOfLine line = []) :
    renameLine known rename line = line := by
  rw [renameLine, blank]
  exact rewritten_nil line

include allowed

variable {label name operand : String}

theorem Writable.renamed (writable : Writable label name operand)
    (defined : label ≠ "" → label ∈ known) :
    Writable (if label = "" then "" else rename label) name
      (if name ≠ "DATA" ∧ operand ∈ known then rename operand else operand) where
  label := by
    split
    next unlabelled =>
      rcases writable.label with both | ⟨field, -⟩
      · exact .inl ⟨rfl, both.2⟩
      · exact absurd unlabelled field.ne_empty
    next labelled =>
      exact .inr ⟨allowed.field label (defined labelled), allowed.unknown label (defined labelled)⟩
  name := writable.name
  operand := by
    split
    next both => exact allowed.field operand both.2
    · exact writable.operand

variable {line : List Char}

theorem fieldsOfLine_renameLine (found : fieldsOfLine line = [label, name, operand])
    (defined : label ≠ "" → label ∈ known) :
    fieldsOfLine (renameLine known rename line) =
      renameFields known rename [label, name, operand] := by
  have writable := (writable_of_fieldsOfLine found).1
  rw [renameLine, found]
  refine fieldsOfLine_rewritten found (writable.renamed allowed defined) ?_
  split
  next unlabelled => simp [unlabelled]
  next labelled => simp [labelled, (allowed.field label (defined labelled)).ne_empty]

theorem lineFeed_notMem_renameLine (whole : '\n' ∉ line)
    (found : fieldsOfLine line = [label, name, operand]) (defined : label ≠ "" → label ∈ known) :
    '\n' ∉ renameLine known rename line := by
  have writable := (writable_of_fieldsOfLine found).1.renamed allowed defined
  rw [renameLine, found, rewritten, List.mem_append, not_or]
  refine ⟨fun member => ?_, fun member => whole ((List.dropWhile_suffix _).subset member)⟩
  rcases Text.mem_replaceFields member with old | ⟨_, new, inside⟩
  · exact whole ((List.takeWhile_prefix _).subset old)
  · obtain ⟨field, present, rfl⟩ := List.mem_map.mp new
    exact (writable.isField_of_mem_written field present).notMem (.inl (by decide)) inside

end Lines

theorem recordedFields_map {lines : List (List Char)} {change : List Char → List Char}
    {edit : List String → List String}
    (edited : ∀ line ∈ lines, fieldsOfLine (change line) = edit (fieldsOfLine line))
    (kept : ∀ fields, edit fields = [] ↔ fields = []) :
    recordedFields (lines.map change) = (recordedFields lines).map edit := by
  induction lines with
  | nil => rfl
  | cons line lines ih =>
    rw [List.forall_mem_cons] at edited
    rw [List.map_cons, recordedFields_cons, recordedFields_cons, edited.1, ih edited.2]
    by_cases blank : fieldsOfLine line = []
    · rw [if_pos blank, if_pos ((kept _).mpr blank)]
    · rw [if_neg blank, if_neg (mt (kept _).mp blank), List.map_cons]

theorem mem_definedLabels {lines : List (List Char)} {label name operand : String}
    (recorded : [label, name, operand] ∈ recordedFields lines) (labelled : label ≠ "") :
    label ∈ definedLabels lines := by
  rw [definedLabels, List.mem_filter, decide_eq_true_eq, List.mem_filterMap]
  exact ⟨⟨_, recorded, rfl⟩, labelled⟩

/-- A piece of a source is blank, or has fields of which the label is defined. -/
theorem fieldsOfLine_piece {source : String}
    (three : ∀ fields ∈ fieldLists source, ∃ label name operand, fields = [label, name, operand])
    {piece : List Char} (member : piece ∈ Text.pieces '\n' source.toList) :
    fieldsOfLine piece = [] ∨ ∃ label name operand, fieldsOfLine piece = [label, name, operand] ∧
      (label ≠ "" → label ∈ definedLabels (Text.lines source.toList)) := by
  rw [fieldLists_eq_recordedFields] at three
  by_cases blank : fieldsOfLine piece = []
  · exact .inl blank
  · have recorded : fieldsOfLine piece ∈ recordedFields (Text.lines source.toList) := by
      rw [← recordedFields_pieces, recordedFields, List.mem_filter, decide_eq_true_eq]
      exact ⟨List.mem_map_of_mem member, blank⟩
    obtain ⟨label, name, operand, found⟩ := three _ recorded
    rw [found] at recorded
    exact .inr ⟨label, name, operand, found, mem_definedLabels recorded⟩

/-- The lines of the renamed source are the renamed lines. -/
theorem fieldLists_renameSource {source : String} {rename : String → String}
    (three : ∀ fields ∈ fieldLists source, ∃ label name operand, fields = [label, name, operand])
    (allowed : Renaming (definedLabels (Text.lines source.toList)) (fieldLists source) rename) :
    fieldLists (renameSource rename source) = (fieldLists source).map
      (renameFields (definedLabels (Text.lines source.toList)) rename) := by
  have unbroken : ∀ piece ∈ (Text.pieces '\n' source.toList).map
      (renameLine (definedLabels (Text.lines source.toList)) rename), '\n' ∉ piece := by
    rw [List.forall_mem_map]
    intro piece member
    have whole := Text.notMem_of_mem_pieces member
    rcases fieldsOfLine_piece three member with blank | ⟨label, name, operand, found, defined⟩
    · rwa [renameLine_of_blank blank]
    · exact lineFeed_notMem_renameLine allowed whole found defined
  rw [fieldLists_eq_recordedFields, fieldLists_eq_recordedFields, ← recordedFields_pieces,
    renameSource, String.toList_ofList,
    Text.pieces_intercalate (by simpa using Text.pieces_ne_nil '\n' source.toList) unbroken,
    ← recordedFields_pieces source.toList]
  refine recordedFields_map (fun piece member => ?_) renameFields_eq_nil_iff
  rcases fieldsOfLine_piece three member with blank | ⟨label, name, operand, found, defined⟩
  · rw [renameLine_of_blank blank, blank]
    rfl
  · rw [fieldsOfLine_renameLine allowed found defined, found]

/-! ### Programs -/

/-- A table is ordered in one way only, if no label has two addresses. -/
theorem mergeSort_eq_of_perm {table other : List (String × Nat)} (perm : table.Perm other)
    (distinct : (table.map Prod.fst).Nodup) :
    table.mergeSort (fun first second => first.1 ≤ second.1) =
      other.mergeSort fun first second => first.1 ≤ second.1 := by
  have ordered (table : List (String × Nat)) :
      (table.mergeSort fun first second => first.1 ≤ second.1).Pairwise
        fun first second => decide (first.1 ≤ second.1) = true :=
    List.pairwise_mergeSort
      (fun first second third below above => by
        rw [decide_eq_true_eq] at below above ⊢
        exact le_trans below above)
      (fun first second => by
        rw [Bool.or_eq_true, decide_eq_true_eq, decide_eq_true_eq]
        exact le_total _ _) table
  refine List.Perm.eq_of_pairwise (fun first second left right below above => ?_)
    (ordered table) (ordered other)
    ((List.mergeSort_perm ..).trans (perm.trans (List.mergeSort_perm ..).symm))
  rw [decide_eq_true_eq] at below above
  rw [List.mem_mergeSort] at left right
  exact List.inj_on_of_nodup_map distinct left (perm.mem_iff.mpr right) (le_antisymm below above)

theorem symbols_of_accepted {source : String} {entries : List Entry} {program : AssembledProgram}
    (related : List.Forall₂ Entry.Of (statements source) entries) (fits : Fits entries)
    (accepted : assemble source = .ok program) :
    program.symbols = (definitions entries).mergeSort fun first second => first.1 ≤ second.1 := by
  have laidOut := (Layout.ofStatements_eq_ok_iff ..).mpr ⟨entries, related, fits, rfl⟩
  obtain ⟨start, image, -, -, rfl⟩ := exists_image_of_accepted laidOut accepted
  rfl

/-- Labels under other names make the same program. -/
theorem renamed_labels_assemble_alike {source : String} {rename : String → String}
    {program : AssembledProgram} (accepted : assemble source = .ok program)
    (allowed : Renaming (definedLabels (Text.lines source.toList)) (fieldLists source) rename) :
    ∃ renamed, assemble (renameSource rename source) = .ok renamed ∧
      renamed.start = program.start ∧ renamed.image = program.image ∧
      renamed.symbols = (program.symbols.map fun (label, address) =>
        (rename label, address)).mergeSort fun first second => first.1 ≤ second.1 := by
  obtain ⟨entries, words, i, related, fits, first, encoded⟩ := exists_yields accepted
  have lines : fieldLists source = entries.map Entry.fields :=
    (map_fields_statements source).symm.trans (map_fields_eq related)
  have known : definedLabels (Text.lines source.toList) = labels entries := by
    rw [statements_eq_statementsOfLines] at related
    exact definedLabels_eq related
  have changed := fieldLists_renameSource (by rw [lines]; simp [Entry.fields]) allowed
  rw [known, lines] at allowed changed
  rw [← map_fields_statements, List.map_map] at changed
  obtain ⟨others, otherRelated, renamed⟩ := exists_renamed changed
  have otherFits := fits_renamed allowed renamed fits
  have otherFirst := (findIdx?_renamed renamed).trans first
  obtain ⟨start, _, same, assembled⟩ := assemble_of_words related fits first encoded
  cases accepted.symm.trans same
  obtain ⟨otherStart, result, otherAccepted, otherAssembled⟩ :=
    assemble_of_words otherRelated otherFits otherFirst (encoded_renamed allowed renamed fits encoded)
  obtain ⟨starts, image⟩ := assembled.agree otherAssembled (findIdx?_renamed renamed)
  refine ⟨result, otherAccepted, starts, image, ?_⟩
  rw [symbols_of_accepted otherRelated otherFits otherAccepted]
  refine mergeSort_eq_of_perm ?_ (map_fst_definitions others ▸ otherFits.distinct)
  rw [definitions_renamed renamed allowed.ne_empty]
  exact assembled.symbols.symm.map _

/-- One label takes the name of the other, which takes that of an operation. The data behind it and
the comment stay. -/
theorem renamed_labels_taken_over :
    let image : CardImage := ⟨[(2, .jumpTo 0), (3, ⟨105, by decide, by decide⟩),
      (4, ⟨303, by decide, by decide⟩), (5, ⟨5, by decide, by decide⟩), (2, .jumpTo 3)]⟩
    assemble "LOOP CLA 5 ; LOOP\r\n\tTAC LOOP\n\n5 DATA  5\n" =
        .ok ⟨[("5", 5), ("LOOP", 3)], 3, image⟩ ∧
      assemble "DATA CLA LOOP ; LOOP\r\n\tTAC DATA\n\nLOOP DATA  5\n" =
        .ok ⟨[("DATA", 3), ("LOOP", 5)], 3, image⟩ := by
  intro image
  let source := "LOOP CLA 5 ; LOOP\r\n\tTAC LOOP\n\n5 DATA  5\n"
  let rename (label : String) : String := if label = "LOOP" then "DATA" else "LOOP"
  have accepted : assemble source = .ok ⟨[("5", 5), ("LOOP", 3)], 3, image⟩ := by cbv
  have known : definedLabels (Text.lines source.toList) = ["LOOP", "5"] := by decide
  have lines : fieldLists source =
      [["LOOP", "CLA", "5"], ["", "TAC", "LOOP"], ["5", "DATA", "5"]] := by decide
  have allowed : Renaming (definedLabels (Text.lines source.toList)) (fieldLists source) rename := by
    rw [known, lines]
    exact
      { injective := by decide
        field := by decide
        unknown := by decide
        free := by
          intro label _ other name operand recorded
          simp only [List.mem_cons, List.not_mem_nil, or_false] at recorded
          -- the operands of the two instructions are both labels
          rcases recorded with line | line | line <;> cases line <;> simp }
  obtain ⟨⟨symbols, start, other⟩, renamed, rfl, rfl, rfl⟩ :=
    renamed_labels_assemble_alike accepted allowed
  have text : renameSource rename source =
      "DATA CLA LOOP ; LOOP\r\n\tTAC DATA\n\nLOOP DATA  5\n" := by decide
  have table : ([("5", 5), ("LOOP", 3)].map fun (label, address) => (rename label, address)) =
      [("LOOP", 5), ("DATA", 3)] := by decide
  have ordered : ([("LOOP", 5), ("DATA", 3)] : List (String × Nat)).mergeSort
      (fun first second => first.1 ≤ second.1) = [("DATA", 3), ("LOOP", 5)] := by
    simp [List.mergeSort]
  rw [text, table, ordered] at renamed
  exact ⟨accepted, renamed⟩

end Cardiac.Assembly
