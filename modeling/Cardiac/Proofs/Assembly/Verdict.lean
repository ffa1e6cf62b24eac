import Cardiac.Proofs.Assembly.Fields
import Cardiac.Proofs.Assembly.Outcomes
import Cardiac.Proofs.Assembly.Translation

/-!
# The first error of a source

The assembler goes through a source twice, and every error of the first pass comes before those of
the second. In each pass the first faulty line is reported, by its number among all lines. The
faults of a line are told here from the lines alone: what the first pass finds depends on the lines
before it, and what the second pass finds on the labels of all lines.
-/
namespace Cardiac.Assembly

/-- Why the first pass refuses a numbered line behind others with these fields. -/
def faultBehind? (earlier : List (List String)) (number : Nat) (line : List Char) :
    Option AssemblyError :=
  match fieldsOfLine line with
  | [] => none
  | [label, name, _] =>
    if name ≠ "DATA" ∧ Opcode.ofMnemonic? name = none then some (.unknownOperation number name)
    else if 97 ≤ earlier.length then some (.programTooLarge number)
    else if label ≠ "" ∧ label ∈ earlier.filterMap List.head? then
      some (.duplicateLabel number label)
    else none
  | _ => some (.tooFewFields number (String.ofList (Text.trim line)))

/-- Why the first pass refuses the line at an index, if it has taken all lines before. -/
def lineFault? (lines : List (List Char)) (i : Nat) : Option AssemblyError :=
  lines[i]?.bind (faultBehind? (recordedFields (lines.take i)) (i + 1))

/-- The labels that the lines define. -/
def definedLabels (lines : List (List Char)) : List String :=
  ((recordedFields lines).filterMap List.head?).filter (· ≠ "")

/-- Why no word comes of the operand of a numbered line. An integer of more than 64 bits is taken
for a name. -/
def operandFaultAmong? (labels : List String) (number : Nat) (line : List Char) :
    Option AssemblyError :=
  match fieldsOfLine line with
  | [_, name, operand] =>
    if name = "DATA" then
      match Word.parse operand with
      | .ok _ => none
      | .error error => some (.invalidLiteral number operand error)
    else if operand ∈ labels then none
    else
      match Text.integer64? operand.toList with
      | none => some (.undefinedLabel number operand)
      | some value =>
        if 0 ≤ value ∧ value ≤ 99 then none else some (.operandOutOfRange number value)
  | _ => none

/-- Why no word comes of the operand of the line at an index. -/
def operandFault? (lines : List (List Char)) (i : Nat) : Option AssemblyError :=
  lines[i]?.bind (operandFaultAmong? (definedLabels lines) (i + 1))

/-- A line has the mnemonic of an instruction as its operation. -/
def HasInstruction (lines : List (List Char)) : Prop :=
  ∃ fields ∈ recordedFields lines, ∃ opcode ∈ Opcode.all, fields[1]? = some opcode.mnemonic

instance (lines : List (List Char)) : Decidable (HasInstruction lines) :=
  inferInstanceAs (Decidable (∃ fields ∈ recordedFields lines, _))

/-- The fault of the first faulty line. -/
def firstFault? (lines : List (List Char)) (fault? : Nat → Option AssemblyError) :
    Option AssemblyError :=
  (List.range lines.length).findSome? fault?

/-- What is to be reported: a fault of a line, else that nothing can be started, else a fault of an
operand. -/
def verdict? (lines : List (List Char)) : Option AssemblyError :=
  match firstFault? lines (lineFault? lines) with
  | some error => some error
  | none =>
    if HasInstruction lines then firstFault? lines (operandFault? lines) else some .noEntryPoint

/-- The line that an error is about. -/
def AssemblyError.line? : AssemblyError → Option Nat
  | .tooFewFields line _ | .unknownOperation line _ | .programTooLarge line
  | .duplicateLabel line _ | .invalidLiteral line _ _ | .undefinedLabel line _
  | .operandOutOfRange line _ => some line
  | .noEntryPoint | .word _ | .address _ => none

variable {lines : List (List Char)} {i : Nat} {line : List Char}

/-! ### Lines and their statements -/

/-- The statements of lines that are counted from 1. -/
def statementsOfLines (lines : List (List Char)) : List Statement :=
  (lines.zipIdx 1).filterMap statement?

theorem statementsOfLines_take_succ (found : lines[i]? = some line) :
    statementsOfLines (lines.take (i + 1)) =
      statementsOfLines (lines.take i) ++ (statement? (line, i + 1)).toList := by
  have inside : i < lines.length := (List.getElem?_eq_some_iff.mp found).1
  rw [List.take_add_one, found, Option.toList_some, statementsOfLines, List.zipIdx_append,
    List.filterMap_append, List.length_take_of_le (Nat.le_of_lt inside), Nat.add_comm 1 i]
  cases counted : statement? (line, i + 1) <;>
    simp [statementsOfLines, List.zipIdx_cons, counted]

theorem statement?_of_blank (blank : fieldsOfLine line = []) (number : Nat) :
    statement? (line, number) = none := by
  simp only [statement?, blank]

theorem statement?_of_fields (counted : fieldsOfLine line ≠ []) (number : Nat) :
    statement? (line, number) =
      some ⟨number, String.ofList (Text.trim line), fieldsOfLine line⟩ := by
  unfold statement?
  split
  next blank => exact absurd blank counted
  · rfl

theorem map_fields_statementsOfLines (lines : List (List Char)) :
    (statementsOfLines lines).map Statement.fields = recordedFields lines := by
  rw [statementsOfLines, recordedFields]
  -- the numbers play no part, so they may start anywhere
  generalize 1 = number
  induction lines generalizing number with
  | nil => rfl
  | cons line rest ih =>
    by_cases blank : fieldsOfLine line = []
    · simp [List.zipIdx_cons, statement?_of_blank blank, blank, ih]
    · simp [List.zipIdx_cons, statement?_of_fields blank, blank, ih]

theorem statements_eq_statementsOfLines (source : String) :
    statements source = statementsOfLines (Text.lines source.toList) :=
  statements_eq_filterMap source

/-- The statements of a source are cut at a line that is not blank. -/
theorem exists_statements_cut (found : lines[i]? = some line) (counted : fieldsOfLine line ≠ []) :
    ∃ after, statementsOfLines lines = statementsOfLines (lines.take i) ++
      ⟨i + 1, String.ofList (Text.trim line), fieldsOfLine line⟩ :: after := by
  refine ⟨((lines.drop (i + 1)).zipIdx (1 + (lines.take (i + 1)).length)).filterMap statement?, ?_⟩
  have whole : statementsOfLines lines = statementsOfLines (lines.take (i + 1)) ++
      ((lines.drop (i + 1)).zipIdx (1 + (lines.take (i + 1)).length)).filterMap statement? := by
    nth_rewrite 1 [← List.take_append_drop (i + 1) lines]
    rw [statementsOfLines, List.zipIdx_append, List.filterMap_append]
    rfl
  rw [whole, statementsOfLines_take_succ found, statement?_of_fields counted, Option.toList_some,
    List.append_assoc, List.singleton_append]

theorem filterMap_head?_fields (entries : List Entry) :
    (entries.map Entry.fields).filterMap List.head? = entries.map Entry.label := by
  induction entries with
  | nil => rfl
  | cons entry rest ih => exact congrArg (entry.label :: ·) ih

theorem mem_labels_iff {entries : List Entry} {label : String} :
    label ∈ labels entries ↔ label ≠ "" ∧ label ∈ entries.map Entry.label := by
  rw [labels, List.mem_filter, decide_eq_true_eq, and_comm]

/-! ### The first pass -/

theorem Operation.ofName?_eq_none_iff (name : String) :
    ofName? name = none ↔ name ≠ "DATA" ∧ Opcode.ofMnemonic? name = none := by
  unfold ofName?
  split <;> simp [*]

theorem exists_entry_of_known (statement : Statement) {label name operand : String}
    (fields : statement.fields = [label, name, operand])
    (known : ¬(name ≠ "DATA" ∧ Opcode.ofMnemonic? name = none)) :
    ∃ operation, Entry.Of statement ⟨statement.line, label, operation, operand⟩ := by
  rw [← Operation.ofName?_eq_none_iff] at known
  obtain ⟨operation, named⟩ := Option.ne_none_iff_exists'.mp known
  refine ⟨operation, rfl, ?_⟩
  rw [fields, Entry.fields, Operation.ofName?_eq_some_iff.mp named]

/-- The first pass refuses a line for its fault, and else lays its statement out. -/
theorem add_of_faultBehind? {front : List Entry} (number : Nat) (counted : fieldsOfLine line ≠ [])
    (fits : Fits front) :
    let statement : Statement := ⟨number, String.ofList (Text.trim line), fieldsOfLine line⟩
    match faultBehind? (front.map Entry.fields) number line with
    | some error => ((Layout.ofEntries front).add statement).1 = .error error
    | none => ∃ entry : Entry, entry.Of statement ∧ Fits (front ++ [entry]) := by
  intro statement
  have fresh (label : String) :
      (label ≠ "" ∧ label ∈ (front.map Entry.fields).filterMap List.head?) ↔
        ¬(label = "" ∨ label ∉ labels front) := by
    rw [filterMap_head?_fields, not_or, not_not, mem_labels_iff]
    exact ⟨fun both => ⟨both.1, both⟩, fun both => both.2⟩
  fun_cases faultBehind? (front.map Entry.fields) number line with
  | case1 blank => exact absurd blank counted
  | case2 label name operand fields unknown =>
    rw [← Operation.ofName?_eq_none_iff] at unknown
    simp only [Layout.add, statement, fields, unknown]
  | case3 label name operand fields known full =>
    obtain ⟨operation, of⟩ := exists_entry_of_known statement fields known
    rw [List.length_map] at full
    rw [Layout.add_of_entry of, Layout.place_ofEntries, if_pos full]
  | case4 label name operand fields known small taken =>
    obtain ⟨operation, of⟩ := exists_entry_of_known statement fields known
    rw [List.length_map] at small
    rw [Layout.add_of_entry of, Layout.place_ofEntries, if_neg small,
      if_neg ((fresh label).mp taken)]
  | case5 label name operand fields known small free =>
    obtain ⟨operation, of⟩ := exists_entry_of_known statement fields known
    rw [List.length_map] at small
    refine ⟨_, of, (fits_concat_iff fits _).mpr ⟨by omega, ?_⟩⟩
    exact not_not.mp (mt (fresh label).mpr free)
  | case6 _ short =>
    simp only [Layout.add, statement]

theorem recordedFields_eq {entries : List Entry}
    (related : List.Forall₂ Entry.Of (statementsOfLines lines) entries) :
    recordedFields lines = entries.map Entry.fields := by
  rw [← map_fields_statementsOfLines, map_fields_eq related]

theorem lineFault?_of_getElem? (found : lines[i]? = some line) :
    lineFault? lines i = faultBehind? (recordedFields (lines.take i)) (i + 1) line := by
  rw [lineFault?, found, Option.bind_some]

/-- Lines without a fault are laid out. -/
theorem exists_entries_of_take (count : Nat) (taken : ∀ j < count, lineFault? lines j = none) :
    ∃ entries, List.Forall₂ Entry.Of (statementsOfLines (lines.take count)) entries ∧
      Fits entries := by
  induction count with
  | zero => exact ⟨[], .nil, by decide, List.nodup_nil⟩
  | succ count ih =>
    obtain ⟨front, related, fits⟩ := ih fun j before => taken j (by omega)
    cases found : lines[count]? with
    | none =>
      rw [List.take_add_one, found, Option.toList_none, List.append_nil]
      exact ⟨front, related, fits⟩
    | some line =>
      rw [statementsOfLines_take_succ found]
      by_cases blank : fieldsOfLine line = []
      · rw [statement?_of_blank blank, Option.toList_none, List.append_nil]
        exact ⟨front, related, fits⟩
      · have added := add_of_faultBehind? (count + 1) blank fits
        rw [← recordedFields_eq related, ← lineFault?_of_getElem? found,
          taken count (Nat.lt_add_one count)] at added
        obtain ⟨entry, of, longer⟩ := added
        rw [statement?_of_fields blank, Option.toList_some]
        exact ⟨front ++ [entry], List.rel_append related (.cons of .nil), longer⟩

theorem assemble_of_lineFault? {source : String} {error : AssemblyError}
    (fault : lineFault? (Text.lines source.toList) i = some error)
    (first : ∀ j < i, lineFault? (Text.lines source.toList) j = none) :
    assemble source = .error error := by
  obtain ⟨front, related, fits⟩ := exists_entries_of_take i first
  have ⟨line, found, faulty⟩ := Option.bind_eq_some_iff.mp fault
  have counted : fieldsOfLine line ≠ [] := by
    intro blank
    simp [faultBehind?, blank] at faulty
  obtain ⟨after, cut⟩ := exists_statements_cut found counted
  have refused := add_of_faultBehind? (i + 1) counted fits
  rw [← recordedFields_eq related, faulty] at refused
  exact assemble_of_refused ((statements_eq_statementsOfLines source).trans cut) related fits refused

/-! ### The second pass -/

theorem definedLabels_eq {entries : List Entry}
    (related : List.Forall₂ Entry.Of (statementsOfLines lines) entries) :
    definedLabels lines = labels entries := by
  rw [definedLabels, recordedFields_eq related, filterMap_head?_fields, labels]

/-- The address of a label is one that an operand can hold. -/
theorem exists_lookup_of_mem_labels {entries : List Entry} (fits : Fits entries) {label : String}
    (member : label ∈ labels entries) :
    ∃ address ≤ 99, (definitions entries).lookup label = some address := by
  obtain ⟨address, found⟩ :=
    Option.isSome_iff_exists.mp ((Layout.lookup_definitions_isSome_iff entries label).mpr member)
  obtain ⟨-, i, labelled, rfl⟩ := mem_definitions_iff.mp (mem_of_lookup found)
  have inside := (List.getElem?_eq_some_iff.mp labelled).1
  have bounded := fits.bounded
  rw [List.length_map] at inside
  exact ⟨3 + i, by omega, found⟩

theorem name_eq_data_iff (operation : Operation) : operation.name = "DATA" ↔ operation = .data := by
  cases operation with
  | data => simp [Operation.name]
  | code opcode => cases opcode <;> simp [Operation.name, Opcode.mnemonic]

theorem exists_code {operation : Operation} (other : operation.name ≠ "DATA") :
    ∃ opcode, operation = .code opcode := by
  cases operation with
  | data => exact absurd rfl other
  | code opcode => exact ⟨opcode, rfl⟩

theorem Entry.eq_of_fields {entry : Entry} {label name operand : String}
    (fields : [label, name, operand] = entry.fields) :
    entry.operation.name = name ∧ entry.operand = operand := by
  simp only [Entry.fields, List.cons.injEq] at fields
  exact ⟨fields.2.1.symm, fields.2.2.1.symm⟩

theorem lookup_of_notMem_labels {entries : List Entry} {label : String}
    (missing : label ∉ labels entries) : (definitions entries).lookup label = none := by
  rw [← Option.not_isSome_iff_eq_none, Layout.lookup_definitions_isSome_iff]
  exact missing

section Unlabelled

variable {symbols : List (String × Nat)} {placement : Placement} {opcode : Opcode}
  (code : placement.operation = .code opcode) (unlabelled : symbols.lookup placement.operand = none)

include code unlabelled

theorem word_of_inside {value : Int} (read : Text.integer64? placement.operand.toList = some value)
    (inside : 0 ≤ value ∧ value ≤ 99) : placement.word symbols =
      .ok (Instruction.encode ⟨opcode, UInt8.ofNat value.toNat⟩) := by
  simp only [Placement.word_of_code code, resolve, unlabelled, read, if_pos inside]

theorem word_of_outside {value : Int} (read : Text.integer64? placement.operand.toList = some value)
    (outside : ¬(0 ≤ value ∧ value ≤ 99)) :
    placement.word symbols = .error (.operandOutOfRange placement.line value) := by
  simp only [Placement.word_of_code code, resolve, unlabelled, read, if_neg outside]

theorem word_of_name (unread : Text.integer64? placement.operand.toList = none) :
    placement.word symbols = .error (.undefinedLabel placement.line placement.operand) := by
  simp only [Placement.word_of_code code, resolve, unlabelled, unread]

end Unlabelled

/-- The second pass refuses an entry for its fault, and else gives it a word. -/
theorem word_of_operandFaultAmong? {entries : List Entry} (fits : Fits entries) {entry : Entry}
    (fields : fieldsOfLine line = entry.fields) :
    match operandFaultAmong? (labels entries) entry.line line with
    | some error => entry.Fails (definitions entries) error
    | none => ∃ word, entry.Yields (definitions entries) word := by
  fun_cases operandFaultAmong? (labels entries) entry.line line with
  | case1 label operand word parsed shape =>
    obtain ⟨data, rfl⟩ := Entry.eq_of_fields (shape.symm.trans fields)
    rw [name_eq_data_iff] at data
    exact ⟨word, fun address => by simp only [Placement.word, data, parsed]⟩
  | case2 label operand error refused shape =>
    obtain ⟨data, rfl⟩ := Entry.eq_of_fields (shape.symm.trans fields)
    rw [name_eq_data_iff] at data
    exact fun address => by simp only [Placement.word, data, refused]
  | case3 label name operand shape other member =>
    obtain ⟨rfl, rfl⟩ := Entry.eq_of_fields (shape.symm.trans fields)
    obtain ⟨opcode, code⟩ := exists_code other
    obtain ⟨target, short, found⟩ := exists_lookup_of_mem_labels fits member
    have inside : (0 : Int) ≤ target ∧ (target : Int) ≤ 99 := by omega
    refine ⟨Instruction.encode ⟨opcode, UInt8.ofNat (target : Int).toNat⟩, fun address => ?_⟩
    rw [Placement.word_of_code code]
    simp only [resolve, found, if_pos inside]
  | case4 label name operand shape other missing unread =>
    obtain ⟨rfl, rfl⟩ := Entry.eq_of_fields (shape.symm.trans fields)
    obtain ⟨opcode, code⟩ := exists_code other
    have absent := lookup_of_notMem_labels missing
    exact fun address => word_of_name code absent unread
  | case5 label name operand shape other missing value read inside =>
    obtain ⟨rfl, rfl⟩ := Entry.eq_of_fields (shape.symm.trans fields)
    obtain ⟨opcode, code⟩ := exists_code other
    have absent := lookup_of_notMem_labels missing
    exact ⟨_, fun address => word_of_inside code absent read inside⟩
  | case6 label name operand shape other missing value read outside =>
    obtain ⟨rfl, rfl⟩ := Entry.eq_of_fields (shape.symm.trans fields)
    obtain ⟨opcode, code⟩ := exists_code other
    have absent := lookup_of_notMem_labels missing
    exact fun address => word_of_outside code absent read outside
  | case7 short => exact absurd fields (short _ _ _)

theorem exists_entries_cut {before after : List Statement} {statement : Statement}
    {entries : List Entry} (related : List.Forall₂ Entry.Of (before ++ statement :: after) entries) :
    ∃ front entry back, entries = front ++ entry :: back ∧ List.Forall₂ Entry.Of before front ∧
      Entry.Of statement entry := by
  have flipped := related.flip
  have early := (List.forall₂_take_append _ _ _ flipped).flip
  have late := (List.forall₂_drop_append _ _ _ flipped).flip
  obtain ⟨entry, back, of, -, dropped⟩ := List.forall₂_cons_left_iff.mp late
  exact ⟨_, entry, back, by rw [← dropped, List.take_append_drop], early, of⟩

/-- Every entry stands on a line, by which it is numbered. -/
theorem exists_line_of_mem {entries : List Entry}
    (related : List.Forall₂ Entry.Of (statementsOfLines lines) entries) {entry : Entry}
    (member : entry ∈ entries) :
    ∃ j line, lines[j]? = some line ∧ entry.line = j + 1 ∧ fieldsOfLine line = entry.fields := by
  obtain ⟨front, back, rfl⟩ := List.append_of_mem member
  have late := List.forall₂_drop_append _ _ _ related
  obtain ⟨statement, rest, of, -, dropped⟩ := List.forall₂_cons_right_iff.mp late
  have present : statement ∈ statementsOfLines lines :=
    List.mem_of_mem_drop (dropped ▸ List.mem_cons_self)
  obtain ⟨⟨line, number⟩, numbered, counted⟩ := List.mem_filterMap.mp present
  obtain ⟨above, found⟩ := List.mk_mem_zipIdx_iff_le_and_getElem?_sub.mp numbered
  have full : fieldsOfLine line ≠ [] := by
    intro blank
    rw [statement?_of_blank blank] at counted
    cases counted
  rw [statement?_of_fields full] at counted
  cases counted
  refine ⟨number - 1, line, found, ?_, of.fields⟩
  rw [← of.line]
  exact (Nat.sub_add_cancel above).symm

theorem exists_words {symbols : List (String × Nat)} {entries : List Entry}
    (each : ∀ entry ∈ entries, ∃ word, entry.Yields symbols word) :
    ∃ words, List.Forall₂ (fun entry word => entry.Yields symbols word) entries words := by
  have : Nonempty Word := ⟨.zero⟩
  choose! word yields using each
  exact ⟨entries.map word, List.forall₂_map_right_iff.mpr (List.forall₂_same.mpr yields)⟩

theorem operandFault?_of_getElem? {entries : List Entry}
    (related : List.Forall₂ Entry.Of (statementsOfLines lines) entries)
    (found : lines[i]? = some line) :
    operandFault? lines i = operandFaultAmong? (labels entries) (i + 1) line := by
  rw [operandFault?, found, Option.bind_some, definedLabels_eq related]

/-- Entries on lines without faults have words. -/
theorem exists_words_of_take {entries front : List Entry} (fits : Fits entries)
    (related : List.Forall₂ Entry.Of (statementsOfLines lines) entries) {count : Nat}
    (early : List.Forall₂ Entry.Of (statementsOfLines (lines.take count)) front)
    (sound : ∀ j < count, operandFault? lines j = none) :
    ∃ words, List.Forall₂ (fun entry word => entry.Yields (definitions entries) word)
      front words := by
  refine exists_words fun entry member => ?_
  obtain ⟨j, line, found, number, fields⟩ := exists_line_of_mem early member
  have below : j < count := by
    have inside := (List.getElem?_eq_some_iff.mp found).1
    rw [List.length_take] at inside
    omega
  rw [List.getElem?_take_of_lt below] at found
  have given := word_of_operandFaultAmong? fits fields
  rwa [number, ← operandFault?_of_getElem? related found, sound j below] at given

theorem hasInstruction_iff {entries : List Entry}
    (related : List.Forall₂ Entry.Of (statementsOfLines lines) entries) :
    HasInstruction lines ↔ ∃ entry ∈ entries, entry.operation ≠ .data := by
  rw [HasInstruction, recordedFields_eq related]
  simp only [List.mem_map, exists_exists_and_eq_and]
  refine exists_congr fun entry => and_congr_right fun _ => ?_
  constructor
  · rintro ⟨opcode, -, named⟩ data
    rw [Entry.fields, data] at named
    cases opcode <;> simp [Operation.name, Opcode.mnemonic] at named
  · intro other
    rw [ne_eq, ← name_eq_data_iff] at other
    obtain ⟨opcode, code⟩ := exists_code other
    exact ⟨opcode, opcode.mem_all, by rw [Entry.fields, code]; rfl⟩

theorem assemble_of_operandFault? {source : String} {entries : List Entry} {first : Nat}
    {error : AssemblyError}
    (related : List.Forall₂ Entry.Of (statementsOfLines (Text.lines source.toList)) entries)
    (fits : Fits entries) (starts : entries.findIdx? (·.operation ≠ .data) = some first)
    (fault : operandFault? (Text.lines source.toList) i = some error)
    (before : ∀ j < i, operandFault? (Text.lines source.toList) j = none) :
    assemble source = .error error := by
  have ⟨line, found, faulty⟩ := Option.bind_eq_some_iff.mp fault
  have counted : fieldsOfLine line ≠ [] := by
    intro blank
    simp [operandFaultAmong?, blank] at faulty
  obtain ⟨after, cut⟩ := exists_statements_cut found counted
  have given := related
  rw [cut] at given
  -- the entries are cut at the one that stands on the faulty line
  obtain ⟨front, entry, back, rfl, early, of⟩ := exists_entries_cut given
  obtain ⟨words, encoded⟩ := exists_words_of_take fits related early before
  have fails := word_of_operandFaultAmong? fits of.fields
  rw [← of.line, ← operandFault?_of_getElem? related found, fault] at fails
  rw [← statements_eq_statementsOfLines] at related
  exact assemble_of_fails related fits starts encoded fails

theorem exists_program_of_operands {source : String} {entries : List Entry} {first : Nat}
    (related : List.Forall₂ Entry.Of (statementsOfLines (Text.lines source.toList)) entries)
    (fits : Fits entries) (starts : entries.findIdx? (·.operation ≠ .data) = some first)
    (sound : ∀ i, operandFault? (Text.lines source.toList) i = none) :
    ∃ program, assemble source = .ok program := by
  have all : List.Forall₂ Entry.Of (statementsOfLines
      ((Text.lines source.toList).take (Text.lines source.toList).length)) entries := by
    rwa [List.take_length]
  obtain ⟨words, encoded⟩ := exists_words_of_take fits related all fun j _ => sound j
  rw [← statements_eq_statementsOfLines] at related
  obtain ⟨_, program, accepted, -⟩ := assemble_of_words related fits starts encoded
  exact ⟨program, accepted⟩

/-! ### Both passes -/

theorem exists_first_of_firstFault? {fault? : Nat → Option AssemblyError} {error : AssemblyError}
    (found : firstFault? lines fault? = some error) :
    ∃ i, fault? i = some error ∧ ∀ j < i, fault? j = none := by
  obtain ⟨before, i, after, cut, fault, sound⟩ := List.findSome?_eq_some_iff.mp found
  refine ⟨i, fault, fun j below => sound j ?_⟩
  -- the indices ascend, so a lower one has come before
  have inside : i ∈ List.range lines.length := by simp [cut]
  have ascending : (before ++ i :: after).Pairwise (· < ·) := cut ▸ List.pairwise_lt_range
  have early : j ∈ before ++ i :: after := by
    rw [← cut, List.mem_range]
    exact Nat.lt_trans below (List.mem_range.mp inside)
  rcases List.mem_append.mp early with member | rest
  · exact member
  · rcases List.mem_cons.mp rest with rfl | late
    · exact absurd below (Nat.lt_irrefl j)
    · have above := List.rel_of_pairwise_cons (List.pairwise_append.mp ascending).2.1 late
      omega

theorem eq_none_of_firstFault? {check : Nat → List Char → Option AssemblyError}
    (sound : firstFault? lines (fun i => lines[i]?.bind (check i)) = none) (i : Nat) :
    lines[i]?.bind (check i) = none := by
  by_cases inside : i < lines.length
  · exact List.findSome?_eq_none_iff.mp sound i (List.mem_range.mpr inside)
  · rw [List.getElem?_eq_none (Nat.le_of_not_lt inside), Option.bind_none]

/-- The line that an error names, counted from 1, has the error as a fault. -/
structure Blames (lines : List (List Char)) (error : AssemblyError) (i : Nat) : Prop where
  numbered : error.line? = some (i + 1)
  present : i < lines.length
  faulty : lineFault? lines i = some error ∨ operandFault? lines i = some error

theorem blames_of_lineFault? {error : AssemblyError} (fault : lineFault? lines i = some error) :
    Blames lines error i := by
  obtain ⟨line, found, faulty⟩ := Option.bind_eq_some_iff.mp fault
  refine ⟨?_, (List.getElem?_eq_some_iff.mp found).1, .inl fault⟩
  revert faulty
  fun_cases faultBehind? (recordedFields (lines.take i)) (i + 1) line <;> rintro ⟨⟩ <;> rfl

theorem blames_of_operandFault? {error : AssemblyError}
    (fault : operandFault? lines i = some error) : Blames lines error i := by
  obtain ⟨line, found, faulty⟩ := Option.bind_eq_some_iff.mp fault
  refine ⟨?_, (List.getElem?_eq_some_iff.mp found).1, .inr fault⟩
  revert faulty
  fun_cases operandFaultAmong? (definedLabels lines) (i + 1) line <;> rintro ⟨⟩ <;> rfl

/-- What is reported is the fault of a line, unless nothing can be started. -/
theorem eq_noEntryPoint_or_blames {error : AssemblyError} (verdict : verdict? lines = some error) :
    error = .noEntryPoint ∨ ∃ i, Blames lines error i := by
  revert verdict
  fun_cases verdict? lines with
  | case1 other faulty =>
    rintro ⟨⟩
    obtain ⟨i, fault, -⟩ := exists_first_of_firstFault? faulty
    exact .inr ⟨i, blames_of_lineFault? fault⟩
  | case2 sound starts =>
    intro faulty
    obtain ⟨i, fault, -⟩ := exists_first_of_firstFault? faulty
    exact .inr ⟨i, blames_of_operandFault? fault⟩
  | case3 sound startless =>
    rintro ⟨⟩
    exact .inl rfl

theorem blames_of_verdict? {error : AssemblyError} {number : Nat}
    (verdict : verdict? lines = some error) (named : error.line? = some number) :
    ∃ i, number = i + 1 ∧ Blames lines error i := by
  rcases eq_noEntryPoint_or_blames verdict with rfl | ⟨i, blames⟩
  · cases named
  · exact ⟨i, Option.some.inj (named.symm.trans blames.numbered), blames⟩

/-- The source comes to what the verdict on its lines says. -/
theorem assemble_of_verdict? (source : String) :
    match verdict? (Text.lines source.toList) with
    | some error => assemble source = .error error
    | none => ∃ program, assemble source = .ok program := by
  have laidOut (sound : firstFault? (Text.lines source.toList)
        (lineFault? (Text.lines source.toList)) = none) :
      ∃ entries, List.Forall₂ Entry.Of (statementsOfLines (Text.lines source.toList)) entries ∧
        Fits entries := by
    have taken := exists_entries_of_take (Text.lines source.toList).length fun j _ =>
      eq_none_of_firstFault? sound j
    rwa [List.take_length] at taken
  fun_cases verdict? (Text.lines source.toList) with
  | case1 error faulty =>
    obtain ⟨i, fault, before⟩ := exists_first_of_firstFault? faulty
    exact assemble_of_lineFault? fault before
  | case2 sound starts =>
    obtain ⟨entries, related, fits⟩ := laidOut sound
    obtain ⟨entry, member, other⟩ := (hasInstruction_iff related).mp starts
    obtain ⟨first, found⟩ : ∃ first, entries.findIdx? (·.operation ≠ .data) = some first := by
      rw [← Option.isSome_iff_exists, List.findIdx?_isSome, List.any_eq_true]
      exact ⟨entry, member, decide_eq_true other⟩
    cases verdict : firstFault? (Text.lines source.toList)
      (operandFault? (Text.lines source.toList)) with
    | some error =>
      obtain ⟨i, fault, before⟩ := exists_first_of_firstFault? verdict
      exact assemble_of_operandFault? related fits found fault before
    | none =>
      exact exists_program_of_operands related fits found (eq_none_of_firstFault? verdict)
  | case3 sound startless =>
    obtain ⟨entries, related, fits⟩ := laidOut sound
    have data : ∀ entry ∈ entries, entry.operation = .data := by
      intro entry member
      by_contra other
      exact startless ((hasInstruction_iff related).mpr ⟨entry, member, other⟩)
    rw [← statements_eq_statementsOfLines] at related
    exact assemble_of_data related fits data

/-- The first error is reported: that of the first faulty line, else that nothing can be started,
else that of the first faulty operand. It names its line by the number that the line has among all
lines of the source. -/
theorem first_error_reported (source : String) :
    let lines := Text.lines source.toList
    (∀ error, assemble source = .error error ↔ verdict? lines = some error) ∧
    ((∃ program, assemble source = .ok program) ↔ verdict? lines = none) ∧
    ∀ error number, assemble source = .error error → error.line? = some number →
      ∃ i, number = i + 1 ∧ Blames lines error i := by
  intro lines
  have outcome : match verdict? lines with
    | some error => assemble source = .error error
    | none => ∃ program, assemble source = .ok program := assemble_of_verdict? source
  cases verdict : verdict? lines with
  | none =>
    rw [verdict] at outcome
    obtain ⟨program, accepted⟩ := outcome
    simp [accepted]
  | some error =>
    rw [verdict] at outcome
    refine ⟨fun other => ?_, by simp [outcome], fun other number reported named => ?_⟩
    · rw [outcome, Except.error.injEq, Option.some.injEq]
    · rw [outcome, Except.error.injEq] at reported
      subst reported
      exact blames_of_verdict? verdict named

/-- The operand on line 2 is wrong, but the label that is repeated on the last line is found first.
Blank lines and comments count. -/
theorem repeated_label_reported :
    assemble "; twice\nA CLA 100\n\nA HRS 0" = .error (.duplicateLabel 4 "A") ∧
      Blames (Text.lines "; twice\nA CLA 100\n\nA HRS 0".toList) (.duplicateLabel 4 "A") 3 := by
  obtain ⟨reported, -, numbered⟩ := first_error_reported "; twice\nA CLA 100\n\nA HRS 0"
  have first := (reported (.duplicateLabel 4 "A")).mpr (by cbv)
  obtain ⟨i, same, blames⟩ := numbered _ 4 first rfl
  cases same
  exact ⟨first, blames⟩

end Cardiac.Assembly
