import Cardiac.Assembly.Layout
import Cardiac.Proofs.Text.Lines

/-! Source lines taken apart. A line counts if anything but blanks stands before its comment,
and it is an entry if it has the three fields label, operation and operand. -/
namespace Cardiac

namespace Opcode

theorem ofMnemonic?_eq_some_iff {name : String} {opcode : Opcode} :
    ofMnemonic? name = some opcode ↔ name = opcode.mnemonic := by
  constructor
  · intro found
    have same := List.find?_some found
    simp only [decide_eq_true_eq] at same
    exact same.symm
  · -- no two opcodes share a mnemonic
    rintro rfl
    exact ofMnemonic?_mnemonic opcode

end Opcode

namespace Assembly

/-- How a source line names an operation. -/
def Operation.name : Operation → String
  | .code opcode => opcode.mnemonic
  | .data => "DATA"

theorem Operation.ofName?_eq_some_iff {name : String} {operation : Operation} :
    ofName? name = some operation ↔ name = operation.name := by
  unfold ofName?
  split
  next data =>
    subst data
    cases operation with
    | data => simp [Operation.name]
    -- no mnemonic is the name of data
    | code opcode => cases opcode <;> simp [Operation.name, Opcode.mnemonic]
  next code =>
    cases operation with
    | data => simp [Operation.name, code]
    | code opcode => simp [Operation.name, Opcode.ofMnemonic?_eq_some_iff]

/-- A statement with the three fields that it needs. -/
structure Entry where
  line : Nat
  label : String
  operation : Operation
  operand : String
  deriving DecidableEq, Repr

def Entry.fields (entry : Entry) : List String := [entry.label, entry.operation.name, entry.operand]

/-- The entry that a statement is. -/
structure Entry.Of (statement : Statement) (entry : Entry) : Prop where
  line : statement.line = entry.line
  fields : statement.fields = entry.fields

/-- A statement is one entry at most. -/
theorem Entry.Of.operation_eq {statement : Statement} {entry other : Entry}
    (of : entry.Of statement) (ofOther : other.Of statement) : entry.operation = other.operation := by
  have same := of.fields.symm.trans ofOther.fields
  simp only [Entry.fields, List.cons.injEq] at same
  have named := Operation.ofName?_eq_some_iff.mpr same.2.1
  rw [Operation.ofName?_eq_some_iff.mpr rfl, Option.some.injEq] at named
  exact named

/-- The field lists of a source: its lines are cut at their comments, blank ones are dropped,
and the others are cut into fields, of which the label is the first. -/
def fieldLists (source : String) : List (List String) :=
  (((Text.lines source.toList).map uncommented).filter fun code => !code.all Text.isBlank).map
    fun code => labelFirst ((Text.fields code).map String.ofList)

theorem labelFirst_eq_nil_iff (fields : List String) : labelFirst fields = [] ↔ fields = [] := by
  cases fields with
  | nil => simp [labelFirst]
  | cons first rest =>
    rw [labelFirst]
    split <;> simp

theorem fieldsOfLine_eq_nil_iff (line : List Char) :
    fieldsOfLine line = [] ↔ (uncommented line).all Text.isBlank = true := by
  rw [fieldsOfLine, labelFirst_eq_nil_iff, List.map_eq_nil_iff, Text.fields_eq_nil_iff]

/-- The fields of a line that counts. -/
private def countedFields (line : List Char) : Option (List String) :=
  if (uncommented line).all Text.isBlank then none else some (fieldsOfLine line)

private theorem fieldLists_eq_filterMap (source : String) :
    fieldLists source = (Text.lines source.toList).filterMap countedFields := by
  rw [fieldLists]
  induction Text.lines source.toList with
  | nil => rfl
  | cons line rest ih =>
    by_cases blank : (uncommented line).all Text.isBlank = true
    · simp only [List.map_cons, List.filter_cons, blank, Bool.not_true, Bool.false_eq_true,
        if_false, List.filterMap_cons, countedFields, if_true]
      exact ih
    · simp only [List.map_cons, List.filter_cons, blank, Bool.not_false, if_true,
        List.filterMap_cons, countedFields, if_false, Bool.false_eq_true]
      rw [← ih]
      rfl

theorem map_fields_statements (source : String) :
    (statements source).map Statement.fields = fieldLists source := by
  rw [fieldLists_eq_filterMap, ← Text.map_snd_numberedLines, List.filterMap_map, statements,
    List.map_filterMap]
  congr 1
  -- what is left is a statement about a single line and its number
  funext numbered
  obtain ⟨number, line⟩ := numbered
  have blank := fieldsOfLine_eq_nil_iff line
  simp only [Function.comp, countedFields]
  split
  next none => simp [blank.mp none]
  next some => simp [mt blank.mpr some]

/-- The statement of a numbered line, unless the line is blank. -/
def statement? (line : List Char × Nat) : Option Statement :=
  match fieldsOfLine line.1 with
  | [] => none
  | fields => some ⟨line.2, String.ofList (Text.trim line.1), fields⟩

theorem statements_eq_filterMap (source : String) :
    statements source = ((Text.lines source.toList).zipIdx 1).filterMap statement? := by
  rw [statements, Text.numberedLines_eq_zipIdx, List.filterMap_map]
  rfl

end Assembly
end Cardiac
