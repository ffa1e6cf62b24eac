import Mathlib.Data.List.Forall2
import Cardiac.Listing
import Cardiac.Proofs.Assembly.Fields

/-!
# Listings as source text

A line of a listing is also a line of a program. Its address with the colon behind it is a label,
the instruction or the data follows as operation and operand, and the word itself is a comment.
The heading is comment throughout, so the first word stands on line 4.
-/
namespace Cardiac

open Assembly

namespace Listing

/-- The operation in a word's line; a word that is no instruction stands there as data. -/
def operation (word : Word) : Operation :=
  match Instruction.decode word.value with
  | .ok instruction => .code instruction.opcode
  | .error _ => .data

def operand (word : Word) : String :=
  match Instruction.decode word.value with
  | .ok instruction => Text.zeroPadded 2 instruction.operand.toNat
  | .error _ => word.text

/-- An address as the assembler sees it. -/
def label (address : Nat) : String := Memory.addressText address ++ ":"

def entry (number address : Nat) (word : Word) : Entry :=
  ⟨number, label address, operation word, operand word⟩

/-- The entries of cells whose listing begins on a line. -/
def entries (number : Nat) (cells : List (Nat × Word)) : List Entry :=
  (cells.zipIdx number).map fun (cell, number) => entry number cell.1 cell.2

@[simp] theorem entries_cons (number : Nat) (cell : Nat × Word) (cells : List (Nat × Word)) :
    entries number (cell :: cells) = entry number cell.1 cell.2 :: entries (number + 1) cells :=
  rfl

theorem entries_append (number : Nat) (front back : List (Nat × Word)) :
    entries number (front ++ back) =
      entries number front ++ entries (number + front.length) back := by
  rw [entries, List.zipIdx_append, List.map_append]
  rfl

@[simp] theorem length_entries (number : Nat) (cells : List (Nat × Word)) :
    (entries number cells).length = cells.length := by
  simp [entries]

theorem disassembled_eq (word : Word) :
    word.disassembled = (operation word).name ++ " " ++ operand word := by
  unfold Word.disassembled operation operand
  cases Instruction.decode word.value <;> rfl

/-! ### Texts that are fields -/

theorem isField_zeroPadded (width value : Nat) : IsField (Text.zeroPadded width value) where
  nonempty := by simp [Text.toList_zeroPadded, Text.paddedDigits]
  solid c member := by
    rw [Text.toList_zeroPadded] at member
    have digit := Text.isDigit_of_mem_paddedDigits member
    refine ⟨Text.isBlank_of_isDigit digit, ?_⟩
    rintro rfl
    exact absurd digit (by decide)

theorem isField_text (word : Word) : IsField word.text := by
  unfold Word.text
  split
  · exact .append (by decide) (isField_zeroPadded _ _)
  · rw [String.empty_append]
    exact isField_zeroPadded _ _

theorem isField_label (address : Nat) : IsField (label address) :=
  .append (isField_zeroPadded _ _) (by decide)

theorem isField_name (operation : Operation) : IsField operation.name := by
  cases operation with
  | data => decide
  | code opcode => cases opcode <;> decide

theorem isField_operand (word : Word) : IsField (operand word) := by
  unfold operand
  split
  · exact isField_zeroPadded _ _
  · exact isField_text word

/-! ### Lines -/

/-- What stands before the comment. -/
def code (address : Nat) (word : Word) : List Char :=
  (label address).toList ++ ' ' :: ((operation word).name.toList ++ ' ' :: ((operand word).toList ++
    List.replicate (8 - word.disassembled.length + 2) ' '))

/-- A line without its end. -/
def row (cell : Nat × Word) : List Char :=
  code cell.1 cell.2 ++ ';' :: ' ' :: cell.2.text.toList

theorem toList_line (address : Nat) (word : Word) :
    (line address word).toList = row (address, word) ++ ['\n'] := by
  simp [line, row, code, label, Text.padRight, disassembled_eq, List.replicate_add]

theorem fields_code (address : Nat) (word : Word) : Text.fields (code address word) =
    [(label address).toList, (operation word).name.toList, (operand word).toList] := by
  have blank : Text.isBlank ' ' = true := by decide
  have padding (n : Nat) : Text.fields (List.replicate n ' ') = [] := by
    rw [Text.fields_eq_nil_iff, List.all_replicate, blank]
    simp
  -- a single blank ends each of the first two fields, and the padding ends the third
  rw [code, (isField_label address).fields_append (by simp [blank]),
    Text.fields_cons_of_blank blank, (isField_name _).fields_append (by simp [blank]),
    Text.fields_cons_of_blank blank,
    (isField_operand word).fields_append (by simp [blank, List.head?_replicate]), padding]

theorem notMem_code {c : Char} (separates : Text.isBlank c = true ∨ c = ';') (other : c ≠ ' ')
    (address : Nat) (word : Word) : c ∉ code address word := by
  have label := (isField_label address).notMem separates
  have name := (isField_name (operation word)).notMem separates
  have operand := (isField_operand word).notMem separates
  simp [code, label, name, operand, other]

/-- A line has no line end of its own. -/
theorem notMem_row {c : Char} (ends : c = '\n' ∨ c = '\r') (cell : Nat × Word) : c ∉ row cell := by
  have blank : Text.isBlank c = true := by rcases ends with rfl | rfl <;> decide
  have space : c ≠ ' ' := by rcases ends with rfl | rfl <;> decide
  have mark : c ≠ ';' := by rcases ends with rfl | rfl <;> decide
  have code := notMem_code (.inl blank) space cell.1 cell.2
  have text := (isField_text cell.2).notMem (.inl blank)
  simp [row, code, text, space, mark]

/-- No mnemonic has a colon. -/
theorem ofMnemonic?_label (address : Nat) : Opcode.ofMnemonic? (label address) = none := by
  rw [Option.eq_none_iff_forall_ne_some]
  intro opcode found
  rw [Opcode.ofMnemonic?_eq_some_iff] at found
  have colon : ':' ∈ (label address).toList := by simp [label]
  rw [found] at colon
  cases opcode <;> exact absurd colon (by decide)

theorem fieldsOfLine_row (cell : Nat × Word) (number : Nat) :
    fieldsOfLine (row cell) = (entry number cell.1 cell.2).fields := by
  have commented : uncommented (row cell) = code cell.1 cell.2 := by
    -- the first semicolon of the line is the one that starts the comment
    have inside : ∀ c ∈ code cell.1 cell.2, decide (c ≠ ';') = true := by
      intro c member
      rw [decide_eq_true_eq]
      rintro rfl
      exact notMem_code (.inr rfl) (by decide) _ _ member
    rw [uncommented, row, List.takeWhile_append_of_pos inside,
      List.takeWhile_cons_of_neg (by decide), List.append_nil]
  rw [fieldsOfLine, commented, fields_code]
  simp [labelFirst, ofMnemonic?_label, Entry.fields, entry]

/-! ### The listing -/

/-- The two comments and the blank line at the top. -/
def headingRows : List (List Char) :=
  ["; CARDIAC Disassembly".toList, "; -------------------".toList, []]

theorem toList_foldl_line (cells : List (Nat × Word)) (text : String) :
    (cells.foldl (fun text (address, word) => text ++ line address word) text).toList =
      text.toList ++ (cells.map row).flatMap (· ++ ['\n']) := by
  induction cells generalizing text with
  | nil => simp
  | cons cell cells ih =>
    rw [List.foldl_cons, ih, String.toList_append, toList_line, List.map_cons, List.flatMap_cons,
      List.append_assoc]

/-- A listing has its heading and one line for each word. -/
theorem lines_listing (memory : Memory) (start stop : Nat) :
    Text.lines (memory.listing start stop).toList =
      headingRows ++ (memory.words start stop).map row := by
  have written : (memory.listing start stop).toList =
      (headingRows ++ (memory.words start stop).map row).flatMap (· ++ ['\n']) := by
    rw [Memory.listing, toList_foldl_line, List.flatMap_append]
    rfl
  have unbroken {c : Char} (ends : c = '\n' ∨ c = '\r') :
      ∀ line ∈ headingRows ++ (memory.words start stop).map row, c ∉ line := by
    intro line member
    rw [List.mem_append, List.mem_map] at member
    rcases member with top | ⟨cell, -, rfl⟩
    · have plain : ∀ line ∈ headingRows, '\n' ∉ line ∧ '\r' ∉ line := by decide
      rcases ends with rfl | rfl
      · exact (plain line top).1
      · exact (plain line top).2
    · exact notMem_row ends cell
  rw [written, Text.lines_flatMap (unbroken (.inl rfl)) (unbroken (.inr rfl))]

/-- As source text, a listing has one entry for each word, numbered from line 4 on. -/
theorem statements_listing (memory : Memory) (start stop : Nat) :
    List.Forall₂ Entry.Of (statements (memory.listing start stop))
      (entries 4 (memory.words start stop)) := by
  have top : (headingRows.zipIdx 1).filterMap statement? = [] := by decide
  rw [statements_eq_filterMap, lines_listing, List.zipIdx_append, List.filterMap_append, top,
    List.nil_append, show 1 + headingRows.length = 4 from rfl]
  generalize memory.words start stop = cells
  -- the line numbers go up with the cells
  generalize 4 = number
  induction cells generalizing number with
  | nil => exact .nil
  | cons cell cells ih =>
    have fields := fieldsOfLine_row cell number
    rw [Entry.fields] at fields
    simp only [entries_cons, List.map_cons, List.zipIdx_cons, List.filterMap_cons, statement?,
      fields]
    exact .cons ⟨rfl, rfl⟩ (ih (number + 1))

end Listing
end Cardiac
