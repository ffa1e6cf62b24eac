import Mathlib
import Cardiac.Proofs.Assembly.Outcomes
import Cardiac.Proofs.Assembly.Translation
import Cardiac.Proofs.Listing.Source
import Cardiac.Proofs.Memory.Words

/-!
# Listings assembled again

The assembler gives a listing's words back, in their order, from address 3 on. An operand in a
listing is never taken for a label, because all labels end in a colon, and a word that is no
instruction comes back as data. What can fail is only the size, or that there is nothing to
start with.
-/
namespace Cardiac

open Assembly

namespace Listing

/-! ### Labels -/

/-- The number can be read back from the label. -/
theorem label_injective : Function.Injective label := by
  intro first second same
  have digits := congrArg String.toList same
  simp only [label, String.toList_append, Memory.addressText, Text.toList_zeroPadded] at digits
  have read := congrArg Text.natural? (List.append_cancel_right digits)
  simpa only [Text.natural?_paddedDigits, Option.some.injEq] using read

theorem label_ne_empty (address : Nat) : label address ≠ "" := by
  intro empty
  exact (isField_label address).nonempty (by rw [empty]; rfl)

theorem definitions_entries (number : Nat) (cells : List (Nat × Word)) :
    definitions (entries number cells) =
      (cells.zipIdx firstAddress).map fun (cell, address) => (label cell.1, address) := by
  rw [definitions]
  -- line numbers and addresses count up side by side, wherever they start
  generalize firstAddress = place
  induction cells generalizing number place with
  | nil => rfl
  | cons cell cells ih =>
    simp only [entries_cons, List.zipIdx_cons, List.map_cons, ← ih (number + 1) (place + 1)]
    exact List.filterMap_cons_some (if_neg (label_ne_empty cell.1))

theorem labels_entries (number : Nat) (cells : List (Nat × Word)) :
    labels (entries number cells) = cells.map fun cell => label cell.1 := by
  rw [← map_fst_definitions, definitions_entries, List.map_map]
  nth_rewrite 2 [← List.zipIdx_map_fst firstAddress cells]
  rw [List.map_map]
  rfl

/-- Different addresses have different labels. -/
theorem nodup_labels {cells : List (Nat × Word)} (ascending : cells.Pairwise (·.1 < ·.1))
    (number : Nat) : (labels (entries number cells)).Nodup := by
  rw [labels_entries]
  exact List.pairwise_map.mpr <| ascending.imp fun before same =>
    absurd (label_injective same) (Nat.ne_of_lt before)

/-! ### Operands -/

theorem operation_eq_data_iff (word : Word) : operation word = .data ↔ word.value < 0 := by
  by_cases negative : word.value < 0
  · simp [operation, Instruction.decode_of_negative negative, negative]
  · obtain ⟨opcode, operand, digits⟩ := Instruction.exists_digits (Int.not_lt.mp negative)
    simp [operation, Instruction.decode_of_eq digits, negative]

theorem colon_notMem_operand (word : Word) : ':' ∉ (operand word).toList := by
  have digits (width value : Nat) : ':' ∉ (Text.zeroPadded width value).toList := by
    intro member
    rw [Text.toList_zeroPadded] at member
    exact absurd (Text.isDigit_of_mem_paddedDigits member) (by decide)
  unfold operand
  split
  · exact digits _ _
  · unfold Word.text
    split <;> simp [digits]

/-- No operand of a listing is one of its labels. -/
theorem lookup_operand (number : Nat) (cells : List (Nat × Word)) (word : Word) :
    (definitions (entries number cells)).lookup (operand word) = none := by
  rw [List.lookup_eq_none_iff, definitions_entries, List.forall_mem_map]
  rintro ⟨cell, address⟩ -
  rw [bne_iff_ne]
  -- the label has a colon and the operand has none
  intro same
  have colon : ':' ∈ (label cell.1).toList := by simp [label]
  exact colon_notMem_operand word (same ▸ colon)

theorem resolve_operand {word : Word} {opcode : Opcode} {target : Fin 100}
    (digits : word.value = 100 * opcode.digit + target) {symbols : List (String × Nat)}
    (unlabelled : symbols.lookup (operand word) = none) (line : Nat) :
    resolve symbols line (operand word) = .ok target := by
  have text : operand word = Text.zeroPadded 2 target := by
    simp only [operand, Instruction.decode_of_eq digits, toNat_ofNat_address]
  have small : Text.fits64 (target : Nat) = true := by
    rw [Text.fits64, Bool.and_eq_true, decide_eq_true_eq, decide_eq_true_eq, Text.least64,
      Text.greatest64]
    omega
  simp only [resolve, unlabelled]
  rw [text, Text.integer64?_eq_filter, Text.toList_zeroPadded, Text.integer?_paddedDigits,
    Option.filter_some_pos small]

/-- Every line of a listing is assembled to the word that it shows. -/
theorem yields_entry (number first : Nat) (cell : Nat × Word) (cells : List (Nat × Word)) :
    (entry number cell.1 cell.2).Yields (definitions (entries first cells)) cell.2 := by
  intro address
  have unlabelled := lookup_operand first cells cell.2
  obtain ⟨_, word⟩ := cell
  by_cases negative : word.value < 0
  · -- the data that the line spells is the word's card
    simp only [Placement.word, entry, operation, operand, Instruction.decode_of_negative negative,
      Word.parse_text]
  · obtain ⟨opcode, target, digits⟩ := Instruction.exists_digits (Int.not_lt.mp negative)
    have code : operation word = .code opcode := by
      simp only [operation, Instruction.decode_of_eq digits]
    have short : 0 ≤ (target : Int) ∧ (target : Int) ≤ 99 := by omega
    -- what the operand resolves to is put together with the opcode again
    rw [Placement.word_of_code code]
    simp only [entry, resolve_operand digits unlabelled, if_pos short]
    rw [Int.toNat_natCast, Instruction.encode_of_eq digits]

/-! ### Assembling -/

/-- The program that the listing of these cells is assembled to. -/
structure Restored (cells : List (Nat × Word)) (program : AssembledProgram) : Prop where
  /-- The program starts at the first word that is no data. -/
  first : ∃ j, cells.findIdx? (0 ≤ ·.2.value) = some j ∧ program.start = 3 + j
  /-- The words follow each other from address 3 on, framed by the loader's two jumps. -/
  pairs : ∃ start : Fin 100, program.start = start ∧
    CardImage.plain program.image.pairs =
      (2, .jumpTo 0) :: ((cells.map Prod.snd).zipIdx 3).map Prod.swap ++ [(2, .jumpTo start)]
  symbols : program.symbols.Perm
    ((cells.zipIdx 3).map fun (cell, address) => (Memory.addressText cell.1 ++ ":", address))
  unique : (program.symbols.map Prod.fst).Nodup

/-- What assembling the listing of a range gives, if these are the words of the range. -/
structure Reassembly (memory : Memory) (start stop : Nat) (cells : List (Nat × Word))
    (result : Except AssemblyError AssembledProgram) : Prop where
  occupied : memory.Occupied start stop cells
  tooLarge : 97 < cells.length → result = .error (.programTooLarge 101)
  noEntryPoint : cells.length ≤ 97 → (∀ cell ∈ cells, cell.2.value < 0) →
    result = .error .noEntryPoint
  restored : cells.length ≤ 97 → (∃ cell ∈ cells, 0 ≤ cell.2.value) →
    ∃ program, result = .ok program ∧ Restored cells program
  /-- A range from address 3 on without empty cells comes back where it was. -/
  inPlace : start = 3 →
    (∀ address : Nat, 3 ≤ address → address < stop → memory.get address ≠ .ok none) →
    ∀ program, result = .ok program → ∃ target : Fin 100, program.start = target ∧
      CardImage.plain program.image.pairs = (2, .jumpTo 0) :: cells ++ [(2, .jumpTo target)]

theorem findIdx?_entries (number : Nat) (cells : List (Nat × Word)) :
    (entries number cells).findIdx? (·.operation ≠ .data) =
      cells.findIdx? (0 ≤ ·.2.value) := by
  induction cells generalizing number with
  | nil => rfl
  | cons cell cells ih =>
    have executable : (operation cell.2 ≠ .data) ↔ 0 ≤ cell.2.value := by
      rw [ne_eq, operation_eq_data_iff, Int.not_lt]
    simp only [entries_cons, List.findIdx?_cons, entry, executable, ih]

theorem yields_entries (number first : Nat) (some all : List (Nat × Word)) :
    List.Forall₂ (fun entry word => entry.Yields (definitions (entries first all)) word)
      (entries number some) (some.map Prod.snd) := by
  induction some generalizing number with
  | nil => exact .nil
  | cons cell cells ih => exact .cons (yields_entry number first cell all) (ih (number + 1))

theorem restored_of_assembled {cells : List (Nat × Word)} {program : AssembledProgram}
    {target : Fin 100}
    (assembled : Assembled (entries 4 cells) (cells.map Prod.snd) target program) :
    Restored cells program := by
  obtain ⟨j, found, first⟩ := Option.map_eq_some_iff.mp assembled.first
  rw [findIdx?_entries] at found
  have symbols := assembled.symbols
  have keys : (program.symbols.map Prod.fst).Perm (labels (entries 4 cells)) := by
    rw [← map_fst_definitions]
    exact symbols.map Prod.fst
  rw [definitions_entries] at symbols
  exact
    { first := ⟨j, found, by rw [assembled.starts, ← first, firstAddress]⟩
      pairs := ⟨target, assembled.starts, assembled.pairs⟩
      symbols
      unique := keys.nodup_iff.mpr assembled.fits.distinct }

section Listings

variable {memory : Memory} {start stop : Nat}

theorem assemble_listing_of_large (large : 97 < (memory.words start stop).length) :
    assemble (memory.listing start stop) = .error (.programTooLarge 101) := by
  have related := statements_listing memory start stop
  have ascending := (Memory.occupied_words memory start stop).ascending
  -- the word behind the first ninety-seven is the one that is refused
  rw [← List.take_append_drop 97 (memory.words start stop), List.drop_eq_getElem_cons large,
    entries_append, entries_cons] at related
  have full : ((memory.words start stop).take 97).length = 97 := List.length_take_of_le large.le
  have fits : Fits (entries 4 ((memory.words start stop).take 97)) :=
    ⟨by rw [length_entries, full], nodup_labels (ascending.sublist (List.take_sublist ..)) 4⟩
  rw [assemble_of_full related fits (by rw [length_entries, full]), entry, full]

theorem fits_words (small : (memory.words start stop).length ≤ 97) :
    Fits (entries 4 (memory.words start stop)) where
  bounded := by rwa [length_entries]
  distinct := nodup_labels (Memory.occupied_words memory start stop).ascending 4

theorem assemble_listing_of_negative (small : (memory.words start stop).length ≤ 97)
    (negative : ∀ cell ∈ memory.words start stop, cell.2.value < 0) :
    assemble (memory.listing start stop) = .error .noEntryPoint := by
  refine assemble_of_data (statements_listing memory start stop) (fits_words small) ?_
  rw [entries, List.forall_mem_map]
  rintro ⟨cell, number⟩ numbered
  exact (operation_eq_data_iff cell.2).mpr (negative cell (List.fst_mem_of_mem_zipIdx numbered))

theorem exists_restored (small : (memory.words start stop).length ≤ 97)
    (executable : ∃ cell ∈ memory.words start stop, 0 ≤ cell.2.value) :
    ∃ program, assemble (memory.listing start stop) = .ok program ∧
      Restored (memory.words start stop) program := by
  obtain ⟨j, found⟩ : ∃ j, (memory.words start stop).findIdx? (0 ≤ ·.2.value) = some j := by
    rw [← Option.isSome_iff_exists, List.findIdx?_isSome]
    simpa using executable
  rw [← findIdx?_entries 4] at found
  obtain ⟨target, program, returned, assembled⟩ :=
    assemble_of_words (statements_listing memory start stop) (fits_words small) found
      (yields_entries 4 4 _ _)
  exact ⟨program, returned, restored_of_assembled assembled⟩

/-- A listing that is accepted is one of a few words, of which one is no data. -/
theorem restored_of_returned {program : AssembledProgram}
    (returned : assemble (memory.listing start stop) = .ok program) :
    Restored (memory.words start stop) program := by
  have small : (memory.words start stop).length ≤ 97 := by
    by_contra large
    rw [assemble_listing_of_large (Nat.lt_of_not_le large)] at returned
    cases returned
  have executable : ∃ cell ∈ memory.words start stop, 0 ≤ cell.2.value := by
    by_contra none
    push Not at none
    rw [assemble_listing_of_negative small none] at returned
    cases returned
  obtain ⟨_, same, restored⟩ := exists_restored small executable
  cases returned.symm.trans same
  exact restored

end Listings

/-- The listing of a range of memory is assembled to the words of the range. -/
theorem assemble_listing (memory : Memory) (start stop : Nat) :
    Reassembly memory start stop (memory.words start stop)
      (assemble (memory.listing start stop)) where
  occupied := Memory.occupied_words memory start stop
  tooLarge := assemble_listing_of_large
  noEntryPoint := assemble_listing_of_negative
  restored := exists_restored
  inPlace := by
    rintro rfl full program returned
    obtain ⟨target, starts, pairs⟩ := (restored_of_returned returned).pairs
    rw [(Memory.occupied_words memory 3 stop).swap_zipIdx full] at pairs
    exact ⟨target, starts, pairs⟩

/-- The cells 3 and 4 come back where they were, and the program starts behind the data. -/
theorem listing_restored_in_place :
    let memory : Memory := ⟨4, #v[some .bootstrap, none, none, some ⟨-12, by decide, by decide⟩,
      some (.jumpTo 3)], by decide⟩
    ∃ program, assemble (memory.listing 3 5) = .ok program ∧
      program.start = 4 ∧
      CardImage.plain program.image.pairs =
        [(2, .jumpTo 0), (3, ⟨-12, by decide, by decide⟩), (4, .jumpTo 3), (2, .jumpTo 4)] := by
  intro memory
  have reassembly := assemble_listing memory 3 5
  have words : memory.words 3 5 = [(3, ⟨-12, by decide, by decide⟩), (4, .jumpTo 3)] := by rfl
  have full : ∀ address : Nat, 3 ≤ address → address < 5 → memory.get address ≠ .ok none := by
    intro address above below
    obtain rfl | rfl : address = 3 ∨ address = 4 := by omega
    · exact Except.ok.inj.mt (Option.some_ne_none _)
    · exact Except.ok.inj.mt (Option.some_ne_none _)
  rw [words] at reassembly
  obtain ⟨program, returned, restored⟩ :=
    reassembly.restored (by decide) ⟨_, .tail _ (.head _), by decide⟩
  obtain ⟨j, found, first⟩ := restored.first
  have second : 1 = j := Option.some.inj found
  obtain ⟨target, starts, pairs⟩ := reassembly.inPlace rfl full program returned
  have start : program.start = 4 := by rw [first, ← second]
  rw [← starts, start] at pairs
  exact ⟨program, returned, start, pairs⟩

end Listing
end Cardiac
