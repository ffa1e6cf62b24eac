import Mathlib.Data.List.Zip
import Cardiac.Assembly.Program
import Cardiac.Proofs.Assembly.Layout
import Cardiac.Proofs.CardImage
import Cardiac.Proofs.Except

/-!
# What the second pass computes

The second pass gives every entry its word. An instruction's operand is the address of the label
that it names, or else a literal; data is the word that it spells. The image then consists of
the entries' words at their addresses, framed by the loader's two jumps.
-/
namespace Cardiac.Assembly

/-- The number that an operand stands for: the address of a label before a literal. -/
def OperandValue (symbols : List (String × Nat)) (operand : String) (value : Nat) : Prop :=
  (operand, value) ∈ symbols ∨
    (∀ address, (operand, address) ∉ symbols) ∧ Text.integer? operand.toList = some (value : Int)

/-- The word is what the entry stands for. -/
def Entry.EncodedAs (symbols : List (String × Nat)) (entry : Entry) (word : Word) : Prop :=
  match entry.operation with
  | .data => Word.parse entry.operand = .ok word
  | .code opcode => ∃ value < 100, OperandValue symbols entry.operand value ∧
      Instruction.decode word.value = .ok ⟨opcode, UInt8.ofNat value⟩

theorem mem_of_lookup {table : List (String × Nat)} {label : String} {address : Nat}
    (found : table.lookup label = some address) : (label, address) ∈ table := by
  obtain ⟨front, back, rfl, -⟩ := List.lookup_eq_some_iff.mp found
  simp

theorem notMem_of_lookup {table : List (String × Nat)} {label : String}
    (missing : table.lookup label = none) (address : Nat) : (label, address) ∉ table := by
  intro member
  have other := List.lookup_eq_none_iff.mp missing _ member
  simp at other

theorem operandValue_of_resolve {symbols : List (String × Nat)} {line : Nat} {operand : String}
    {value : Nat} (resolved : resolve symbols line operand = .ok value) :
    OperandValue symbols operand value := by
  unfold resolve at resolved
  split at resolved
  next address found =>
    rw [Except.ok.injEq] at resolved
    -- a label is taken for its address even if it could be read as a number
    have same : address = value := by omega
    exact .inl (mem_of_lookup (same ▸ found))
  next missing =>
    split at resolved
    next literal read =>
      have same : literal = value := by simpa using resolved
      rw [Text.integer64?_eq_filter, Option.filter_eq_some_iff] at read
      exact .inr ⟨notMem_of_lookup missing, same ▸ read.1⟩
    · cases resolved

/-- The word of an instruction line: what its operand resolves to must have two digits. -/
theorem Placement.word_of_code {placement : Placement} {opcode : Opcode}
    (code : placement.operation = .code opcode) (symbols : List (String × Nat)) :
    placement.word symbols =
      match resolve symbols placement.line placement.operand with
      | .error error => .error error
      | .ok value =>
        if 0 ≤ value ∧ value ≤ 99 then
          .ok (Instruction.encode ⟨opcode, UInt8.ofNat value.toNat⟩)
        else .error (.operandOutOfRange placement.line value) := by
  simp only [word, code, Instruction.make?_byte?]
  cases resolve symbols placement.line placement.operand with
  | error error => rfl
  | ok value =>
    by_cases inside : 0 ≤ value ∧ value ≤ 99
    · simp only [if_pos inside]
    · simp only [if_neg inside]

theorem encodedAs_of_word {symbols : List (String × Nat)} {entry : Entry} {address : Nat}
    {word : Word} (returned : Placement.word symbols
      ⟨address, entry.operation, entry.operand, entry.line⟩ = .ok word) :
    entry.EncodedAs symbols word := by
  cases operation : entry.operation with
  | data =>
    simp only [Entry.EncodedAs, Placement.word, operation] at returned ⊢
    cases parsed : Word.parse entry.operand with
    | error error => simp [parsed] at returned
    | ok literal =>
      simp only [parsed] at returned
      cases returned
      rfl
  | code opcode =>
    rw [Placement.word_of_code operation] at returned
    simp only [Entry.EncodedAs, operation]
    cases resolved : resolve symbols entry.line entry.operand with
    | error error => simp [resolved] at returned
    | ok value =>
      simp only [resolved] at returned
      split at returned
      next fits =>
        -- the operand has two digits, so no part of it is lost in the word
        obtain ⟨number, rfl⟩ := Int.eq_ofNat_of_zero_le fits.1
        cases returned
        refine ⟨number, by omega, operandValue_of_resolve resolved, ?_⟩
        refine Instruction.decode_encode _ ?_
        simp only [Int.toNat_natCast, UInt8.toNat_ofNat']
        omega
      · cases returned

theorem pairs_of_addPair {image result : CardImage} {address : Nat} {word : Word}
    (returned : addPair image address word = .ok result) :
    ∃ fits : address < 100, result.pairs = image.pairs ++ [(⟨address, fits⟩, word)] := by
  by_cases fits : address < 100
  · simp only [addPair, CardImage.push, dif_pos fits, Except.mapError, Except.ok.injEq] at returned
    exact ⟨fits, by rw [← returned]⟩
  · simp [addPair, CardImage.push, dif_neg fits, Except.mapError] at returned

theorem addJump_of_lt (image : CardImage) {target : Nat} (fits : target < 100) :
    addJump image target =
      .ok ⟨image.pairs ++ [(CardImage.startCell, .jumpTo target)]⟩ := by
  have word : Word.ofInstruction Opcode.jump.digit target = .ok (.jumpTo target) :=
    Word.ofInt_jumpTo ⟨target, fits⟩
  rw [addJump, word]
  rfl

/-- The placements' words are added to the image at their addresses. -/
theorem pairs_of_foldlM_addPlacement {symbols : List (String × Nat)} {image result : CardImage}
    {placements : List Placement}
    (returned : placements.foldlM (addPlacement symbols) image = .ok result) :
    ∃ (body : List (Fin 100 × Word)) (words : List Word),
      List.Forall₂ (fun placement word => placement.word symbols = .ok word) placements words ∧
        CardImage.plain body = (placements.map Placement.address).zip words ∧
        result.pairs = image.pairs ++ body := by
  -- every placement adds one pair at the end of the image so far
  induction placements generalizing image with
  | nil =>
    simp only [List.foldlM_nil, pure, Except.pure, Except.ok.injEq] at returned
    exact ⟨[], [], .nil, rfl, by rw [returned, List.append_nil]⟩
  | cons placement rest ih =>
    rw [List.foldlM_cons, bind_eq_ok_iff] at returned
    obtain ⟨next, added, returned⟩ := returned
    rw [addPlacement, bind_eq_ok_iff] at added
    obtain ⟨word, encoded, added⟩ := added
    obtain ⟨fits, pairs⟩ := pairs_of_addPair added
    obtain ⟨body, words, related, addresses, all⟩ := ih returned
    refine ⟨(⟨placement.address, fits⟩, word) :: body, word :: words, .cons encoded related, ?_, ?_⟩
    · simp only [CardImage.plain, List.map_cons, List.zip_cons_cons] at addresses ⊢
      rw [addresses]
    · rw [all, pairs, List.append_assoc, List.singleton_append]

/-- What the two passes make of entries: a word for each of them, the words' places in the image
and the table of symbols. -/
structure Assembled (entries : List Entry) (words : List Word) (start : Fin 100)
    (program : AssembledProgram) : Prop where
  fits : Fits entries
  encoded : List.Forall₂ (fun entry word => entry.EncodedAs (definitions entries) word) entries words
  first : (entries.findIdx? (·.operation ≠ .data)).map (firstAddress + ·) = some start.val
  starts : program.start = start
  symbols : program.symbols.Perm (definitions entries)
  image : ∃ body, program.image = .framed body start ∧
    CardImage.plain body = (words.zipIdx firstAddress).map Prod.swap

theorem le_of_mem_places {body : List (Fin 100 × Word)} {words : List Word} {first : Nat}
    (places : CardImage.plain body = (words.zipIdx first).map Prod.swap)
    {pair : Fin 100 × Word} (member : pair ∈ body) : first ≤ pair.1.val := by
  have place : (pair.1.val, pair.2) ∈ CardImage.plain body := List.mem_map_of_mem member
  rw [places, List.mem_map] at place
  obtain ⟨⟨word, address⟩, numbered, same⟩ := place
  cases same
  exact List.le_snd_of_mem_zipIdx numbered

namespace Assembled

variable {entries : List Entry} {words : List Word} {start : Fin 100} {program : AssembledProgram}

/-- No entry is placed in the cells of the loader. -/
theorem exists_body (assembled : Assembled entries words start program) :
    ∃ body, program.image = .framed body start ∧
      CardImage.plain body = (words.zipIdx firstAddress).map Prod.swap ∧
      ∀ pair ∈ body, pair.1 ≠ 0 ∧ pair.1 ≠ 2 := by
  obtain ⟨body, image, places⟩ := assembled.image
  refine ⟨body, image, places, ?_⟩
  intro pair member
  have above := le_of_mem_places places member
  simp only [firstAddress] at above
  omega

theorem firstAddress_le_start (assembled : Assembled entries words start program) :
    firstAddress ≤ start.val := by
  obtain ⟨i, -, first⟩ := Option.map_eq_some_iff.mp assembled.first
  omega

theorem length_words (assembled : Assembled entries words start program) :
    words.length = entries.length :=
  assembled.encoded.length_eq.symm

/-- The words and the first instruction's place decide on the program, apart from its symbols. -/
theorem agree {others : List Entry} {otherStart : Fin 100} {other : AssembledProgram}
    (assembled : Assembled entries words start program)
    (otherAssembled : Assembled others words otherStart other)
    (first : others.findIdx? (·.operation ≠ .data) = entries.findIdx? (·.operation ≠ .data)) :
    other.start = program.start ∧ other.image = program.image := by
  have starts := otherAssembled.first
  rw [first, assembled.first, Option.some.injEq] at starts
  obtain rfl : start = otherStart := Fin.ext starts
  obtain ⟨body, image, places⟩ := assembled.image
  obtain ⟨otherBody, otherImage, otherPlaces⟩ := otherAssembled.image
  have same := CardImage.plain_injective (otherPlaces.trans places.symm)
  exact ⟨otherAssembled.starts.trans assembled.starts.symm, by rw [otherImage, image, same]⟩

end Assembled

/-- The placements of entries have the addresses from the first one on. -/
theorem zip_addresses {entries : List Entry} {words : List Word}
    (same : entries.length = words.length) :
    ((Layout.ofEntries entries).placements.map Placement.address).zip words =
      (words.zipIdx firstAddress).map Prod.swap := by
  rw [List.zipIdx_eq_zip_range', List.zip_swap, ← same, ← List.zipIdx_map_snd firstAddress entries]
  simp [Layout.ofEntries, Function.comp_def]

theorem image_ofEntries {entries : List Entry} {start : Fin 100} {image : CardImage}
    (returned : (Layout.ofEntries entries).image start = .ok image) :
    ∃ words,
      List.Forall₂ (fun entry word => entry.EncodedAs (definitions entries) word) entries words ∧
      ∃ body, image = .framed body start ∧
        CardImage.plain body = (words.zipIdx firstAddress).map Prod.swap := by
  unfold Layout.image at returned
  simp only [bind_eq_ok_iff] at returned
  obtain ⟨installed, jump, loaded, placed, returned⟩ := returned
  rw [addJump_of_lt _ (by decide)] at jump
  rw [addJump_of_lt _ start.isLt] at returned
  cases jump
  cases returned
  obtain ⟨body, words, related, addresses, pairs⟩ := pairs_of_foldlM_addPlacement placed
  -- the placements are the numbered entries, of which the words do not see the numbers
  simp only [Layout.ofEntries, List.forall₂_map_left_iff] at related
  have encoded : List.Forall₂ (fun entry word => entry.EncodedAs (definitions entries) word)
      ((entries.zipIdx firstAddress).map Prod.fst) words :=
    List.forall₂_map_left_iff.mpr (related.imp fun _ _ returned => encodedAs_of_word returned)
  rw [List.zipIdx_map_fst] at encoded
  refine ⟨words, encoded, body, ?_, addresses.trans (zip_addresses encoded.length_eq)⟩
  rw [pairs]
  rfl

/-! ### Both passes -/

theorem assemble_of_laidOut {source : String} {layout : Layout}
    (laidOut : Layout.ofStatements (statements source) = (.ok (), layout)) :
    assemble source = layout.program := by
  simp only [assemble, ofStatements, laidOut]

theorem exists_laidOut_of_accepted {source : String} {program : AssembledProgram}
    (accepted : assemble source = .ok program) :
    ∃ layout, Layout.ofStatements (statements source) = (.ok (), layout) := by
  rcases first : Layout.ofStatements (statements source) with ⟨⟨⟩ | ⟨⟩, layout⟩
  · simp only [assemble, ofStatements, first] at accepted
    cases accepted
  · exact ⟨layout, rfl⟩

/-- An accepted source has a program that is read off its layout. -/
theorem exists_image_of_accepted {source : String} {layout : Layout} {program : AssembledProgram}
    (laidOut : Layout.ofStatements (statements source) = (.ok (), layout))
    (accepted : assemble source = .ok program) :
    ∃ start image, layout.start = some start ∧ layout.image start = .ok image ∧
      program =
        ⟨layout.symbols.mergeSort fun first second => first.1 ≤ second.1, start, image⟩ := by
  rw [assemble_of_laidOut laidOut, Layout.program] at accepted
  split at accepted
  · cases accepted
  next start found =>
    simp only [bind_eq_ok_iff, pure, Except.pure, Except.ok.injEq] at accepted
    obtain ⟨image, returned, rfl⟩ := accepted
    exact ⟨start, image, found, returned, rfl⟩

theorem exists_assembled {source : String} {program : AssembledProgram}
    (accepted : assemble source = .ok program) : ∃ entries words start,
      List.Forall₂ (fun statement entry => Entry.Of statement entry) (statements source) entries ∧
        Assembled entries words start program := by
  obtain ⟨layout, laidOut⟩ := exists_laidOut_of_accepted accepted
  obtain ⟨start, image, found, returned, rfl⟩ := exists_image_of_accepted laidOut accepted
  obtain ⟨entries, related, fits, rfl⟩ := (Layout.ofStatements_eq_ok_iff ..).mp laidOut
  -- the start is the address of an entry, and all of these have two digits
  have small : start < 100 := by
    simp only [Layout.ofEntries, Option.map_eq_some_iff] at found
    obtain ⟨index, first, rfl⟩ := found
    have inside := (List.findIdx?_eq_some_iff_findIdx_eq.mp first).1
    have bounded := fits.bounded
    simp only [firstAddress]
    omega
  obtain ⟨target, rfl⟩ : ∃ target : Fin 100, start = target := ⟨⟨start, small⟩, rfl⟩
  obtain ⟨words, encoded, image⟩ := image_ofEntries returned
  exact ⟨entries, words, target, related, fits, encoded, found, rfl, List.mergeSort_perm .., image⟩

end Cardiac.Assembly
