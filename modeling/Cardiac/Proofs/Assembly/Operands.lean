import Cardiac.Proofs.Assembly.Verdict
import Cardiac.Proofs.Text.Literals

/-!
# Operands that name no label

When the first pass is over, every placement of the layout stands for a word or for an error, and so
tells what becomes of the source: the word is in the image of the program, and the error is reported
unless an earlier placement has one. For an instruction whose operand is no label, the operand's
value decides: two digits make a word, other integers are out of range, and what is no integer is the
name of an undefined label. This holds within 64 bits. A longer integer is taken for a name.
-/
namespace Cardiac.Assembly

/-- What becomes of a source with this layout, seen from one of its placements. -/
structure Judged (source : String) (layout : Layout) (placement : Placement)
    (result : Except AssemblyError Word) : Prop where
  word : placement.word layout.symbols = result
  encoded : ∀ word, result = .ok word → ∀ program, assemble source = .ok program →
    (placement.address, word) ∈ CardImage.plain program.image.pairs
  refused : ∀ error, result = .error error → ∀ program, assemble source ≠ .ok program
  reported : ∀ error, result = .error error →
    (∀ earlier ∈ layout.placements, earlier.address < placement.address →
      ∃ word, earlier.word layout.symbols = .ok word) → assemble source = .error error

/-! ### Placements -/

section Placements

variable {source : String} {layout : Layout} {placement : Placement}

theorem exists_mem_zip_addresses {symbols : List (String × Nat)} {placements : List Placement}
    {words : List Word}
    (related : List.Forall₂ (fun placement word => placement.word symbols = .ok word)
      placements words) (member : placement ∈ placements) :
    ∃ word, placement.word symbols = .ok word ∧
      (placement.address, word) ∈ (placements.map Placement.address).zip words := by
  induction related with
  | nil => cases member
  | cons returned _ ih =>
    rw [List.map_cons, List.zip_cons_cons]
    cases member with
    | head => exact ⟨_, returned, List.mem_cons_self⟩
    | tail _ member =>
      obtain ⟨word, other, place⟩ := ih member
      exact ⟨word, other, List.mem_cons_of_mem _ place⟩

theorem exists_pair_of_addJump {image result : CardImage} {target : Nat}
    (returned : addJump image target = .ok result) :
    ∃ pair, result.pairs = image.pairs ++ [pair] := by
  unfold addJump at returned
  split at returned
  · obtain ⟨_, added⟩ := pairs_of_addPair returned
    exact ⟨_, added⟩
  · cases returned

/-- An accepted source has a word for each placement, and has it in its image. -/
theorem exists_word_of_accepted (laidOut : Layout.ofStatements (statements source) = (.ok (), layout))
    (member : placement ∈ layout.placements) {program : AssembledProgram}
    (accepted : assemble source = .ok program) :
    ∃ word, placement.word layout.symbols = .ok word ∧
      (placement.address, word) ∈ CardImage.plain program.image.pairs := by
  obtain ⟨start, image, -, made, rfl⟩ := exists_image_of_accepted laidOut accepted
  simp only [Layout.image, bind_eq_ok_iff] at made
  obtain ⟨installed, -, loaded, placed, jump⟩ := made
  obtain ⟨body, words, related, addresses, pairs⟩ := pairs_of_foldlM_addPlacement placed
  obtain ⟨word, returned, place⟩ := exists_mem_zip_addresses related member
  refine ⟨word, returned, ?_⟩
  -- the last jump only adds a pair behind those of the placements
  obtain ⟨last, added⟩ := exists_pair_of_addJump jump
  rw [← addresses] at place
  rw [added, pairs, CardImage.plain, List.map_append, List.map_append, List.mem_append,
    List.mem_append]
  exact .inl (.inr place)

theorem mem_placements_iff {entries : List Entry} :
    placement ∈ (Layout.ofEntries entries).placements ↔ ∃ i entry, entries[i]? = some entry ∧
      placement = ⟨firstAddress + i, entry.operation, entry.operand, entry.line⟩ := by
  simp only [Layout.ofEntries, List.mem_map, Prod.exists,
    List.mk_mem_zipIdx_iff_le_and_getElem?_sub]
  constructor
  · rintro ⟨entry, address, ⟨above, found⟩, rfl⟩
    exact ⟨address - firstAddress, entry, found, by rw [Nat.add_sub_cancel' above]⟩
  · rintro ⟨i, entry, found, rfl⟩
    refine ⟨entry, firstAddress + i, ⟨Nat.le_add_right .., ?_⟩, rfl⟩
    rwa [Nat.add_sub_cancel_left]

/-- An accepted source has entries, of which one is an instruction and all have words. -/
theorem exists_yields {program : AssembledProgram} (accepted : assemble source = .ok program) :
    ∃ entries words i, List.Forall₂ Entry.Of (statements source) entries ∧ Fits entries ∧
      entries.findIdx? (·.operation ≠ .data) = some i ∧
      List.Forall₂ (fun entry word => entry.Yields (definitions entries) word) entries words := by
  obtain ⟨entries, _, start, related, assembled⟩ := exists_assembled accepted
  obtain ⟨i, first, -⟩ := Option.map_eq_some_iff.mp assembled.first
  have laidOut := (Layout.ofStatements_eq_ok_iff ..).mpr ⟨entries, related, assembled.fits, rfl⟩
  obtain ⟨words, encoded⟩ : ∃ words, List.Forall₂
      (fun entry word => entry.Yields (definitions entries) word) entries words := by
    refine exists_words fun entry member => ?_
    -- a word does not depend on the address of its placement
    obtain ⟨j, found⟩ := List.mem_iff_getElem?.mp member
    obtain ⟨word, returned, -⟩ := exists_word_of_accepted laidOut
      (mem_placements_iff.mpr ⟨j, entry, found, rfl⟩) accepted
    exact ⟨word, fun _ => returned⟩
  exact ⟨entries, words, i, related, assembled.fits, first, encoded⟩

/-- A placement's error is reported if all placements before it have words. -/
theorem assemble_of_placement (laidOut : Layout.ofStatements (statements source) = (.ok (), layout))
    {start : Nat} (starts : layout.start = some start) (member : placement ∈ layout.placements)
    {error : AssemblyError} (fails : placement.word layout.symbols = .error error)
    (earlier : ∀ earlier ∈ layout.placements, earlier.address < placement.address →
      ∃ word, earlier.word layout.symbols = .ok word) : assemble source = .error error := by
  obtain ⟨entries, related, fits, rfl⟩ := (Layout.ofStatements_eq_ok_iff ..).mp laidOut
  obtain ⟨i, first, -⟩ := Option.map_eq_some_iff.mp starts
  obtain ⟨j, entry, found, rfl⟩ := mem_placements_iff.mp member
  obtain ⟨inside, same⟩ := List.getElem?_eq_some_iff.mp found
  obtain ⟨front, back, rfl, rfl⟩ :
      ∃ front back, entries = front ++ entry :: back ∧ j = front.length := by
    refine ⟨entries.take j, entries.drop (j + 1), ?_, (List.length_take_of_le inside.le).symm⟩
    rw [← same, ← List.drop_eq_getElem_cons inside, List.take_append_drop]
  obtain ⟨words, encoded⟩ : ∃ words, List.Forall₂
      (fun other word => other.Yields (definitions (front ++ entry :: back)) word) front words := by
    refine exists_words fun other before => ?_
    -- the entry has a placement of its own, and a word does not depend on its address
    obtain ⟨k, below, rfl⟩ := List.getElem_of_mem before
    have numbered : (front ++ entry :: back)[k]? = some front[k] := by
      rw [List.getElem?_append_left below, List.getElem?_eq_getElem below]
    obtain ⟨word, returned⟩ := earlier _ (mem_placements_iff.mpr ⟨k, _, numbered, rfl⟩)
      (Nat.add_lt_add_left below _)
    exact ⟨word, fun _ => returned⟩
  exact assemble_of_fails related fits first encoded fun _ => fails

theorem judged_of_word (laidOut : Layout.ofStatements (statements source) = (.ok (), layout))
    {start : Nat} (starts : layout.start = some start) (member : placement ∈ layout.placements)
    {result : Except AssemblyError Word} (word : placement.word layout.symbols = result) :
    Judged source layout placement result where
  word
  encoded := by
    rintro _ rfl program accepted
    obtain ⟨other, returned, place⟩ := exists_word_of_accepted laidOut member accepted
    cases word.symm.trans returned
    exact place
  refused := by
    rintro error rfl program accepted
    obtain ⟨other, returned, -⟩ := exists_word_of_accepted laidOut member accepted
    cases word.symm.trans returned
  reported := by
    rintro error rfl earlier
    exact assemble_of_placement laidOut starts member word earlier

end Placements

/-! ### Literals -/

theorem value_encode (opcode : Opcode) {value : Int} (above : 0 ≤ value) (below : value ≤ 99) :
    (Instruction.encode ⟨opcode, UInt8.ofNat value.toNat⟩).value = 100 * opcode.digit + value := by
  simp only [Instruction.encode, UInt8.toNat_ofNat']
  omega

/-- How the operand of an instruction is judged if it is no label. -/
structure JudgedByValue (source : String) (layout : Layout) (placement : Placement)
    (opcode : Opcode) : Prop where
  short : ∀ value, Text.Literal placement.operand.toList value → 0 ≤ value → value ≤ 99 →
    ∃ word : Word, word.value = 100 * opcode.digit + value ∧
      Judged source layout placement (.ok word)
  outside : ∀ value, Text.Literal placement.operand.toList value →
    -2 ^ 63 ≤ value → value < 2 ^ 63 → ¬(0 ≤ value ∧ value ≤ 99) →
    Judged source layout placement (.error (.operandOutOfRange placement.line value))
  /-- An integer of more than 64 bits is not seen to be one. -/
  wide : ∀ value, Text.Literal placement.operand.toList value →
    ¬(-2 ^ 63 ≤ value ∧ value < 2 ^ 63) →
    Judged source layout placement (.error (.undefinedLabel placement.line placement.operand))
  named : (∀ value, ¬Text.Literal placement.operand.toList value) →
    Judged source layout placement (.error (.undefinedLabel placement.line placement.operand))

/-- Once the first pass is over, an operand that is no label is judged by its value, with whatever sign
and however many zeros it is written. -/
theorem literals_judged_by_value {source : String} {layout : Layout} {start : Nat}
    {placement : Placement} {opcode : Opcode}
    (laidOut : Layout.ofStatements (statements source) = (.ok (), layout))
    (starts : layout.start = some start) (member : placement ∈ layout.placements)
    (code : placement.operation = .code opcode)
    (unlabelled : placement.operand ∉ layout.symbols.map Prod.fst) :
    JudgedByValue source layout placement opcode := by
  have absent : layout.symbols.lookup placement.operand = none := by
    rw [List.lookup_eq_none_iff]
    intro pair defined
    rw [bne_iff_ne]
    rintro same
    exact unlabelled (List.mem_map.mpr ⟨pair, defined, same.symm⟩)
  have read {value : Int} (literal : Text.Literal placement.operand.toList value)
      (small : -2 ^ 63 ≤ value ∧ value < 2 ^ 63) :
      Text.integer64? placement.operand.toList = some value :=
    Text.integer64?_eq_some_iff.mpr ⟨literal, small⟩
  -- without a value of 64 bits there is none to read
  have name (unread : ∀ value, Text.Literal placement.operand.toList value →
      ¬(-2 ^ 63 ≤ value ∧ value < 2 ^ 63)) :
      placement.word layout.symbols = .error (.undefinedLabel placement.line placement.operand) := by
    refine word_of_name code absent (Option.eq_none_iff_forall_ne_some.mpr fun value read => ?_)
    obtain ⟨literal, small⟩ := Text.integer64?_eq_some_iff.mp read
    exact unread value literal small
  constructor
  case short =>
    intro value literal above below
    exact ⟨_, value_encode opcode above below, judged_of_word laidOut starts member <|
      word_of_inside code absent (read literal (by omega)) ⟨above, below⟩⟩
  case outside =>
    intro value literal lower upper large
    exact judged_of_word laidOut starts member <|
      word_of_outside code absent (read literal ⟨lower, upper⟩) large
  case wide =>
    intro value literal large
    refine judged_of_word laidOut starts member (name fun other same => ?_)
    -- a text is a literal of one value only
    have equal := (Text.integer?_of_literal literal).symm.trans (Text.integer?_of_literal same)
    cases equal
    exact large
  case named =>
    intro none
    exact judged_of_word laidOut starts member (name fun value literal => absurd literal (none value))

/-- A literal of two digits may be written with a sign and any number of zeros. -/
theorem padded_literal_encoded :
    let source := "HRS -0\nADD +00000000000000000000042"
    ∃ (word : Word) (program : AssembledProgram), word.value = 242 ∧
      assemble source = .ok program ∧ (4, word) ∈ CardImage.plain program.image.pairs := by
  intro source
  let placement : Placement := ⟨4, .code .add, "+00000000000000000000042", 2⟩
  let layout : Layout := ⟨5, [], [⟨3, .code .halt, "-0", 1⟩, placement], some 3⟩
  have laidOut : Layout.ofStatements (statements source) = (.ok (), layout) := by decide
  have literal : Text.Literal placement.operand.toList 42 := Text.literal_of_integer? (by decide)
  have judged : JudgedByValue source layout placement .add :=
    literals_judged_by_value laidOut rfl (.tail _ (.head _)) rfl (by decide)
  obtain ⟨word, value, same⟩ := judged.short 42 literal (by decide) (by decide)
  have accepted : assemble source = .ok ⟨[], 3, ⟨[(2, .jumpTo 0), (3, ⟨900, by decide, by decide⟩),
      (4, ⟨242, by decide, by decide⟩), (2, .jumpTo 3)]⟩⟩ := by cbv
  exact ⟨word, _, value, accepted, same.encoded word rfl _ accepted⟩

/-- Twenty nines are a literal and out of range, but are reported as the name of a label. -/
theorem wide_literal_taken_for_name :
    let source := "HRS 99999999999999999999\n"
    let placement : Placement := ⟨3, .code .halt, "99999999999999999999", 1⟩
    Layout.ofStatements (statements source) = (.ok (), ⟨4, [], [placement], some 3⟩) ∧
      Text.Literal placement.operand.toList 99999999999999999999 ∧
      assemble source = .error (.undefinedLabel 1 "99999999999999999999") ∧
      ∀ line value, assemble source ≠ .error (.operandOutOfRange line value) := by
  intro source placement
  have reported : assemble source = .error (.undefinedLabel 1 "99999999999999999999") := by decide
  refine ⟨by decide, Text.literal_of_integer? (by decide), reported, fun line value other => ?_⟩
  cases reported.symm.trans other

end Cardiac.Assembly
