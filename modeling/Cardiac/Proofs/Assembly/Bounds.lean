import Cardiac.Proofs.Assembly.Verdict

/-!
# Addresses stay within two digits

At any line of the first pass the next address is one behind those that were given out, and not beyond
100, so eight bits hold it and the one after it. A line that is refused leaves all of this as it was, but
it may have noted itself down as the program's start, at an address that it does not get. The second pass
then only meets addresses that an image takes, and operands and jumps that are words: it never fails for
a reason that is no fault of the source.
-/
namespace Cardiac

theorem Word.ofInstruction_digit (instruction : Instruction) :
    ofInstruction instruction.opcode.digit (instruction.operand.toNat % 100) =
      .ok instruction.encode :=
  ofInt_value instruction.encode

namespace Assembly

/-- The addresses of a layout, wherever the first pass stops. -/
structure Layout.Addressed (layout : Layout) : Prop where
  lower : 3 ≤ layout.next
  upper : layout.next ≤ 100
  counted : layout.next = 3 + layout.placements.length
  addresses : layout.placements.map Placement.address = List.range' 3 layout.placements.length
  symbols : ∀ symbol ∈ layout.symbols, symbol.2 < layout.next

/-- What holds of a layout between two lines of the first pass. -/
structure Layout.Bounded (layout : Layout) : Prop extends layout.Addressed where
  start : ∀ start, layout.start = some start → start < layout.next

/-- What a statement that is refused with this error makes of the layout before it. -/
structure Layout.LeftBy (layout : Layout) (statement : Statement) (error : AssemblyError)
    (left : Layout) : Prop extends left.Addressed where
  next : left.next = layout.next
  symbols_eq : left.symbols = layout.symbols
  placements : left.placements = layout.placements
  start : left.start = layout.start ∨ left.start = some left.next
  /-- Only the first instruction is noted down, and only a repeated label is found after that. -/
  noted : left.start ≠ layout.start ↔ layout.start = none ∧
    (∃ entry : Entry, entry.Of statement ∧ entry.operation ≠ .data) ∧
    ∃ line label, error = .duplicateLabel line label

/-- The second pass finds nothing in the layout that an image would not take. -/
structure Layout.Encodable (layout : Layout) : Prop where
  short : ∀ placement ∈ layout.placements, placement.address < 100
  /-- An opcode and an operand of two digits make a word, so no other has to stand in for it. -/
  encoded : ∀ placement ∈ layout.placements, ∀ opcode, placement.operation = .code opcode →
    ∀ word, placement.word layout.symbols = .ok word → ∃ operand < 100,
      word = Instruction.encode ⟨opcode, UInt8.ofNat operand⟩ ∧
      Word.ofInstruction opcode.digit operand = .ok word
  jumps : ∀ target, target = 0 ∨ layout.start = some target → target < 100 ∧
    ∀ image, ∃ grown, addJump image target = .ok grown

namespace Layout

variable {layout next : Layout}

/-! ### The first pass -/

theorem eq_of_define_ok {line : Nat} {label : String}
    (defined : layout.define line label = (.ok (), next)) :
    next = { layout with symbols := next.symbols } ∧
      ∀ symbol ∈ next.symbols, symbol ∈ layout.symbols ∨ symbol.2 = layout.next := by
  unfold define at defined
  split at defined
  · cases defined
    exact ⟨rfl, fun _ member => .inl member⟩
  · split at defined
    · cases defined
    · cases defined
      refine ⟨rfl, fun symbol member => ?_⟩
      rcases List.mem_append.mp member with earlier | last
      · exact .inl earlier
      · rw [List.mem_singleton.mp last]
        exact .inr rfl

theorem eq_of_define_error {line : Nat} {label : String} {error : AssemblyError} {left : Layout}
    (refused : layout.define line label = (.error error, left)) :
    left = layout ∧ error = .duplicateLabel line label := by
  unfold define at refused
  split at refused
  · cases refused
  · split at refused
    · cases refused
      exact ⟨rfl, rfl⟩
    · cases refused

theorem eq_of_place_ok {line : Nat} {label operand : String} {operation : Operation}
    (placed : layout.place line label operation operand = (.ok (), next)) :
    layout.next ≤ lastAddress ∧
      next = ⟨layout.next + 1, next.symbols,
        layout.placements ++ [⟨layout.next, operation, operand, line⟩],
        (layout.noteStart operation).start⟩ ∧
      ∀ symbol ∈ next.symbols, symbol ∈ layout.symbols ∨ symbol.2 = layout.next := by
  unfold place at placed
  split at placed
  · cases placed
  next room =>
    split at placed
    · cases placed
    next defined returned =>
      cases placed
      obtain ⟨same, symbols⟩ := eq_of_define_ok returned
      rw [symbols_noteStart, next_noteStart] at symbols
      refine ⟨Nat.le_of_not_lt room, ?_, symbols⟩
      rw [same]

theorem eq_of_place_error {line : Nat} {label operand : String} {operation : Operation}
    {error : AssemblyError} {left : Layout}
    (refused : layout.place line label operation operand = (.error error, left)) :
    left = layout ∧ error = .programTooLarge line ∨
      left = layout.noteStart operation ∧ error = .duplicateLabel line label := by
  unfold place at refused
  split at refused
  · cases refused
    exact .inl ⟨rfl, rfl⟩
  · split at refused
    next returned =>
      cases refused
      exact .inr (eq_of_define_error returned)
    · cases refused

/-- Only the entry with a repeated label is refused with a change of the layout. -/
theorem eq_of_add_error {statement : Statement} {error : AssemblyError} {left : Layout}
    (refused : layout.add statement = (.error error, left)) :
    (left = layout ∧ ∀ line label, error ≠ .duplicateLabel line label) ∨
      ∃ entry : Entry, entry.Of statement ∧ left = layout.noteStart entry.operation ∧
        error = .duplicateLabel entry.line entry.label := by
  unfold add at refused
  split at refused
  next label name operand fields =>
    split at refused
    next operation named =>
      have of : Entry.Of statement ⟨statement.line, label, operation, operand⟩ :=
        ⟨rfl, by rw [fields, Operation.ofName?_eq_some_iff.mp named, Entry.fields]⟩
      rcases eq_of_place_error refused with ⟨rfl, rfl⟩ | ⟨rfl, rfl⟩
      · exact .inl ⟨rfl, fun _ _ same => by cases same⟩
      · exact .inr ⟨_, of, rfl, rfl⟩
    · cases refused
      exact .inl ⟨rfl, fun _ _ same => by cases same⟩
  · cases refused
    exact .inl ⟨rfl, fun _ _ same => by cases same⟩

theorem next_add {statement : Statement} (added : layout.add statement = (.ok (), next)) :
    next.next = layout.next + 1 := by
  obtain ⟨entry, of⟩ := exists_entry_of_add added
  rw [add_of_entry of] at added
  rw [(eq_of_place_ok added).2.1]

theorem Addressed.noteStart (addressed : layout.Addressed) (operation : Operation) :
    (layout.noteStart operation).Addressed := by
  obtain ⟨lower, upper, counted, addresses, symbols⟩ := addressed
  refine ⟨by simpa, by simpa, by simpa, by simpa, ?_⟩
  rwa [symbols_noteStart, next_noteStart]

/-- One more line keeps the bounds. -/
theorem Bounded.add (bounded : layout.Bounded) {statement : Statement}
    (added : layout.add statement = (.ok (), next)) : next.Bounded := by
  obtain ⟨entry, of⟩ := exists_entry_of_add added
  rw [add_of_entry of] at added
  obtain ⟨room, same, symbols⟩ := eq_of_place_ok added
  have counted := bounded.counted
  rw [lastAddress] at room
  rw [same]
  refine ⟨⟨?lower, ?upper, ?counted, ?addresses, ?symbols⟩, ?start⟩
  case lower => exact Nat.le_succ_of_le bounded.lower
  case upper => exact Nat.succ_le_succ room
  case counted => simp only [List.length_append, List.length_singleton, counted, Nat.add_assoc]
  case addresses =>
    rw [List.map_append, bounded.addresses, List.length_append, List.length_singleton,
      List.range'_concat, Nat.one_mul, ← counted]
    rfl
  case symbols =>
    intro symbol member
    refine Nat.lt_succ_of_le ?_
    rcases symbols symbol member with earlier | last
    · exact Nat.le_of_lt (bounded.symbols symbol earlier)
    · exact Nat.le_of_eq last
  case start =>
    intro start found
    refine Nat.lt_succ_of_le ?_
    rw [start_noteStart] at found
    -- a start that was found before stays
    cases first : layout.start with
    | some earlier =>
      have same : some earlier = some start := by simpa [first] using found
      cases same
      exact Nat.le_of_lt (bounded.start start first)
    | none =>
      by_cases data : entry.operation = .data
      · simp [first, data] at found
      · have same : layout.next = start := by simpa [first, data] using found
        exact Nat.le_of_eq same.symm

theorem start_noteStart_ne_iff (operation : Operation) :
    (layout.noteStart operation).start ≠ layout.start ↔
      layout.start = none ∧ operation ≠ .data := by
  rw [start_noteStart]
  by_cases data : operation = .data
  · simp [data]
  · cases found : layout.start <;> simp [data]

/-- A refused line keeps everything but the start. -/
theorem Bounded.leftBy (bounded : layout.Bounded) {statement : Statement} {error : AssemblyError}
    {left : Layout} (refused : layout.add statement = (.error error, left)) :
    layout.LeftBy statement error left := by
  rcases eq_of_add_error refused with ⟨rfl, other⟩ | ⟨entry, of, rfl, rfl⟩
  · refine ⟨bounded.toAddressed, rfl, rfl, rfl, .inl rfl, fun changed => absurd rfl changed, ?_⟩
    rintro ⟨-, -, line, label, same⟩
    exact absurd same (other line label)
  · refine ⟨bounded.toAddressed.noteStart _, next_noteStart .., symbols_noteStart ..,
      placements_noteStart .., ?_, ?_⟩
    · rw [start_noteStart, next_noteStart]
      split
      · exact .inl rfl
      · cases layout.start <;> simp
    · rw [start_noteStart_ne_iff]
      constructor
      · rintro ⟨first, code⟩
        exact ⟨first, ⟨entry, of, code⟩, _, _, rfl⟩
      · rintro ⟨first, ⟨same, ofSame, code⟩, -⟩
        exact ⟨first, of.operation_eq ofSame ▸ code⟩

theorem bounded_of_addAll (bounded : layout.Bounded) {statements : List Statement}
    (laidOut : layout.addAll statements = (.ok (), next)) : next.Bounded := by
  induction statements generalizing layout with
  | nil =>
    cases laidOut
    exact bounded
  | cons statement statements ih =>
    rcases step : layout.add statement with ⟨⟨⟩ | ⟨⟩, middle⟩
    · rw [addAll_of_error step] at laidOut
      cases laidOut
    · rw [addAll_of_ok step] at laidOut
      exact ih (bounded.add step) laidOut

/-- The bounds hold of every layout that the first pass comes to. -/
theorem bounded_of_ofStatements {statements : List Statement}
    (laidOut : ofStatements statements = (.ok (), layout)) : layout.Bounded := by
  have empty : Bounded {} := ⟨⟨by decide, by decide, rfl, rfl, nofun⟩, nofun⟩
  exact bounded_of_addAll empty laidOut

/-- The first pass ends early at the statement that is refused. -/
theorem exists_refused_of_addAll {statements : List Statement} {error : AssemblyError}
    {left : Layout} (ended : layout.addAll statements = (.error error, left)) :
    ∃ count statement middle, statements[count]? = some statement ∧
      layout.addAll (statements.take count) = (.ok (), middle) ∧
      middle.add statement = (.error error, left) := by
  induction statements generalizing layout with
  | nil => cases ended
  | cons statement statements ih =>
    rcases step : layout.add statement with ⟨⟨⟩ | ⟨⟩, next⟩
    · rw [addAll_of_error step] at ended
      cases ended
      exact ⟨0, statement, layout, rfl, rfl, step⟩
    · rw [addAll_of_ok step] at ended
      obtain ⟨count, refused, middle, place, front, last⟩ := ih ended
      refine ⟨count + 1, refused, middle, place, ?_, last⟩
      rw [List.take_succ_cons, addAll_of_ok step, front]

/-- The next address can be counted up in eight bits. -/
theorem Bounded.toNat_add_one (bounded : layout.Bounded) :
    (UInt8.ofNat layout.next + 1).toNat = layout.next + 1 := by
  have upper := bounded.upper
  rw [UInt8.toNat_add, UInt8.toNat_ofNat']
  simp only [UInt8.toNat_one]
  omega

/-! ### The second pass -/

theorem exists_operand_of_word {placement : Placement} {symbols : List (String × Nat)}
    {opcode : Opcode} (code : placement.operation = .code opcode) {word : Word}
    (returned : placement.word symbols = .ok word) : ∃ operand < 100,
      word = Instruction.encode ⟨opcode, UInt8.ofNat operand⟩ ∧
      Word.ofInstruction opcode.digit operand = .ok word := by
  rw [Placement.word_of_code code] at returned
  cases resolved : resolve symbols placement.line placement.operand with
  | error error => simp [resolved] at returned
  | ok value =>
    simp only [resolved] at returned
    split at returned
    next inside =>
      cases returned
      have short : (UInt8.ofNat value.toNat).toNat % 100 = value.toNat := by
        rw [UInt8.toNat_ofNat']
        omega
      have digits := Word.ofInstruction_digit ⟨opcode, UInt8.ofNat value.toNat⟩
      simp only [short] at digits
      exact ⟨value.toNat, by omega, rfl, digits⟩
    · cases returned

theorem Bounded.encodable (bounded : layout.Bounded) : layout.Encodable where
  short placement member := by
    have address : placement.address ∈ List.range' 3 layout.placements.length :=
      bounded.addresses ▸ List.mem_map_of_mem member
    have counted := bounded.counted
    have upper := bounded.upper
    rw [List.mem_range'_1] at address
    omega
  encoded _ _ _ code _ returned := exists_operand_of_word code returned
  jumps target given := by
    have upper := bounded.upper
    have fits : target < 100 := by
      rcases given with rfl | found
      · decide
      · have below := bounded.start target found
        omega
    exact ⟨fits, fun image => ⟨_, addJump_of_lt image fits⟩⟩

end Layout

/-- An error names a line, unless nothing can be started. -/
theorem line?_of_assemble {source : String} {error : AssemblyError}
    (refused : assemble source = .error error) :
    error = .noEntryPoint ∨ ∃ number, error.line? = some number := by
  have outcome := assemble_of_verdict? source
  cases verdict : verdict? (Text.lines source.toList) with
  | none =>
    rw [verdict] at outcome
    obtain ⟨program, accepted⟩ := outcome
    cases refused.symm.trans accepted
  | some fault =>
    rw [verdict] at outcome
    cases refused.symm.trans outcome
    exact (eq_noEntryPoint_or_blames verdict).imp_right fun ⟨_, blames⟩ => ⟨_, blames.numbered⟩

/-- The first pass keeps within its bounds from line to line and where it ends early, and the second
one finds nothing in their layout that is no word or that an image does not take. -/
theorem addresses_stay_short (source : String) :
    (∀ count layout, Layout.ofStatements ((statements source).take count) = (.ok (), layout) →
      layout.Bounded ∧ ∀ statement next, layout.add statement = (.ok (), next) →
        next.next = (UInt8.ofNat layout.next + 1).toNat) ∧
    (∀ error left, Layout.ofStatements (statements source) = (.error error, left) →
      ∃ count statement layout, (statements source)[count]? = some statement ∧
        Layout.ofStatements ((statements source).take count) = (.ok (), layout) ∧
        layout.Bounded ∧ layout.LeftBy statement error left) ∧
    (∀ layout, Layout.ofStatements (statements source) = (.ok (), layout) → layout.Encodable) ∧
    (∀ error, assemble source ≠ .error (.word error)) ∧
    ∀ error, assemble source ≠ .error (.address error) := by
  refine ⟨fun count layout laidOut => ?_, fun error left ended => ?_, fun layout laidOut => ?_,
    fun error refused => ?_, fun error refused => ?_⟩
  · have bounded := Layout.bounded_of_ofStatements laidOut
    refine ⟨bounded, fun statement next added => ?_⟩
    rw [Layout.next_add added, bounded.toNat_add_one]
  · obtain ⟨count, statement, layout, place, front, refused⟩ := Layout.exists_refused_of_addAll ended
    have bounded := Layout.bounded_of_ofStatements front
    exact ⟨count, statement, layout, place, front, bounded, bounded.leftBy refused⟩
  · exact (Layout.bounded_of_ofStatements laidOut).encodable
  · rcases line?_of_assemble refused with same | ⟨number, named⟩
    · cases same
    · cases named
  · rcases line?_of_assemble refused with same | ⟨number, named⟩
    · cases same
    · cases named

/-- The first instruction has the label of the data before it, and is noted down as the start at the
next address before this is found. Without the repetition the second pass can go on. -/
theorem bounded_before_repeated_label :
    let before : Layout := ⟨4, [("A", 3)], [⟨3, .data, "1", 1⟩], none⟩
    let left : Layout := ⟨4, [("A", 3)], [⟨3, .data, "1", 1⟩], some 4⟩
    let whole : Layout := ⟨5, [("A", 3), ("B", 4)],
      [⟨3, .data, "1", 1⟩, ⟨4, .code .clearAdd, "3", 2⟩], some 4⟩
    assemble "A DATA 1\nA CLA 3" = .error (.duplicateLabel 2 "A") ∧
      before.Bounded ∧ left.Addressed ∧ left.start = some left.next ∧
      (∃ program, assemble "A DATA 1\nB CLA 3" = .ok program) ∧ whole.Encodable := by
  intro before left whole
  obtain ⟨first, ended, -, -, -⟩ := addresses_stay_short "A DATA 1\nA CLA 3"
  obtain ⟨-, -, second, -, -⟩ := addresses_stay_short "A DATA 1\nB CLA 3"
  obtain ⟨_, _, _, -, -, -, leftBy⟩ := ended (.duplicateLabel 2 "A") left (by decide)
  have accepted : assemble "A DATA 1\nB CLA 3" = .ok ⟨[("A", 3), ("B", 4)], 4,
      ⟨[(2, .jumpTo 0), (3, ⟨1, by decide, by decide⟩), (4, ⟨103, by decide, by decide⟩),
        (2, .jumpTo 4)]⟩⟩ := by cbv
  exact ⟨by decide, (first 1 before (by decide)).1, leftBy.toAddressed, rfl, ⟨_, accepted⟩,
    second whole (by decide)⟩

end Assembly
end Cardiac
