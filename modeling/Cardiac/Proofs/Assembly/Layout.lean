import Mathlib.Data.List.Forall2
import Mathlib.Data.List.Nodup
import Cardiac.Proofs.Assembly.Entries

/-!
# What the first pass computes

The layout of a source is a function of its entries: the addresses count up from the first free
one, every label stands for the address of its entry, and the program starts at the first entry
that is no data. The first pass succeeds exactly if every statement is an entry, the entries fit
into memory and no label occurs twice.
-/
namespace Cardiac.Assembly

/-- The labels of entries; an unlabelled entry has none. -/
def labels (entries : List Entry) : List String := (entries.map Entry.label).filter (· ≠ "")

/-- The labels with the addresses of their entries. -/
def definitions (entries : List Entry) : List (String × Nat) :=
  (entries.zipIdx firstAddress).filterMap fun (entry, address) =>
    if entry.label = "" then none else some (entry.label, address)

/-- The layout that gives every entry the next address. -/
def Layout.ofEntries (entries : List Entry) : Layout where
  next := firstAddress + entries.length
  symbols := definitions entries
  placements := (entries.zipIdx firstAddress).map fun (entry, address) =>
    ⟨address, entry.operation, entry.operand, entry.line⟩
  start := (entries.findIdx? (·.operation ≠ .data)).map (firstAddress + ·)

/-- The entries have addresses up to the last one, and no label occurs twice. -/
structure Fits (entries : List Entry) : Prop where
  bounded : entries.length ≤ 97
  distinct : (labels entries).Nodup

theorem Fits.of_append {front back : List Entry} (fits : Fits (front ++ back)) : Fits front := by
  obtain ⟨bounded, distinct⟩ := fits
  rw [List.length_append] at bounded
  simp only [labels, List.map_append, List.filter_append] at distinct
  exact ⟨by omega, (List.nodup_append.mp distinct).1⟩

theorem map_fst_definitions (entries : List Entry) :
    (definitions entries).map Prod.fst = labels entries := by
  rw [definitions, labels]
  -- the addresses play no part, so they may start anywhere
  generalize firstAddress = address
  induction entries generalizing address with
  | nil => rfl
  | cons entry rest ih =>
    by_cases unlabelled : entry.label = ""
    · simp [List.zipIdx_cons, unlabelled, ih]
    · simp [List.zipIdx_cons, unlabelled, ih]

theorem labels_concat (entries : List Entry) (entry : Entry) :
    labels (entries ++ [entry]) =
      labels entries ++ if entry.label = "" then [] else [entry.label] := by
  by_cases unlabelled : entry.label = "" <;> simp [labels, unlabelled]

theorem definitions_concat (entries : List Entry) (entry : Entry) :
    definitions (entries ++ [entry]) = definitions entries ++
      if entry.label = "" then [] else [(entry.label, firstAddress + entries.length)] := by
  by_cases unlabelled : entry.label = "" <;>
    simp [definitions, List.zipIdx_append, unlabelled]

theorem fits_concat_iff {entries : List Entry} (fits : Fits entries) (entry : Entry) :
    Fits (entries ++ [entry]) ↔
      entries.length < 97 ∧ (entry.label = "" ∨ entry.label ∉ labels entries) := by
  constructor
  · intro longer
    have bounded := longer.bounded
    have distinct := longer.distinct
    rw [List.length_append, List.length_singleton] at bounded
    refine ⟨bounded, ?_⟩
    by_cases unlabelled : entry.label = ""
    · exact .inl unlabelled
    · -- a label that occurred before would occur twice now
      rw [labels_concat, if_neg unlabelled, List.nodup_append] at distinct
      exact .inr fun member => distinct.2.2 _ member _ (List.mem_singleton_self _) rfl
  · rintro ⟨room, fresh⟩
    refine ⟨by rwa [List.length_append, List.length_singleton], ?_⟩
    rw [labels_concat]
    by_cases unlabelled : entry.label = ""
    · simpa [unlabelled] using fits.distinct
    · rw [if_neg unlabelled, List.nodup_append]
      refine ⟨fits.distinct, List.nodup_singleton _, ?_⟩
      intro label member other single same
      rw [List.mem_singleton] at single
      exact fresh.resolve_left unlabelled (single ▸ same ▸ member)

namespace Layout

theorem start_noteStart (layout : Layout) (operation : Operation) :
    (layout.noteStart operation).start =
      if operation = .data then layout.start else layout.start <|> some layout.next := by
  by_cases data : operation = .data
  · rw [noteStart, if_neg fun both => both.2 data, if_pos data]
  · cases found : layout.start <;> simp [noteStart, found, data]

@[simp] theorem next_noteStart (layout : Layout) (operation : Operation) :
    (layout.noteStart operation).next = layout.next := by
  unfold noteStart
  split <;> rfl

@[simp] theorem symbols_noteStart (layout : Layout) (operation : Operation) :
    (layout.noteStart operation).symbols = layout.symbols := by
  unfold noteStart
  split <;> rfl

@[simp] theorem placements_noteStart (layout : Layout) (operation : Operation) :
    (layout.noteStart operation).placements = layout.placements := by
  unfold noteStart
  split <;> rfl

theorem start_ofEntries_concat (entries : List Entry) (entry : Entry) :
    (ofEntries (entries ++ [entry])).start =
      ((ofEntries entries).noteStart entry.operation).start := by
  rw [start_noteStart]
  by_cases data : entry.operation = .data
  · simp [ofEntries, List.findIdx?_append, List.findIdx?_cons, data]
  · -- an instruction starts the program only if there is none before it
    cases entries.findIdx? (·.operation ≠ .data) <;>
      simp [ofEntries, List.findIdx?_append, List.findIdx?_cons, data]

theorem ofEntries_concat (entries : List Entry) (entry : Entry) :
    ofEntries (entries ++ [entry]) =
      ⟨(ofEntries entries).next + 1, definitions (entries ++ [entry]),
        (ofEntries entries).placements ++
          [⟨(ofEntries entries).next, entry.operation, entry.operand, entry.line⟩],
        ((ofEntries entries).noteStart entry.operation).start⟩ := by
  rw [← start_ofEntries_concat]
  simp [ofEntries, List.zipIdx_append, Nat.add_assoc]

theorem lookup_definitions_isSome_iff (entries : List Entry) (label : String) :
    ((definitions entries).lookup label).isSome = true ↔ label ∈ labels entries := by
  rw [← map_fst_definitions, List.lookup_isSome_iff, List.mem_map]
  simp only [beq_iff_eq]
  constructor
  · rintro ⟨pair, member, same⟩
    exact ⟨pair, member, same.symm⟩
  · rintro ⟨pair, member, same⟩
    exact ⟨pair, member, same.symm⟩

theorem define_of_symbols {layout : Layout} {entries : List Entry} (entry : Entry)
    (symbols : layout.symbols = definitions entries)
    (next : layout.next = firstAddress + entries.length) :
    layout.define entry.line entry.label =
      if entry.label = "" ∨ entry.label ∉ labels entries then
        (.ok (), { layout with symbols := definitions (entries ++ [entry]) })
      else (.error (.duplicateLabel entry.line entry.label), layout) := by
  have known := lookup_definitions_isSome_iff entries entry.label
  rw [definitions_concat, ← symbols, ← next]
  rw [← symbols] at known
  by_cases unlabelled : entry.label = ""
  · simp [define, unlabelled]
  · by_cases member : entry.label ∈ labels entries
    · simp [define, unlabelled, member, known.mpr member]
    · have absent := Bool.eq_false_iff.mpr (mt known.mp member)
      simp [define, unlabelled, member, absent]

theorem place_ofEntries (entries : List Entry) (entry : Entry) :
    (ofEntries entries).place entry.line entry.label entry.operation entry.operand =
      if 97 ≤ entries.length then (.error (.programTooLarge entry.line), ofEntries entries)
      else if entry.label = "" ∨ entry.label ∉ labels entries then
        (.ok (), ofEntries (entries ++ [entry]))
      else
        (.error (.duplicateLabel entry.line entry.label),
          (ofEntries entries).noteStart entry.operation) := by
  -- ninety-seven entries take the addresses from 3 to 99
  have full : lastAddress < (ofEntries entries).next ↔ 97 ≤ entries.length := by
    simp only [lastAddress, ofEntries, firstAddress]
    omega
  have defined := define_of_symbols entry
    (symbols_noteStart (ofEntries entries) entry.operation) (next_noteStart ..)
  unfold place
  by_cases large : 97 ≤ entries.length
  · rw [if_pos (full.mpr large), if_pos large]
  · rw [if_neg (mt full.mp large), if_neg large, defined]
    by_cases fresh : entry.label = "" ∨ entry.label ∉ labels entries
    · rw [if_pos fresh, if_pos fresh, ofEntries_concat]
    · rw [if_neg fresh, if_neg fresh]

theorem add_of_entry {statement : Statement} {entry : Entry} (of : entry.Of statement)
    (layout : Layout) : layout.add statement =
      layout.place entry.line entry.label entry.operation entry.operand := by
  have named := Operation.ofName?_eq_some_iff.mpr (rfl : entry.operation.name = _)
  simp only [add, of.fields, Entry.fields, named, of.line]

theorem exists_entry_of_add {statement : Statement} {layout next : Layout}
    (added : layout.add statement = (.ok (), next)) : ∃ entry : Entry, entry.Of statement := by
  unfold add at added
  split at added
  next label name operand fields =>
    split at added
    next operation named =>
      refine ⟨⟨statement.line, label, operation, operand⟩, rfl, ?_⟩
      rw [fields, Operation.ofName?_eq_some_iff.mp named, Entry.fields]
    · cases added
  · cases added

/-- The next statement is taken exactly if it is an entry that fits to the earlier ones. -/
theorem add_ofEntries_eq_ok_iff {entries : List Entry} (fits : Fits entries)
    (statement : Statement) (layout : Layout) :
    (ofEntries entries).add statement = (.ok (), layout) ↔ ∃ entry : Entry, entry.Of statement ∧
      Fits (entries ++ [entry]) ∧ layout = ofEntries (entries ++ [entry]) := by
  constructor
  · intro added
    -- the statement's fields make it an entry, and then `place` decides
    obtain ⟨entry, of⟩ := exists_entry_of_add added
    rw [add_of_entry of, place_ofEntries] at added
    split at added
    · cases added
    next small =>
      split at added
      next label =>
        cases added
        exact ⟨entry, of, (fits_concat_iff fits entry).mpr ⟨by omega, label⟩, rfl⟩
      · cases added
  · rintro ⟨entry, of, longer, rfl⟩
    obtain ⟨room, label⟩ := (fits_concat_iff fits entry).mp longer
    rw [add_of_entry of, place_ofEntries, if_neg (by omega), if_pos label]

/-! ### Statements in a row -/

theorem addAll_of_ok {layout next : Layout} {statement : Statement}
    (added : layout.add statement = (.ok (), next)) (rest : List Statement) :
    layout.addAll (statement :: rest) = next.addAll rest := by
  simp only [addAll, added]

theorem addAll_of_error {layout left : Layout} {statement : Statement} {error : AssemblyError}
    (refused : layout.add statement = (.error error, left)) (rest : List Statement) :
    layout.addAll (statement :: rest) = (.error error, left) := by
  simp only [addAll, refused]

theorem addAll_append {layout middle : Layout} {front : List Statement}
    (added : layout.addAll front = (.ok (), middle)) (back : List Statement) :
    layout.addAll (front ++ back) = middle.addAll back := by
  induction front generalizing layout with
  | nil =>
    cases added
    rfl
  | cons statement rest ih =>
    rcases step : layout.add statement with ⟨⟨⟩ | ⟨⟩, next⟩
    · rw [addAll_of_error step] at added
      cases added
    · rw [addAll_of_ok step] at added
      rw [List.cons_append, addAll_of_ok step, ih added]

theorem addAll_ofEntries_eq_ok_iff {before : List Entry} (fits : Fits before)
    (statements : List Statement) (layout : Layout) :
    (ofEntries before).addAll statements = (.ok (), layout) ↔ ∃ entries : List Entry,
      List.Forall₂ (fun statement entry => entry.Of statement) statements entries ∧
        Fits (before ++ entries) ∧ layout = ofEntries (before ++ entries) := by
  -- the entries laid out so far grow by one with every statement
  induction statements generalizing before with
  | nil =>
    simp only [addAll, Prod.mk.injEq, true_and, List.forall₂_nil_left_iff]
    constructor
    · rintro rfl
      exact ⟨[], rfl, by simpa using fits, by simp⟩
    · rintro ⟨_, rfl, _, equal⟩
      simpa using equal.symm
  | cons statement rest ih =>
    constructor
    · intro returned
      rcases step : (ofEntries before).add statement with ⟨⟨⟩ | ⟨⟩, next⟩
      · rw [addAll_of_error step] at returned
        cases returned
      · obtain ⟨entry, of, longer, rfl⟩ := (add_ofEntries_eq_ok_iff fits ..).mp step
        rw [addAll_of_ok step] at returned
        obtain ⟨entries, related, all, rfl⟩ := (ih longer).mp returned
        rw [List.append_assoc] at all ⊢
        exact ⟨entry :: entries, .cons of related, all, rfl⟩
    · rintro ⟨entries, related, all, rfl⟩
      cases related with
      | @cons _ entry _ entries of related =>
        -- if all entries fit, those up to this one do
        have split := List.append_cons before entry entries
        have longer := (split ▸ all).of_append
        have added := (add_ofEntries_eq_ok_iff fits ..).mpr ⟨entry, of, longer, rfl⟩
        rw [addAll_of_ok added]
        exact (ih longer).mpr ⟨entries, related, split ▸ all, by rw [split]⟩

/-- The first pass succeeds exactly if every statement is an entry and the entries fit. -/
theorem ofStatements_eq_ok_iff (statements : List Statement) (layout : Layout) :
    ofStatements statements = (.ok (), layout) ↔ ∃ entries : List Entry,
      List.Forall₂ (fun statement entry => entry.Of statement) statements entries ∧
        Fits entries ∧ layout = ofEntries entries := by
  have empty : Fits [] := ⟨by decide, List.nodup_nil⟩
  exact addAll_ofEntries_eq_ok_iff empty statements layout

end Layout
end Cardiac.Assembly
