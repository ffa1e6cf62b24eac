import Mathlib
import Cardiac.Proofs.Assembly.Image

/-!
# Assembled programs as translations

A program that the assembler returns is the translation of its source, entry by entry: addresses
count up from 3, labels stand for the addresses of their entries wherever they are used, and the
program starts at its first instruction.
-/
namespace Cardiac.Assembly

/-- The program translates the source, whose entries have these words. -/
structure Translation (source : String) (entries : List Entry) (words : List Word)
    (program : AssembledProgram) : Prop where
  lines : fieldLists source = entries.map Entry.fields
  nonempty : 1 ≤ entries.length
  bounded : entries.length ≤ 97
  /-- The entries' words follow each other from address 3 on, framed by the loader's two jumps. -/
  pairs : ∃ start : Fin 100, program.start = start ∧
    CardImage.plain program.image.pairs =
      (2, .jumpTo 0) :: (words.zipIdx 3).map Prod.swap ++ [(2, .jumpTo start)]
  distinct : (labels entries).Nodup
  unique : (program.symbols.map Prod.fst).Nodup
  symbols : ∀ label address, (label, address) ∈ program.symbols ↔
    label ≠ "" ∧ ∃ i, (entries.map Entry.label)[i]? = some label ∧ address = 3 + i
  /-- The program starts at the first entry that is no data. -/
  first : ∃ i, entries.findIdx? (·.operation ≠ .data) = some i ∧ program.start = 3 + i
  entryPoint : program.image.entryPoint?.map Fin.val = some program.start
  encoded : List.Forall₂ (fun entry word => entry.EncodedAs program.symbols word) entries words

theorem mem_definitions_iff {entries : List Entry} {label : String} {address : Nat} :
    (label, address) ∈ definitions entries ↔
      label ≠ "" ∧ ∃ i, (entries.map Entry.label)[i]? = some label ∧ address = 3 + i := by
  simp only [definitions, List.mem_filterMap, Prod.exists, List.getElem?_map, Option.map_eq_some_iff]
  constructor
  · rintro ⟨entry, place, member, defined⟩
    split at defined
    · cases defined
    next labelled =>
      cases defined
      obtain ⟨above, found⟩ := List.mk_mem_zipIdx_iff_le_and_getElem?_sub.mp member
      simp only [firstAddress] at above found
      exact ⟨labelled, _, ⟨entry, found, rfl⟩, by omega⟩
  · rintro ⟨labelled, i, ⟨entry, found, rfl⟩, rfl⟩
    refine ⟨entry, 3 + i, List.mk_mem_zipIdx_iff_le_and_getElem?_sub.mpr ?_, if_neg labelled⟩
    simp only [firstAddress]
    exact ⟨by omega, by rwa [Nat.add_sub_cancel_left]⟩

theorem Entry.EncodedAs.congr {symbols table : List (String × Nat)} {entry : Entry} {word : Word}
    (encoded : entry.EncodedAs symbols word) (same : ∀ pair, pair ∈ symbols ↔ pair ∈ table) :
    entry.EncodedAs table word := by
  unfold Entry.EncodedAs OperandValue at *
  simpa only [same] using encoded

theorem map_fields_eq {statements : List Statement} {entries : List Entry}
    (related : List.Forall₂ (fun statement entry => Entry.Of statement entry) statements entries) :
    statements.map Statement.fields = entries.map Entry.fields := by
  induction related with
  | nil => rfl
  | cons of _ ih => rw [List.map_cons, List.map_cons, of.fields, ih]

theorem Assembled.pairs {entries : List Entry} {words : List Word} {start : Fin 100}
    {program : AssembledProgram} (assembled : Assembled entries words start program) :
    CardImage.plain program.image.pairs =
      (2, .jumpTo 0) :: (words.zipIdx 3).map Prod.swap ++ [(2, .jumpTo start)] := by
  obtain ⟨body, image, addresses⟩ := assembled.image
  rw [image, CardImage.framed, CardImage.plain, List.map_append, List.map_cons]
  exact congrArg (fun middle => (2, Word.jumpTo 0) :: middle ++ [(2, Word.jumpTo start)]) addresses

/-- What the two passes make of a source's entries translates the source. -/
theorem Assembled.translation {source : String} {entries : List Entry} {words : List Word}
    {start : Fin 100} {program : AssembledProgram}
    (assembled : Assembled entries words start program)
    (related : List.Forall₂ (fun statement entry => Entry.Of statement entry)
      (statements source) entries) : Translation source entries words program := by
  obtain ⟨i, found, first⟩ := Option.map_eq_some_iff.mp assembled.first
  have inside : i < entries.length := (List.findIdx?_eq_some_iff_findIdx_eq.mp found).1
  have keys : (program.symbols.map Prod.fst).Perm (labels entries) := by
    rw [← map_fst_definitions]
    exact assembled.symbols.map Prod.fst
  have lines := (map_fields_statements source).symm.trans (map_fields_eq related)
  refine
    { lines
      nonempty := by omega
      bounded := assembled.fits.bounded
      pairs := ⟨start, assembled.starts, assembled.pairs⟩
      distinct := assembled.fits.distinct
      unique := keys.nodup_iff.mpr assembled.fits.distinct
      symbols := fun label address => ?_
      first := ⟨i, found, by rw [assembled.starts, ← first, firstAddress]⟩
      entryPoint := ?_
      encoded := ?_ }
  · rw [assembled.symbols.mem_iff]
    exact mem_definitions_iff
  · obtain ⟨body, image, -⟩ := assembled.image
    rw [image, CardImage.entryPoint?_framed, assembled.starts]
    rfl
  · exact assembled.encoded.imp fun _ _ encoded =>
      encoded.congr fun pair => assembled.symbols.mem_iff.symm

/-- An accepted source is translated: the two passes agree on every label, whether it is used
before or behind its definition. -/
theorem assemble_translates {source : String} {program : AssembledProgram}
    (accepted : assemble source = .ok program) :
    ∃ entries words, Translation source entries words program := by
  obtain ⟨entries, words, start, related, assembled⟩ := exists_assembled accepted
  exact ⟨entries, words, assembled.translation related⟩

/-- A label may look like a number, and a forward reference finds it too. -/
theorem translates_number_label : ∃ entries words,
    Translation "; table\n5 DATA -12 x y\n\n CLA 5 ; five\nTAC 77\n77 HRS +07\n" entries words
      ⟨[("5", 3), ("77", 6)], 4, ⟨[(2, .jumpTo 0), (3, ⟨-12, by decide, by decide⟩),
        (4, ⟨103, by decide, by decide⟩), (5, ⟨306, by decide, by decide⟩),
        (6, ⟨907, by decide, by decide⟩), (2, .jumpTo 4)]⟩⟩ :=
  assemble_translates (by cbv)

end Cardiac.Assembly
