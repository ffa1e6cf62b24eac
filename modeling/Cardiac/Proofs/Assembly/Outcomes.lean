import Mathlib.Data.List.Forall2
import Cardiac.Proofs.Assembly.Image

/-!
# What becomes of entries

A source whose statements are entries without a repeated label can end in three ways. It is too
large at its ninety-eighth entry; it has no entry point if all of them are data; and otherwise
it is assembled, provided that every entry has a word.
-/
namespace Cardiac.Assembly

variable {source : String} {entries : List Entry}

/-- A statement that is refused behind entries that are laid out is reported, whatever comes behind
it. -/
theorem assemble_of_refused {front : List Entry} {before after : List Statement}
    {statement : Statement} {error : AssemblyError}
    (cut : statements source = before ++ statement :: after)
    (related : List.Forall₂ Entry.Of before front) (fits : Fits front)
    (refused : ((Layout.ofEntries front).add statement).1 = .error error) :
    assemble source = .error error := by
  have laidOut := (Layout.ofStatements_eq_ok_iff ..).mpr ⟨front, related, fits, rfl⟩
  rcases step : (Layout.ofEntries front).add statement with ⟨outcome, left⟩
  rw [step] at refused
  cases refused
  have first : Layout.ofStatements (statements source) = (.error error, left) := by
    rw [cut, Layout.ofStatements, Layout.addAll_append laidOut, Layout.addAll_of_error step]
  simp only [assemble, ofStatements, first]

/-- The first entry without an address is reported, whatever comes behind it. -/
theorem assemble_of_full {front back : List Entry} {entry : Entry}
    (related : List.Forall₂ Entry.Of (statements source) (front ++ entry :: back))
    (fits : Fits front) (full : front.length = 97) :
    assemble source = .error (.programTooLarge entry.line) := by
  -- the statements up to the refused one are laid out, and the next finds no address left
  have early := List.forall₂_take_append _ _ _ related
  have late := List.forall₂_drop_append _ _ _ related
  obtain ⟨statement, rest, of, -, dropped⟩ := List.forall₂_cons_right_iff.mp late
  have cut : statements source = (statements source).take front.length ++ statement :: rest := by
    rw [← dropped, List.take_append_drop]
  refine assemble_of_refused cut early fits ?_
  rw [Layout.add_of_entry of, Layout.place_ofEntries, if_pos (Nat.le_of_eq full.symm)]

/-- A source of data alone has nowhere to start. -/
theorem assemble_of_data
    (related : List.Forall₂ Entry.Of (statements source) entries)
    (fits : Fits entries) (data : ∀ entry ∈ entries, entry.operation = .data) :
    assemble source = .error .noEntryPoint := by
  have laidOut := (Layout.ofStatements_eq_ok_iff ..).mpr ⟨entries, related, fits, rfl⟩
  have startless : (Layout.ofEntries entries).start = none := by
    have none : entries.findIdx? (·.operation ≠ .data) = none := by
      rw [List.findIdx?_eq_none_iff]
      intro entry member
      simp [data entry member]
    rw [Layout.ofEntries, none, Option.map_none]
  simp only [assemble_of_laidOut laidOut, Layout.program, startless]

/-- Placements with two-digit addresses are added to an image if they have words. -/
theorem foldlM_addPlacement_of_words {symbols : List (String × Nat)} (image : CardImage)
    {placements : List Placement} {words : List Word}
    (encoded : List.Forall₂ (fun placement word => placement.word symbols = .ok word)
      placements words)
    (short : ∀ placement ∈ placements, placement.address < 100) :
    ∃ body, placements.foldlM (addPlacement symbols) image = .ok ⟨image.pairs ++ body⟩ ∧
      CardImage.plain body = (placements.map Placement.address).zip words := by
  -- the image grows by one pair with every placement
  induction encoded generalizing image with
  | nil => exact ⟨[], by rw [List.append_nil]; rfl, rfl⟩
  | @cons placement word placements words returned _ ih =>
    rw [List.forall_mem_cons] at short
    have added : addPlacement symbols image placement =
        .ok ⟨image.pairs ++ [(⟨placement.address, short.1⟩, word)]⟩ := by
      simp only [addPlacement, returned, bind, Except.bind, addPair, CardImage.push,
        dif_pos short.1, Except.mapError]
    obtain ⟨body, folded, places⟩ :=
      ih ⟨image.pairs ++ [(⟨placement.address, short.1⟩, word)]⟩ short.2
    rw [List.append_assoc, List.singleton_append] at folded
    refine ⟨(⟨placement.address, short.1⟩, word) :: body, ?_, ?_⟩
    · rw [List.foldlM_cons, added]
      exact folded
    · rw [List.map_cons, List.zip_cons_cons, ← places]
      rfl

/-- The second pass gives the entry this word, whichever address it has. -/
def Entry.Yields (symbols : List (String × Nat)) (entry : Entry) (word : Word) : Prop :=
  ∀ address, Placement.word symbols ⟨address, entry.operation, entry.operand, entry.line⟩ = .ok word

theorem placed_of_yields {symbols : List (String × Nat)} {words : List Word}
    (encoded : List.Forall₂ (fun entry word => entry.Yields symbols word) entries words) :
    List.Forall₂ (fun placement word => placement.word symbols = .ok word)
      (Layout.ofEntries entries).placements words := by
  -- the placements are the numbered entries, and these numbers do not matter to their words
  have numbered : List.Forall₂ (fun entry word => entry.Yields symbols word)
      ((entries.zipIdx firstAddress).map Prod.fst) words := by
    rwa [List.zipIdx_map_fst]
  exact List.forall₂_map_left_iff.mpr <|
    (List.forall₂_map_left_iff.mp numbered).imp fun pair _ yields => yields pair.2

theorem short_of_mem_placements (bounded : entries.length ≤ 97) :
    ∀ placement ∈ (Layout.ofEntries entries).placements, placement.address < 100 := by
  simp only [Layout.ofEntries, List.forall_mem_map]
  rintro ⟨entry, address⟩ numbered
  have inside := List.snd_lt_of_mem_zipIdx numbered
  simp only [firstAddress] at inside ⊢
  omega

theorem image_of_words {words : List Word} (bounded : entries.length ≤ 97)
    (encoded : List.Forall₂ (fun entry word => entry.Yields (definitions entries) word)
      entries words) (start : Fin 100) :
    ∃ body, (Layout.ofEntries entries).image start = .ok (.framed body start) ∧
      CardImage.plain body = (words.zipIdx firstAddress).map Prod.swap := by
  obtain ⟨body, folded, places⟩ :=
    foldlM_addPlacement_of_words ⟨[(CardImage.startCell, .jumpTo 0)]⟩ (placed_of_yields encoded)
      (short_of_mem_placements bounded)
  refine ⟨body, ?_, places.trans (zip_addresses encoded.length_eq)⟩
  rw [Layout.image, addJump_of_lt _ (by decide)]
  exact (congrArg (· >>= (addJump · start)) folded).trans (addJump_of_lt _ start.isLt)

/-- Entries that have words are assembled if one of them is an instruction. -/
theorem assemble_of_words {words : List Word} {i : Nat}
    (related : List.Forall₂ Entry.Of (statements source) entries)
    (fits : Fits entries) (first : entries.findIdx? (·.operation ≠ .data) = some i)
    (encoded : List.Forall₂ (fun entry word => entry.Yields (definitions entries) word)
      entries words) :
    ∃ start program, assemble source = .ok program ∧ Assembled entries words start program := by
  have laidOut := (Layout.ofStatements_eq_ok_iff ..).mpr ⟨entries, related, fits, rfl⟩
  have inside : i < entries.length := (List.findIdx?_eq_some_iff_findIdx_eq.mp first).1
  have bounded := fits.bounded
  have short : firstAddress + i < 100 := by
    simp only [firstAddress]
    omega
  have found : (Layout.ofEntries entries).start = some (firstAddress + i) := by
    rw [Layout.ofEntries, first, Option.map_some]
  obtain ⟨body, image, places⟩ := image_of_words bounded encoded ⟨firstAddress + i, short⟩
  let symbols := (definitions entries).mergeSort fun first second => first.1 ≤ second.1
  refine ⟨⟨firstAddress + i, short⟩, ⟨symbols, firstAddress + i, .framed body _⟩, ?_,
    { fits
      encoded := encoded.imp fun _ _ yields => encodedAs_of_word (yields 0)
      first := found
      starts := rfl
      symbols := List.mergeSort_perm ..
      image := ⟨body, rfl, places⟩ }⟩
  simp only [assemble_of_laidOut laidOut, Layout.program, found, image, bind, Except.bind]
  rfl

/-- The second pass refuses the entry, whichever address it has. -/
def Entry.Fails (symbols : List (String × Nat)) (entry : Entry) (error : AssemblyError) : Prop :=
  ∀ address, Placement.word symbols ⟨address, entry.operation, entry.operand, entry.line⟩ =
    .error error

/-- An entry without a word is reported if all entries before it have words. -/
theorem assemble_of_fails {front back : List Entry} {entry : Entry} {words : List Word} {i : Nat}
    {error : AssemblyError}
    (related : List.Forall₂ Entry.Of (statements source) (front ++ entry :: back))
    (fits : Fits (front ++ entry :: back))
    (first : (front ++ entry :: back).findIdx? (·.operation ≠ .data) = some i)
    (encoded : List.Forall₂
      (fun earlier word => earlier.Yields (definitions (front ++ entry :: back)) word) front words)
    (fails : entry.Fails (definitions (front ++ entry :: back)) error) :
    assemble source = .error error := by
  have laidOut := (Layout.ofStatements_eq_ok_iff ..).mpr ⟨_, related, fits, rfl⟩
  have bounded := fits.bounded
  have inside : front.length < (front ++ entry :: back).length := by simp
  generalize symbols_eq : definitions (front ++ entry :: back) = symbols at encoded fails
  -- the placements before the entry's are those of the front
  have placements : (Layout.ofEntries (front ++ entry :: back)).placements =
      (Layout.ofEntries front).placements ++
        ⟨firstAddress + front.length, entry.operation, entry.operand, entry.line⟩ ::
          (back.zipIdx (firstAddress + front.length + 1)).map fun pair =>
            ⟨pair.2, pair.1.operation, pair.1.operand, pair.1.line⟩ := by
    simp [Layout.ofEntries, List.zipIdx_append, List.zipIdx_cons]
  obtain ⟨body, folded, -⟩ := foldlM_addPlacement_of_words ⟨[(CardImage.startCell, .jumpTo 0)]⟩
    (placed_of_yields encoded) (short_of_mem_placements (by omega))
  have refused : (Layout.ofEntries (front ++ entry :: back)).image (firstAddress + i) =
      .error error := by
    have same : (Layout.ofEntries (front ++ entry :: back)).symbols = symbols := symbols_eq
    rw [Layout.image, addJump_of_lt _ (by decide), ok_bind, same, placements, List.foldlM_append]
    refine congrArg (· >>= (addJump · _)) (?_ : _ = Except.error error)
    refine (congrArg (· >>= _) folded).trans ?_
    simp only [List.foldlM_cons, addPlacement, fails _, bind, Except.bind]
  have found : (Layout.ofEntries (front ++ entry :: back)).start = some (firstAddress + i) := by
    rw [Layout.ofEntries, first, Option.map_some]
  simp only [assemble_of_laidOut laidOut, Layout.program, found, refused, bind, Except.bind]

end Cardiac.Assembly
