import Cardiac.Proofs.CommandLine.Disk
import Cardiac.Proofs.CommandLine.Path

/-!
# Where composed paths lead

What a path names is found from its parts: the folder in front, the name in it, and nothing from
what trails the name. So a new extension leads to a file of its own, unless the name has it already.
-/
namespace Cardiac.CommandLine

open Cardiac.CommandLine.Path (Leads Trails Named)

namespace Disk

/-! ### Places of composed paths -/

theorem foldl_enter_of_blank {blanks : List String} (blank : ∀ part ∈ blanks, part = "" ∨ part = ".")
    (location : Location) : blanks.foldl enter location = location := by
  induction blanks with
  | nil => rfl
  | cons part rest ih =>
    rw [List.forall_mem_cons] at blank
    rw [List.foldl_cons, enter_of_blank blank.1, ih blank.2]

theorem location_of_trails (disk : Disk) {body tail : List Char} (filled : body ≠ [])
    (trails : Trails tail) : disk.location (String.ofList (body ++ tail.reverse)) =
      disk.location (String.ofList body) := by
  obtain ⟨blanks, blank, split⟩ := Path.exists_parts_of_trails trails body
  rw [location, location, Path.isAbsolute_append filled, split, List.foldl_append,
    foldl_enter_of_blank blank]

theorem location_append (disk : Disk) {folder part : List Char} (leads : Leads folder)
    (plain : '/' ∉ part) : disk.location (String.ofList (folder ++ part)) =
      enter (disk.location (String.ofList folder)) (String.ofList part) := by
  have single := Text.pieces_of_notMem plain
  rcases leads with empty | ⟨rest, slash⟩
  · -- a part on its own does not begin at the top
    obtain rfl := List.reverse_eq_nil_iff.mp empty
    have relative : Path.isAbsolute (String.ofList part) = false := by
      cases part with
      | nil => rfl
      | cons c part =>
        rw [List.mem_cons, not_or] at plain
        simpa [Path.isAbsolute] using Ne.symm plain.1
    rw [List.nil_append, location, relative, Path.parts_ofList, single]
    rfl
  · obtain rfl : folder = rest.reverse ++ ['/'] := by simpa using congrArg List.reverse slash
    have absolute : Path.isAbsolute (String.ofList (rest.reverse ++ ['/'] ++ part)) =
        Path.isAbsolute (String.ofList (rest.reverse ++ ['/'])) :=
      Path.isAbsolute_append (by simp) part
    -- the slash ends the folder's parts, whatever comes behind it
    have parts (last : List Char) (whole : '/' ∉ last) :
        Path.parts (String.ofList (rest.reverse ++ ['/'] ++ last)) =
          Path.parts (String.ofList rest.reverse) ++ [String.ofList last] := by
      rw [Path.parts_ofList, List.append_assoc, List.singleton_append, Text.pieces_append,
        Text.pieces_of_notMem whole, List.map_append, ← Path.parts_ofList]
      rfl
    have folders := parts [] (List.not_mem_nil)
    rw [List.append_nil] at folders
    rw [location, location, absolute, parts part plain, folders, List.foldl_append,
      List.foldl_append]
    rfl

theorem isName_ofList {name : List Char} (solid : ¬(name = [] ∨ name = ['.'] ∨ name = ['.', '.'])) :
    IsName (String.ofList name) := by
  have chars {part : String} (same : String.ofList name = part) : name = part.toList := by
    rw [← same, String.toList_ofList]
  simp only [not_or] at solid
  exact ⟨fun same => solid.1 (chars same), fun same => solid.2.1 (chars same),
    fun same => solid.2.2 (chars same)⟩

theorem location_of_named (disk : Disk) {path folder name tail : List Char}
    (named : Named path folder name tail) : disk.location (String.ofList path) =
      disk.location (String.ofList folder) ++ [String.ofList name] := by
  rw [named.split, disk.location_of_trails named.filled named.trails,
    disk.location_append named.leads named.plain, enter_name (isName_ofList named.solid)]

end Disk

/-- A path with the image's extension that leads to the source is spelled like the source's. -/
theorem spelledAlike_of_location {disk : Disk} {source : String}
    (same : disk.location (Path.withExtension source "cdc") = disk.location source) :
    Path.spelledAlike (Path.withExtension source "cdc") source = true := by
  cases found : Path.fileName? source.toList with
  | none =>
    rw [Path.withExtension_of_unnamed found]
    exact decide_eq_true rfl
  | some parts =>
    obtain ⟨folder, name⟩ := parts
    obtain ⟨tail, named⟩ := Path.fileName?_eq_some_iff.mp found
    have place := disk.location_of_named named
    rw [String.ofList_toList] at place
    rcases Path.withExtension_of_named named "cdc" with extended | parent
    · have longer := Path.named_extended named "cdc".toList (by decide) (by decide)
      rw [extended, disk.location_of_named longer, place] at same
      -- in one folder only equal names lead to the same file
      have names := String.ofList_injective (List.singleton_inj.mp (List.append_cancel_left same))
      have whole : source = String.ofList (folder ++ name ++ tail.reverse) := by
        rw [← named.split, String.ofList_toList]
      rw [extended, names, Path.spelledAlike, decide_eq_true_eq, whole,
        Path.components_of_trails named.filled named.trails]
    · -- the parent of a folder is not a file in it
      have length := congrArg List.length same
      rw [parent, place, disk.location_append named.leads (by decide), enter_parent] at length
      simp at length

end Cardiac.CommandLine
