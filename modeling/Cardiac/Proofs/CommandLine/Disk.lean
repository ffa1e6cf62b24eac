import Cardiac.CommandLine.Disk

/-!
# Where paths lead

What a path leads to is settled by its names alone: the disk decides only whether it can be
followed. A write changes the file at that place and no other, and the file is read back as it
was written.
-/
namespace Cardiac.CommandLine

/-- Where a part of a path leads from a location. -/
def enter (location : Location) (part : String) : Location :=
  if part = "" ∨ part = "." then location
  else if part = ".." then location.dropLast
  else location ++ [part]

theorem enter_of_blank {part : String} (blank : part = "" ∨ part = ".") (location : Location) :
    enter location part = location := if_pos blank

theorem enter_parent (location : Location) : enter location ".." = location.dropLast := by
  simp [enter]

/-- A part that names a file or a folder, and neither the same place nor the one above. -/
def IsName (part : String) : Prop := part ≠ "" ∧ part ≠ "." ∧ part ≠ ".."

theorem enter_name {part : String} (name : IsName part) (location : Location) :
    enter location part = location ++ [part] := by
  obtain ⟨filled, other, below⟩ := name
  simp [enter, filled, other, below]

/-! ### Text in files -/

theorem fromUTF8?_toUTF8 (text : String) : String.fromUTF8? text.toUTF8 = some text :=
  dif_pos text.isValidUTF8

theorem eq_toUTF8_of_fromUTF8? {bytes : ByteArray} {text : String}
    (read : String.fromUTF8? bytes = some text) : bytes = text.toUTF8 := by
  unfold String.fromUTF8? at read
  split at read
  · cases read
    rfl
  · cases read

namespace Disk

/-- The place that a path names, whether or not it can be followed. -/
def location (disk : Disk) (path : String) : Location :=
  (Path.parts path).foldl enter (if Path.isAbsolute path then [] else disk.current)

/-- A target is the place itself, unless that is a folder. -/
def Target.IsAt (place : Location) : Target → Prop
  | .file location | .free location => location = place
  | .folder => True

theorem isAt_of_follow {disk : Disk} {access : Access} {location : Location} {parts : List String}
    {target : Target} (followed : disk.follow access location parts = .ok target) :
    target.IsAt (parts.foldl enter location) := by
  induction parts generalizing location with
  | nil =>
    simp only [follow, Except.ok.injEq] at followed
    subst followed
    split
    · trivial
    · rfl
  | cons part rest ih =>
    rw [List.foldl_cons]
    simp only [follow] at followed
    split at followed
    · cases followed
    split at followed
    next blank =>
      rw [enter_of_blank blank]
      exact ih followed
    next solid =>
    split at followed
    next parent =>
      rw [parent, enter_parent]
      exact ih followed
    next below =>
    have name : IsName part := ⟨fun same => solid (.inl same), fun same => solid (.inr same), below⟩
    rw [enter_name name]
    split at followed
    · cases followed
    split at followed
    · cases followed
    split at followed
    · exact ih followed
    split at followed
    next last =>
      subst last
      cases followed
      rfl
    · cases followed

theorem isAt_of_resolve {disk : Disk} {access : Access} {path : String} {target : Target}
    (resolved : disk.resolve access path = .ok target) : target.IsAt (disk.location path) := by
  unfold resolve at resolved
  split at resolved
  · cases resolved
  split at resolved
  · cases resolved
  exact isAt_of_follow resolved

/-! ### One file -/

theorem file?_put_self (disk : Disk) (location : Location) (text : String) :
    (disk.put location text).file? location = some text.toUTF8 :=
  List.lookup_cons_self

theorem lookup_filter_of_ne (files : List (Location × ByteArray)) {location other : Location}
    (different : other ≠ location) :
    (files.filter fun (file, _) => file ≠ location).lookup other = files.lookup other := by
  induction files with
  | nil => rfl
  | cons first rest ih =>
    obtain ⟨file, bytes⟩ := first
    by_cases same : file = location
    · -- the entry that is taken out is not the one that is looked for
      have apart : (other == file) = false := by simpa [same] using different
      rw [List.filter_cons_of_neg (by simpa using same), ih, List.lookup_cons, apart]
    · rw [List.filter_cons_of_pos (by simpa using same), List.lookup_cons, List.lookup_cons, ih]

theorem file?_put_of_ne (disk : Disk) {location other : Location} (different : other ≠ location)
    (text : String) : (disk.put location text).file? other = disk.file? other := by
  have apart : (other == location) = false := by simpa using different
  rw [file?, put, List.lookup_cons, apart]
  exact lookup_filter_of_ne disk.files different

theorem isSome_file?_put {disk : Disk} {other : Location} (present : (disk.file? other).isSome)
    (location : Location) (text : String) :
    ((disk.put location text).file? other).isSome := by
  by_cases same : other = location
  · rw [same, file?_put_self]
    rfl
  · rwa [file?_put_of_ne disk same]

/-! ### Folders -/

/-- A new file adds the folders above it and does not take away one. -/
theorem isFolder_put {disk : Disk} {folder : Location} (present : disk.isFolder folder = true)
    (location : Location) (text : String) : (disk.put location text).isFolder folder = true := by
  simp only [isFolder, put, Bool.or_eq_true, List.any_eq_true, List.any_cons] at present ⊢
  rcases present with top | ⟨⟨file, bytes⟩, member, below⟩
  · exact .inl top
  · right
    by_cases same : file = location
    · subst same
      exact .inl below
    · exact .inr ⟨(file, bytes), List.mem_filter.mpr ⟨member, by simpa using same⟩, below⟩

theorem isFolder_put_self (disk : Disk) (location : Location) (text : String) :
    (disk.put location text).isFolder location = disk.isFolder location := by
  -- a file is not below itself, so neither the new one nor one that is gone matters
  have others : (disk.files.filter fun (file, _) => file ≠ location).any
      (fun (file, _) => file ≠ location && location.isPrefixOf file) =
        disk.files.any fun (file, _) => file ≠ location && location.isPrefixOf file := by
    rw [List.any_filter]
    refine List.any_congr rfl fun (file, _) => ?_
    show (decide (file ≠ location) && (decide (file ≠ location) && location.isPrefixOf file)) = _
    rw [← Bool.and_assoc, Bool.and_self]
  simp only [isFolder, put, List.any_cons, ne_eq, not_true_eq_false, decide_false, Bool.false_and,
    Bool.false_or]
  exact congrArg _ others

/-! ### Writing and reading -/

theorem exists_of_write {disk written : Disk} {path text : String}
    (done : disk.write path text = .ok written) : written = disk.put (disk.location path) text ∧
      ∃ target, disk.resolve .writing path = .ok target ∧
        (target = .file (disk.location path) ∨ target = .free (disk.location path)) := by
  unfold write at done
  cases resolved : disk.resolve .writing path with
  | error error =>
    rw [resolved] at done
    cases done
  | ok target =>
    have place := isAt_of_resolve resolved
    rw [resolved] at done
    cases target with
    | folder => cases done
    | file location =>
      cases done
      cases place
      exact ⟨rfl, _, rfl, .inl rfl⟩
    | free location =>
      cases done
      cases place
      exact ⟨rfl, _, rfl, .inr rfl⟩

theorem exists_of_read {disk : Disk} {path text : String} (read : disk.read path = .ok text) :
    disk.file? (disk.location path) = some text.toUTF8 := by
  unfold Disk.read at read
  cases resolved : disk.resolve .reading path with
  | error error =>
    rw [resolved] at read
    cases read
  | ok target =>
    have place := isAt_of_resolve resolved
    rw [resolved] at read
    cases target with
    | folder => cases read
    | free location => cases read
    | file location =>
      simp only at read
      split at read
      next found decoded =>
        cases read
        obtain ⟨bytes, held, same⟩ := Option.bind_eq_some_iff.mp decoded
        rw [← place, held, eq_toUTF8_of_fromUTF8? same]
      · cases read

/-- With a file where a path has led for writing, the path leads there for reading. -/
theorem follow_put {disk : Disk} {location place : Location} {parts : List String}
    {target : Target} (followed : disk.follow .writing location parts = .ok target)
    (writable : target = .file place ∨ target = .free place) (text : String) :
    (disk.put place text).follow .reading location parts = .ok (.file place) := by
  induction parts generalizing location with
  | nil =>
    simp only [follow, Except.ok.injEq] at followed ⊢
    split at followed
    · subst followed
      rcases writable with file | free
      · cases file
      · cases free
    next plain =>
      subst followed
      rcases writable with file | free
      · cases file
        rw [isFolder_put_self, if_neg plain]
      · cases free
  | cons part rest ih =>
    simp only [follow] at followed ⊢
    split at followed
    · cases followed
    next folder =>
    -- every folder on the way is still one
    have still : (disk.put place text).isFolder location = true :=
      isFolder_put (by simpa using folder) place text
    rw [if_neg (by simp [still])]
    split at followed
    next blank =>
      rw [if_pos blank]
      exact ih followed
    next solid =>
    rw [if_neg solid]
    split at followed
    next parent =>
      rw [if_pos parent]
      exact ih followed
    next below =>
    rw [if_neg below]
    split at followed
    · cases followed
    rw [if_neg (by simp)]
    split at followed
    · cases followed
    next short =>
    rw [if_neg short]
    split at followed
    next present =>
      have stillPresent : ((disk.put place text).isFolder (location ++ [part]) ||
          ((disk.put place text).file? (location ++ [part])).isSome) = true := by
        rw [Bool.or_eq_true] at present ⊢
        exact present.imp (isFolder_put · place text) (isSome_file?_put · place text)
      rw [if_pos stillPresent]
      exact ih followed
    next missing =>
    split at followed
    next last =>
      -- here the file is made, and what was no folder has not become one
      cases followed
      obtain rfl : location ++ [part] = place := by
        rcases writable with file | free
        · cases file
        · cases free
          rfl
      have plain : disk.isFolder (location ++ [part]) = false := by
        simp only [Bool.or_eq_true, not_or] at missing
        simpa using missing.1
      subst last
      simp [file?_put_self, follow, isFolder_put_self, plain]
    · cases followed

/-- A written file is read back. -/
theorem read_of_write {disk written : Disk} {path text : String}
    (done : disk.write path text = .ok written) : written.read path = .ok text := by
  obtain ⟨rfl, target, resolved, writable⟩ := exists_of_write done
  have again : (disk.put (disk.location path) text).resolve .reading path =
      .ok (.file (disk.location path)) := by
    unfold resolve at resolved ⊢
    split at resolved
    · cases resolved
    next named =>
    split at resolved
    · cases resolved
    next short =>
    rw [if_neg named, if_neg short]
    exact follow_put resolved writable text
  rw [Disk.read, again]
  simp only [file?_put_self, Option.bind_some, fromUTF8?_toUTF8]

end Disk
end Cardiac.CommandLine
