import Cardiac.CommandLine.Path
import Cardiac.Proofs.Text.Pieces

/-!
# Paths taken apart

A path is a folder, a name in it and what may trail the name, none of which leads anywhere else.
Giving the path an extension works on the name alone, whatever trails it.
-/
namespace Cardiac

namespace CommandLine.Path

/-! ### Folder, name and tail -/

/-- The front of a path that a name can follow: nothing, or what ends with a slash. -/
def Leads (folder : List Char) : Prop := Text.StopsAt '/' folder.reverse

/-- What may trail a name, last character first: slashes, each with a dot behind it or without. -/
inductive Trails : List Char → Prop
  | nil : Trails []
  | slash {tail : List Char} (trails : Trails tail) : Trails ('/' :: tail)
  | dot {tail : List Char} (trails : Trails tail) : Trails ('.' :: '/' :: tail)

theorem Trails.drop {tail : List Char} (trails : Trails tail) (count : Nat) :
    Trails (tail.drop count) := by
  induction count generalizing tail with
  | zero => exact trails
  | succ count ih =>
    cases trails with
    | nil => exact .nil
    | slash trails => exact ih trails
    | dot trails => exact ih (.slash trails)

theorem dropTail_append {tail : List Char} (trails : Trails tail) (reversed : List Char) :
    dropTail (tail ++ reversed) = dropTail reversed := by
  induction trails with
  | nil => rfl
  | slash _ ih => exact ih
  | dot _ ih => exact ih

theorem exists_trails (reversed : List Char) :
    ∃ tail, Trails tail ∧ reversed = tail ++ dropTail reversed := by
  -- a slash is dropped, a dot behind a slash is, and anything else ends the tail
  induction reversed using dropTail.induct with
  | case1 rest ih =>
    obtain ⟨tail, trails, split⟩ := ih
    exact ⟨'/' :: tail, .slash trails, congrArg ('/' :: ·) split⟩
  | case2 rest ih =>
    obtain ⟨tail, trails, split⟩ := ih
    exact ⟨'.' :: '/' :: tail, .dot trails, congrArg ('.' :: '/' :: ·) split⟩
  | case3 reversed slash dot =>
    refine ⟨[], .nil, ?_⟩
    rw [List.nil_append, dropTail]
    · exact slash
    · exact dot

/-- Nothing trails a path that ends in a name. -/
theorem dropTail_of_name {name : List Char} (plain : '/' ∉ name) (filled : name ≠ [])
    (solid : name ≠ ['.']) (folder : List Char) :
    dropTail (folder ++ name).reverse = (folder ++ name).reverse := by
  rw [List.reverse_append]
  -- the name's last two characters decide
  cases backwards : name.reverse with
  | nil => exact absurd (List.reverse_eq_nil_iff.mp backwards) filled
  | cons last more =>
    rw [← List.mem_reverse, backwards, List.mem_cons, not_or] at plain
    rw [List.cons_append, dropTail]
    · intro rest slash
      exact plain.1 (List.cons.inj slash).1.symm
    · intro rest both
      obtain ⟨rfl, slash⟩ := List.cons.inj both
      cases more with
      | nil => exact solid (List.reverse_eq_iff.mp backwards)
      | cons before more =>
        rw [List.cons_append, List.cons.injEq] at slash
        exact plain.2 (slash.1 ▸ List.mem_cons_self)

/-- The path has the name in the folder, with something that may trail it. -/
structure Named (path folder name tail : List Char) : Prop where
  split : path = folder ++ name ++ tail.reverse
  leads : Leads folder
  plain : '/' ∉ name
  solid : ¬(name = [] ∨ name = ['.'] ∨ name = ['.', '.'])
  trails : Trails tail

/-- A stem, a dot and what follows are a name, except for the two dots of the parent folder. -/
theorem named_of_dot {folder stem rest : List Char} (leads : Leads folder) (filled : stem ≠ [])
    (plain : '/' ∉ stem ++ '.' :: rest) (below : stem ++ '.' :: rest ≠ ['.', '.']) :
    Named (folder ++ (stem ++ '.' :: rest)) folder (stem ++ '.' :: rest) [] where
  split := (List.append_nil _).symm
  leads := leads
  plain := plain
  solid := by
    have front := List.length_pos_iff.mpr filled
    rintro (empty | here | above)
    · simp at empty
    · -- there is something in front of the dot
      have length := congrArg List.length here
      simp only [List.length_append, List.length_cons, List.length_nil] at length
      omega
    · exact below above
  trails := .nil

theorem Named.filled {path folder name tail : List Char} (named : Named path folder name tail) :
    folder ++ name ≠ [] := by
  intro empty
  exact named.solid (.inl (List.append_eq_nil_iff.mp empty).2)

/-- What is cut off a path that ends in a name. -/
theorem cut_of_leads {name folder : List Char} (plain : '/' ∉ name) (leads : Leads folder) :
    (folder ++ name).reverse.takeWhile (· ≠ '/') = name.reverse ∧
      (folder ++ name).reverse.dropWhile (· ≠ '/') = folder.reverse := by
  rw [List.reverse_append]
  exact Text.cut_append (by simpa using plain) leads

theorem fileName?_eq_some_iff {path folder name : List Char} :
    fileName? path = some (folder, name) ↔ ∃ tail, Named path folder name tail := by
  constructor
  · intro found
    obtain ⟨tail, trails, split⟩ := exists_trails path.reverse
    obtain ⟨whole, plain, leads⟩ := Text.cut '/' (dropTail path.reverse)
    simp only [fileName?] at found
    split at found
    · cases found
    next solid =>
    -- up to its last slash the rest is the folder, and behind it the name
    cases found
    refine ⟨tail, ?_, ?_, by simpa using plain, solid, trails⟩
    · rw [← List.reverse_append, ← whole, ← List.reverse_append, ← split, List.reverse_reverse]
    · rwa [Leads, List.reverse_reverse]
  · rintro ⟨tail, split, leads, plain, solid, trails⟩
    have kept : dropTail path.reverse = (folder ++ name).reverse := by
      rw [split, List.reverse_append, List.reverse_reverse, dropTail_append trails]
      exact dropTail_of_name plain (fun empty => solid (.inl empty))
        (fun here => solid (.inr (.inl here))) folder
    obtain ⟨front, back⟩ := cut_of_leads plain leads
    rw [fileName?, kept]
    simp only [front, back, List.reverse_reverse, if_neg solid]

theorem fileName?_parent {folder : List Char} (leads : Leads folder) :
    fileName? (folder ++ ['.', '.']) = none := by
  have plain : '/' ∉ ['.', '.'] := by decide
  obtain ⟨front, -⟩ := cut_of_leads plain leads
  rw [fileName?, dropTail_of_name plain (by decide) (by decide)]
  simp only [front, List.reverse_reverse, if_true, or_true]

/-! ### Extensions -/

theorem splitName_of_dot {stem extension : List Char} (solid : stem ≠ [])
    (plain : '.' ∉ extension) :
    splitName (stem ++ '.' :: extension) = (stem, some extension) := by
  have reversed : (stem ++ '.' :: extension).reverse =
      extension.reverse ++ '.' :: stem.reverse := by simp
  have whole : '.' ∉ extension.reverse := by simpa using plain
  obtain ⟨front, back⟩ := Text.cut_append whole (.inr ⟨stem.reverse, rfl⟩)
  rw [splitName, reversed, front, back]
  cases backwards : stem.reverse with
  | nil => exact absurd (List.reverse_eq_nil_iff.mp backwards) solid
  | cons last more =>
    show ((last :: more).reverse, some extension.reverse.reverse) = _
    rw [← backwards, List.reverse_reverse, List.reverse_reverse]

/-- A name has an extension behind its last dot, unless that is its first character. -/
theorem splitName_cases (name : List Char) :
    (∃ stem extension, stem ≠ [] ∧ '.' ∉ extension ∧ name = stem ++ '.' :: extension) ∨
      splitName name = (name, none) := by
  obtain ⟨whole, plain, stops⟩ := Text.cut '.' name.reverse
  rw [splitName]
  rcases stops with none | ⟨stem, dot⟩
  · rw [none]
    exact .inr rfl
  · rw [dot] at whole ⊢
    cases stem with
    | nil =>
      -- the only dot is the first character
      exact .inr rfl
    | cons last more =>
      refine .inl ⟨(last :: more).reverse, (name.reverse.takeWhile (· ≠ '.')).reverse, by simp,
        by simpa using plain, ?_⟩
      simpa using congrArg List.reverse whole

/-- The path without as many characters as its name's extension has. -/
def shortened (path : List Char) : List Char :=
  let old := ((fileName? path).bind fun (_, name) => (splitName name).2).getD []
  path.take (path.length - old.length)

theorem withExtension_of_none {path : String} (unnamed : fileName? (shortened path.toList) = none)
    (extension : String) : withExtension path extension = String.ofList (shortened path.toList) := by
  rw [shortened] at unnamed
  simp only [withExtension, shortened, unnamed]

theorem withExtension_of_some {path : String} {folder name : List Char}
    (found : fileName? (shortened path.toList) = some (folder, name)) (extension : String) :
    withExtension path extension =
      String.ofList (folder ++ ((splitName name).1 ++ '.' :: extension.toList)) := by
  rw [shortened] at found
  apply String.toList_injective
  simp [withExtension, found]

theorem shortened_of_splitName {path folder name tail stem : List Char} {old : Option (List Char)}
    (named : Named path folder name tail) (parts : splitName name = (stem, old)) :
    shortened path = path.take (path.length - (old.getD []).length) := by
  simp only [shortened, fileName?_eq_some_iff.mpr ⟨tail, named⟩, Option.bind_some, parts]

/-- The characters are taken from what trails the name, from the extension or from both. -/
theorem shortened_of_dot {path folder stem extension tail : List Char}
    (named : Named path folder (stem ++ '.' :: extension) tail) (filled : stem ≠ [])
    (last : '.' ∉ extension) :
    shortened path = folder ++ (stem ++ '.' :: (extension ++ tail.reverse).take tail.length) := by
  have split : path = (folder ++ stem ++ ['.']) ++ (extension ++ tail.reverse) := by
    rw [named.split]
    simp
  -- up to the dot nothing is taken, and behind it as much is left as trailed the name
  have count : path.length - extension.length = (folder ++ stem ++ ['.']).length + tail.length := by
    simp only [split, List.length_append, List.length_reverse]
    omega
  rw [shortened_of_splitName named (splitName_of_dot filled last), Option.getD_some, count, split,
    List.take_length_add_append]
  simp

/-- The name keeps its stem, unless what is left is a path to the parent folder. -/
theorem named_shortened {path folder name tail : List Char} (named : Named path folder name tail) :
    shortened path = folder ++ ['.', '.'] ∨ ∃ shorter rest, Named (shortened path) folder shorter rest ∧
      (splitName shorter).1 = (splitName name).1 := by
  rcases splitName_cases name with ⟨stem, extension, filled, last, rfl⟩ | plain
  · have short := splitName_of_dot filled last
    rw [shortened_of_dot named filled last]
    obtain ⟨-, leads, plain, solid, trails⟩ := named
    rcases Nat.lt_or_ge tail.length extension.length with within | beyond
    · -- some of the extension is left, or just the dot
      rw [List.take_append_of_le_length within.le]
      have dotless : '.' ∉ extension.take tail.length := fun dot => last (List.mem_of_mem_take dot)
      by_cases parent : stem ++ '.' :: extension.take tail.length = ['.', '.']
      · exact .inl (by rw [parent])
      · have kept : '/' ∉ stem ++ '.' :: extension.take tail.length := by
          simp only [List.mem_append, List.mem_cons, not_or] at plain ⊢
          exact ⟨plain.1, plain.2.1, fun slash => plain.2.2 (List.mem_of_mem_take slash)⟩
        refine .inr ⟨_, [], named_of_dot leads filled kept parent, ?_⟩
        rw [splitName_of_dot filled dotless, short]
    · -- the extension is left whole, and what trails it is cut
      have shorter : (extension ++ tail.reverse).take tail.length =
          extension ++ (tail.drop extension.length).reverse := by
        rw [List.take_append, List.take_of_length_le beyond, List.take_reverse,
          Nat.sub_sub_self beyond]
      rw [shorter]
      refine .inr ⟨stem ++ '.' :: extension, tail.drop extension.length,
        ⟨?_, leads, plain, solid, trails.drop _⟩, rfl⟩
      simp
  · have whole : shortened path = path := by
      rw [shortened_of_splitName named plain]
      exact List.take_length
    rw [whole]
    exact .inr ⟨name, tail, named, rfl⟩

/-- The stem of a name is not empty, and has no slash if the name has none. -/
theorem stem_of_name {name : List Char} (filled : name ≠ []) (plain : '/' ∉ name) :
    (splitName name).1 ≠ [] ∧ '/' ∉ (splitName name).1 := by
  rcases splitName_cases name with ⟨stem, extension, front, last, rfl⟩ | whole
  · rw [splitName_of_dot front last]
    exact ⟨front, fun slash => plain (List.mem_append_left _ slash)⟩
  · rw [whole]
    exact ⟨filled, plain⟩

/-- A path with a new extension has its name's stem in front of it and nothing behind it. Only a
name of two dots and more can become the parent folder, without an extension. -/
theorem withExtension_of_named {path : String} {folder name tail : List Char}
    (named : Named path.toList folder name tail) (extension : String) :
    withExtension path extension =
        String.ofList (folder ++ ((splitName name).1 ++ '.' :: extension.toList)) ∨
      withExtension path extension = String.ofList (folder ++ ['.', '.']) := by
  rcases named_shortened named with parent | ⟨shorter, rest, left, stem⟩
  · right
    rw [withExtension_of_none (by rw [parent, fileName?_parent named.leads]), parent]
  · left
    rw [withExtension_of_some (fileName?_eq_some_iff.mpr ⟨rest, left⟩), stem]

/-- A stem with an extension is a name again. -/
theorem named_extended {path folder name tail : List Char} (named : Named path folder name tail)
    (extension : List Char) (filled : extension ≠ []) (plain : '/' ∉ extension) :
    let longer := (splitName name).1 ++ '.' :: extension
    Named (folder ++ longer) folder longer [] := by
  intro longer
  obtain ⟨front, whole⟩ := stem_of_name (fun empty => named.solid (.inl empty)) named.plain
  refine named_of_dot named.leads front ?_ ?_
  · simp only [List.mem_append, List.mem_cons, not_or]
    exact ⟨whole, by decide, plain⟩
  · -- a name of two dots has no room for the extension
    intro same
    have length := congrArg List.length same
    have before := List.length_pos_iff.mpr front
    have behind := List.length_pos_iff.mpr filled
    simp only [List.length_append, List.length_cons, List.length_nil] at length
    omega

/-- A path without a name gets no extension. -/
theorem withExtension_of_unnamed {path : String} (unnamed : fileName? path.toList = none)
    (extension : String) : withExtension path extension = path := by
  have whole : shortened path.toList = path.toList := by
    rw [shortened, unnamed]
    exact List.take_length
  rw [withExtension_of_none (by rw [whole, unnamed]), whole, String.ofList_toList]

/-! ### Components -/

theorem parts_ofList (chars : List Char) :
    parts (String.ofList chars) = (Text.pieces '/' chars).map String.ofList := by
  rw [parts, Text.piecesOf, String.toList_ofList]

/-- What trails a path only adds parts that lead nowhere. -/
theorem exists_parts_of_trails {tail : List Char} (trails : Trails tail) (body : List Char) :
    ∃ blanks, (∀ part ∈ blanks, part = "" ∨ part = ".") ∧
      parts (String.ofList (body ++ tail.reverse)) = parts (String.ofList body) ++ blanks := by
  induction trails with
  | nil => exact ⟨[], by simp, by simp⟩
  | @slash tail _ ih =>
    obtain ⟨blanks, blank, split⟩ := ih
    refine ⟨blanks ++ [""], ?_, ?_⟩
    · rw [List.forall_mem_append, List.forall_mem_singleton]
      exact ⟨blank, .inl rfl⟩
    · rw [parts_ofList, List.reverse_cons, ← List.append_assoc, Text.pieces_append, List.map_append,
        ← parts_ofList, split, List.append_assoc]
      rfl
  | @dot tail _ ih =>
    obtain ⟨blanks, blank, split⟩ := ih
    refine ⟨blanks ++ ["."], ?_, ?_⟩
    · rw [List.forall_mem_append, List.forall_mem_singleton]
      exact ⟨blank, .inr rfl⟩
    · have reversed : body ++ ('.' :: '/' :: tail).reverse =
          (body ++ tail.reverse) ++ '/' :: ['.'] := by simp
      rw [parts_ofList, reversed, Text.pieces_append, List.map_append, ← parts_ofList, split,
        List.append_assoc]
      rfl

theorem isAbsolute_append {front : List Char} (filled : front ≠ []) (back : List Char) :
    isAbsolute (String.ofList (front ++ back)) = isAbsolute (String.ofList front) := by
  simp only [isAbsolute, String.toList_ofList, List.head?_append_of_ne_nil front filled]

theorem components_of_trails {body tail : List Char} (filled : body ≠ []) (trails : Trails tail) :
    components (String.ofList (body ++ tail.reverse)) = components (String.ofList body) := by
  obtain ⟨blanks, blank, split⟩ := exists_parts_of_trails trails body
  have none : blanks.filter (fun part => part ≠ "" ∧ part ≠ ".") = [] := by
    rw [List.filter_eq_nil_iff]
    intro part member
    rcases blank part member with rfl | rfl <;> decide
  have first : parts (String.ofList body) ≠ [] := by
    rw [parts_ofList, Ne, List.map_eq_nil_iff]
    exact Text.pieces_ne_nil '/' body
  simp only [components, split, List.filter_append, none, List.append_nil,
    isAbsolute_append filled, List.head?_append_of_ne_nil _ first]

end CommandLine.Path
end Cardiac
