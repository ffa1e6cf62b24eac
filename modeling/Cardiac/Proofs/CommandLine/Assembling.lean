import Cardiac.CommandLine.Commands
import Cardiac.Proofs.Assembly.Translation
import Cardiac.Proofs.Cards.Saved
import Cardiac.Proofs.CommandLine.Places

/-!
# What assembling does to its source

The assembler refuses to write an image to a path that is spelled like its source's. By default
that is enough: wherever the extension is put, it leads elsewhere or is spelled alike. A path that
is given can lead to the source in another spelling, and then the source is lost.
-/
namespace Cardiac.CommandLine

/-! ### Images are no sources -/

theorem length_fields_le_one {text : List Char} (dense : ∀ c ∈ text, Text.isBlank c = false) :
    (Text.fields text).length ≤ 1 := by
  cases text with
  | nil => exact Nat.zero_le 1
  | cons c rest =>
    have single : Text.fields (c :: rest ++ []) = [c :: rest] :=
      Text.fields_append (List.cons_ne_nil c rest) dense rfl
    rw [List.append_nil] at single
    rw [single]
    exact Nat.le_refl 1

theorem length_labelFirst_le (fields : List String) :
    (Assembly.labelFirst fields).length ≤ fields.length + 1 := by
  cases fields with
  | nil => exact Nat.zero_le 1
  | cons first rest =>
    rw [Assembly.labelFirst]
    split <;> simp only [List.length_take, List.length_cons] <;> omega

/-- A card makes a line with one word, and no statement is that short. -/
theorem assemble_text_ne_ok (image : CardImage) (program : AssembledProgram) :
    assemble image.text ≠ .ok program := by
  intro accepted
  obtain ⟨entries, words, start, related, assembled⟩ := Assembly.exists_assembled accepted
  have translation := assembled.translation related
  -- at most the empty label is added to a line's only word
  have short : ∀ fields ∈ Assembly.fieldLists image.text, fields.length ≤ 2 := by
    intro fields member
    rw [Assembly.fieldLists, CardImage.text,
      lines_textOfCards fun _ => CardImage.isBlank_of_mem_cards] at member
    obtain ⟨code, counted, rfl⟩ := List.mem_map.mp member
    obtain ⟨line, present, rfl⟩ := List.mem_map.mp (List.mem_of_mem_filter counted)
    obtain ⟨card, own, rfl⟩ := List.mem_map.mp present
    have dense : ∀ c ∈ Assembly.uncommented card.toList, Text.isBlank c = false :=
      fun c inside => CardImage.isBlank_of_mem_cards own c ((List.takeWhile_sublist _).mem inside)
    have one := length_fields_le_one dense
    refine (length_labelFirst_le _).trans ?_
    rw [List.length_map]
    omega
  have nonempty := translation.nonempty
  cases entries with
  | nil => exact absurd nonempty (by decide)
  | cons entry entries =>
    rw [translation.lines, List.map_cons, List.forall_mem_cons] at short
    have three : entry.fields.length = 3 := rfl
    omega

/-! ### The command -/

/-- What assembling a source to a path writes: the image of its program, and so it makes another
disk. -/
structure Writes (disk : Disk) (source path : String) (program : AssembledProgram)
    (written : Disk) : Prop where
  apart : Path.spelledAlike path source = false
  accepted : ∃ text, disk.read source = .ok text ∧ assemble text = .ok program
  written : disk.write path program.image.text = .ok written

/-- The ends that assembling comes to: it has written its image, or it has failed before. -/
inductive AssemblyEnd (disk : Disk) (source path : String) : Outcome → Prop
  | done {outcome : Outcome} {program : AssembledProgram} (code : outcome.code = some 0)
      (writes : Writes disk source path program outcome.disk) : AssemblyEnd disk source path outcome
  | failed {outcome : Outcome} (code : outcome.code = some 1) (kept : outcome.disk = disk)
      (nothing : ∀ program written, ¬Writes disk source path program written) :
      AssemblyEnd disk source path outcome

theorem Writes.assembles {disk written : Disk} {source path text : String}
    {program : AssembledProgram} (writes : Writes disk source path program written)
    (read : disk.read source = .ok text) : assemble text = .ok program := by
  obtain ⟨same, again, accepted⟩ := writes.accepted
  rw [read] at again
  cases again
  exact accepted

theorem assemblyEnd_runOn (disk : Disk) (source : String) (path : Option String)
    (output errors : String) :
    AssemblyEnd disk source (path.getD (Path.withExtension source "cdc"))
      ((Script.assembleTo source path).runOn disk output errors) := by
  simp only [Script.assembleTo]
  generalize path.getD (Path.withExtension source "cdc") = target
  -- the refusal, the reading, the source and the writing can fail, and each of them writes nothing
  split
  next alike =>
    refine .failed rfl rfl fun program written writes => ?_
    exact absurd alike (by simp [writes.apart])
  next apart =>
  rw [Bool.not_eq_true] at apart
  simp only [Script.printLine, Script.loadSource, Script.runOn]
  cases read : disk.read source with
  | error error =>
    refine .failed rfl rfl fun program written writes => ?_
    obtain ⟨text, other, -⟩ := writes.accepted
    rw [read] at other
    cases other
  | ok text =>
    cases assembled : assemble text with
    | error error =>
      simp only [assembled]
      refine .failed rfl rfl fun program written writes => ?_
      have accepted := writes.assembles read
      rw [assembled] at accepted
      cases accepted
    | ok program =>
      simp only [assembled, Script.runOn]
      cases written : disk.write target program.image.text with
      | error error =>
        refine .failed rfl rfl fun other disk writes => ?_
        have accepted := writes.assembles read
        rw [assembled] at accepted
        cases accepted
        have done := writes.written
        rw [written] at done
        cases done
      | ok disk => exact .done rfl ⟨apart, ⟨text, read, assembled⟩, written⟩

theorem assemblyEnd_ofArguments {commandOf : List String → Except Refusal Command}
    {arguments : List String} {source : String} {path : Option String}
    (asked : commandOf arguments = .ok (.assemble source path)) (patience : Nat) (disk : Disk) :
    AssemblyEnd disk source (path.getD (Path.withExtension source "cdc"))
      ((Script.ofArguments commandOf patience arguments).runOn disk "" "") := by
  simp only [Script.ofArguments, asked]
  exact assemblyEnd_runOn disk source path "" ""

/-- If there is something to write, it is written. -/
theorem AssemblyEnd.eq_written {disk written : Disk} {source path : String} {outcome : Outcome}
    {program : AssembledProgram} (ends : AssemblyEnd disk source path outcome)
    (writes : Writes disk source path program written) :
    outcome.code = some 0 ∧ outcome.disk = written := by
  cases ends with
  | failed _ _ nothing => exact absurd writes (nothing program written)
  | @done other code own =>
    obtain ⟨text, read, accepted⟩ := writes.accepted
    have assembled := own.assembles read
    rw [accepted] at assembled
    cases assembled
    exact ⟨code, Except.ok.inj (own.written.symm.trans writes.written)⟩

theorem Writes.file?_eq {disk written : Disk} {source path : String} {program : AssembledProgram}
    (writes : Writes disk source path program written) :
    written.file? (disk.location path) = some program.image.text.toUTF8 := by
  obtain ⟨rfl, -⟩ := Disk.exists_of_write writes.written
  exact disk.file?_put_self (disk.location path) _

/-- No other file is touched. -/
theorem Writes.file?_of_ne {disk written : Disk} {source path : String}
    {program : AssembledProgram} (writes : Writes disk source path program written)
    {location : Location} (other : location ≠ disk.location path) :
    written.file? location = disk.file? location := by
  obtain ⟨rfl, -⟩ := Disk.exists_of_write writes.written
  exact disk.file?_put_of_ne other _

/-- The image that replaces a source is another text. -/
theorem Writes.source_lost {disk written : Disk} {source path : String}
    {program : AssembledProgram} (writes : Writes disk source path program written)
    (same : disk.location path = disk.location source) :
    written.file? (disk.location source) ≠ disk.file? (disk.location source) := by
  obtain ⟨text, read, accepted⟩ := writes.accepted
  rw [← same, writes.file?_eq, same, Disk.exists_of_read read]
  -- a text that was read back is known by its bytes
  intro equal
  have texts := congrArg String.fromUTF8? (Option.some.inj equal)
  rw [fromUTF8?_toUTF8, fromUTF8?_toUTF8, Option.some.injEq] at texts
  exact assemble_text_ne_ok program.image program (texts ▸ accepted)

/-- However the arguments are read, assembling ends, changes at most the file that it writes, and
loses its source exactly if it is given another spelling of a path to it and nothing fails. -/
theorem source_lost_iff {commandOf : List String → Except Refusal Command}
    {arguments : List String} {source : String} {path : Option String}
    (asked : commandOf arguments = .ok (.assemble source path)) (patience : Nat) (disk : Disk) :
    let outcome := (Script.ofArguments commandOf patience arguments).runOn disk "" ""
    (outcome.code = some 0 ∨ outcome.code = some 1) ∧
      (∀ location, location ≠ disk.location (path.getD (Path.withExtension source "cdc")) →
        outcome.disk.file? location = disk.file? location) ∧
      (outcome.disk.file? (disk.location source) ≠ disk.file? (disk.location source) ↔
        ∃ target program written, path = some target ∧
          disk.location target = disk.location source ∧
          Writes disk source target program written) := by
  intro outcome
  have ends := assemblyEnd_ofArguments asked patience disk
  change AssemblyEnd disk source _ outcome at ends
  cases ends with
  | failed code kept nothing =>
    refine ⟨.inr code, fun _ _ => by rw [kept], ?_, ?_⟩
    · intro changed
      rw [kept] at changed
      exact absurd rfl changed
    · rintro ⟨target, program, written, rfl, -, writes⟩
      exact absurd writes (nothing program written)
  | @done program code writes =>
    refine ⟨.inl code, fun _ => writes.file?_of_ne, ?_, ?_⟩
    · intro changed
      have same : disk.location (path.getD (Path.withExtension source "cdc")) =
          disk.location source := by
        by_contra other
        exact changed (writes.file?_of_ne (Ne.symm other))
      cases path with
      | some target => exact ⟨target, program, outcome.disk, rfl, same, writes⟩
      | none =>
        -- the image's own path is refused if it leads to the source
        have apart := writes.apart
        rw [Option.getD_none] at apart same
        rw [spelledAlike_of_location same] at apart
        cases apart
    · rintro ⟨target, program, written, rfl, same, -⟩
      exact writes.source_lost same

/-- The image of a program that halts at once. -/
def haltImage : CardImage := (CardImage.parse "2\n800\n3\n900\n2\n803").toOption.getD .empty

/-- A disk with that program's source. -/
def sourceDisk : Disk := ⟨[(["work", "prog.asm"], "HRS 0".toUTF8)], [], ["work"]⟩

/-- Without a path the image goes beside the source, however that is reached. -/
theorem source_kept_beside_image :
    let outcome :=
      (Script.ofArguments Command.ofArguments 0 ["asm", "../work/./prog.asm"]).runOn sourceDisk "" ""
    Command.ofArguments ["asm", "../work/./prog.asm"] = .ok (.assemble "../work/./prog.asm" none) ∧
      outcome.disk = sourceDisk.put ["work", "prog.cdc"] haltImage.text ∧
      outcome.disk.file? ["work", "prog.asm"] = some "HRS 0".toUTF8 := by
  intro outcome
  have asked : Command.ofArguments ["asm", "../work/./prog.asm"] =
      .ok (.assemble "../work/./prog.asm" none) := by rfl
  have ends := assemblyEnd_ofArguments asked 0 sourceDisk
  have target : Path.withExtension "../work/./prog.asm" "cdc" = "../work/./prog.cdc" := by rfl
  rw [Option.getD_none, target] at ends
  have writes : Writes sourceDisk "../work/./prog.asm" "../work/./prog.cdc" ⟨[], 3, haltImage⟩
      (sourceDisk.put ["work", "prog.cdc"] haltImage.text) :=
    ⟨by rfl, ⟨"HRS 0", by rfl, by cbv⟩, by rfl⟩
  refine ⟨asked, (ends.eq_written writes).2, ?_⟩
  by_contra changed
  obtain ⟨path, program, written, given, -⟩ := (source_lost_iff asked 0 sourceDisk).2.2.mp changed
  cases given

/-- One dot more in the path of the image, and the source is gone. -/
theorem respelled_source_lost :
    let outcome := (Script.ofArguments Command.ofArguments 0
      ["asm", "prog.asm", "-o", "./prog.asm"]).runOn sourceDisk "" ""
    sourceDisk.location "prog.asm" = ["work", "prog.asm"] ∧
      sourceDisk.file? ["work", "prog.asm"] = some "HRS 0".toUTF8 ∧ outcome.code = some 0 ∧
      outcome.disk.file? ["work", "prog.asm"] = some haltImage.text.toUTF8 ∧
      haltImage.text.toUTF8 ≠ "HRS 0".toUTF8 := by
  intro outcome
  have asked : Command.ofArguments ["asm", "prog.asm", "-o", "./prog.asm"] =
      .ok (.assemble "prog.asm" (some "./prog.asm")) := by rfl
  have writes : Writes sourceDisk "prog.asm" "./prog.asm" ⟨[], 3, haltImage⟩
      (sourceDisk.put ["work", "prog.asm"] haltImage.text) :=
    ⟨by rfl, ⟨"HRS 0", by rfl, by cbv⟩, by rfl⟩
  obtain ⟨code, written⟩ := (assemblyEnd_ofArguments asked 0 sourceDisk).eq_written writes
  refine ⟨by rfl, by rfl, code, ?_, by decide +kernel⟩
  change outcome.disk = _ at written
  rw [written]
  exact sourceDisk.file?_put_self _ _

end Cardiac.CommandLine
