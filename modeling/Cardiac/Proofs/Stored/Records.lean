import Mathlib.Data.List.Forall2
import Cardiac.Proofs.Except
import Cardiac.Stored.Record

/-!
# Records read back

A record reads back what was written for it: one member for each field, in order, of which the
field's decoder gives the value that was written. What is written for a record is put together
just as the record is. Of the reader itself only two laws are used, and the given one obeys them.
-/
namespace Cardiac.Stored

section Values

variable {α : Type}

theorem integer_of_between {least greatest value : Int} (lower : least ≤ value)
    (upper : value ≤ greatest) : integer least greatest (.integer value) = .ok value :=
  if_pos ⟨lower, upper⟩

theorem natural_of_lt {bits value : Nat} (fits : value < Nat.pow 2 bits) :
    natural bits (.ofNat value) = .ok value := by
  have upper : (value : Int) ≤ Int.pow 2 bits - 1 := by
    have cast : (value : Int) < Nat.pow 2 bits := Int.ofNat_lt.mpr fits
    have power : (Nat.pow 2 bits : Int) = Int.pow 2 bits := Int.natCast_pow 2 bits
    omega
  simp only [natural, Json.ofNat, integer_of_between (Int.natCast_nonneg value) upper]
  rfl

theorem oneOf_text {ofName? : String → Option α} {name : String} {value : α}
    (named : ofName? name = some value) : oneOf ofName? (.text name) = .ok value := by
  simp only [oneOf, named]

/-- A value that is never written as null may be absent. -/
theorem optional_ofOption {decoder : Decoder α} {encode : α → Json}
    (reads : ∀ value, decoder (encode value) = .ok value) (present : ∀ value, encode value ≠ .null)
    (value : Option α) : optional decoder (.ofOption encode value) = .ok value := by
  cases value with
  | none => rfl
  | some value =>
    simp only [Json.ofOption]
    unfold optional
    split
    next null => exact absurd null (present value)
    · rw [reads]
      rfl

theorem list_map {decoder : Decoder α} {encode : α → Json}
    (reads : ∀ value, decoder (encode value) = .ok value) (values : List α) :
    list decoder (.array (values.map encode)) = .ok values := by
  simp only [list]
  induction values with
  | nil => rfl
  | cons value rest ih =>
    rw [List.map_cons, List.mapM_cons, reads, ih]
    rfl

end Values

namespace Record

variable {α β : Type}

/-- The members are those of the record's fields, each passes its field's check, and wherever
they are found the value is built from them. -/
structure Reads (record : Record α) (members : List (String × Json)) (value : α) : Prop where
  checked : List.Forall₂ (fun field member => field.name = member.1 ∧ field.check member.2 = .ok ())
    record.fields members
  -- among all members of an object, so that a record can be a part of a larger one
  built : ∀ all : List (String × Json),
    (∀ member ∈ members, all.lookup member.1 = some member.2) → record.build all = .ok value

theorem reads_required (name : String) {decoder : Decoder α} {json : Json} {value : α}
    (reads : decoder json = .ok value) : (required name decoder).Reads [(name, json)] value where
  checked := .cons ⟨rfl, by simp only [reads]; rfl⟩ .nil
  built all found := by
    simp only [required, found _ (List.mem_singleton_self _), reads]

theorem reads_defaulted (name : String) {decoder : Decoder α} {json : Json} {value : Option α}
    (reads : optional decoder json = .ok value) :
    (defaulted name decoder).Reads [(name, json)] value where
  checked := .cons ⟨rfl, by simp only [reads]; rfl⟩ .nil
  built all found := by
    simp only [defaulted, found _ (List.mem_singleton_self _), reads]

theorem Reads.map {record : Record α} {members : List (String × Json)} {value : α}
    (reads : record.Reads members value) (f : α → β) :
    (f <$> record).Reads members (f value) where
  checked := reads.checked
  built all found := by
    have built := reads.built all found
    show (do let x ← record.build all; return f x) = _
    rw [built]
    rfl

theorem Reads.seq {function : Record (α → β)} {record : Record α}
    {front back : List (String × Json)} {f : α → β} {value : α} (first : function.Reads front f)
    (second : record.Reads back value) :
    (function <*> record).Reads (front ++ back) (f value) where
  checked := List.rel_append first.checked second.checked
  built all found := by
    rw [List.forall_mem_append] at found
    have f := first.built all found.1
    have x := second.built all found.2
    show (do let f ← function.build all; let x ← record.build all; return f x) = _
    rw [f, x]
    rfl

/-! ### Members that are no fields twice -/

theorem lookup_of_mem {members : List (String × Json)} (distinct : (members.map (·.1)).Nodup)
    {member : String × Json} (present : member ∈ members) :
    members.lookup member.1 = some member.2 := by
  induction members with
  | nil => cases present
  | cons first rest ih =>
    rw [List.map_cons, List.nodup_cons] at distinct
    rcases List.mem_cons.mp present with rfl | later
    · exact List.lookup_cons_self
    · -- a later member has another name than the first
      have other : member.1 ≠ first.1 :=
        fun same => distinct.1 (List.mem_map.mpr ⟨member, later, same⟩)
      have differs : (member.1 == first.1) = false := beq_eq_false_iff_ne.mpr other
      rw [List.lookup_cons, differs]
      exact ih distinct.2 later

theorem find?_of_checked {fields : List Field} {members : List (String × Json)}
    (checked : List.Forall₂
      (fun field member => field.name = member.1 ∧ field.check member.2 = .ok ()) fields members)
    (distinct : (members.map (·.1)).Nodup) {member : String × Json} (present : member ∈ members) :
    ∃ field, (fields.find? fun field => field.name = member.1) = some field ∧
      field.check member.2 = .ok () := by
  -- the fields are named like the members, so the first field of a name is the member's own
  induction checked with
  | nil => cases present
  | @cons field first _ _ here _ ih =>
    rw [List.map_cons, List.nodup_cons] at distinct
    rcases List.mem_cons.mp present with rfl | later
    · exact ⟨field, List.find?_cons_of_pos (by simp [here.1]), here.2⟩
    · have other : field.name ≠ member.1 := by
        intro same
        exact distinct.1 (here.1 ▸ same ▸ List.mem_map_of_mem later)
      rw [List.find?_cons_of_neg (by simp [other])]
      exact ih distinct.2 later

theorem checkMembers_of_find? {fields : List Field} {members : List (String × Json)}
    (checked : ∀ member ∈ members, ∃ field,
      (fields.find? fun field => field.name = member.1) = some field ∧ field.check member.2 = .ok ())
    (distinct : (members.map (·.1)).Nodup) {seen : List String}
    (unseen : ∀ member ∈ members, member.1 ∉ seen) : checkMembers fields seen members = .ok () := by
  induction members generalizing seen with
  | nil => rfl
  | cons first rest ih =>
    obtain ⟨name, json⟩ := first
    rw [List.map_cons, List.nodup_cons] at distinct
    obtain ⟨field, found, passes⟩ := checked _ List.mem_cons_self
    -- the name is new now, and seen in front of the rest
    have new : seen.contains name = false := by
      simpa using unseen _ List.mem_cons_self
    simp only [checkMembers, found, new, passes, Bool.false_eq_true, if_false]
    refine ih (fun member later => checked member (List.mem_cons_of_mem _ later)) distinct.2 ?_
    intro member later repeated
    rcases List.mem_cons.mp repeated with same | old
    · exact distinct.1 (List.mem_map.mpr ⟨member, later, same⟩)
    · exact unseen member (List.mem_cons_of_mem _ later) old

theorem decode_of_reads {record : Record α} {members : List (String × Json)} {value : α}
    (reads : record.Reads members value) (distinct : (members.map (·.1)).Nodup) :
    record.decode (.object members) = .ok value := by
  have checks : checkMembers record.fields [] members = .ok () :=
    checkMembers_of_find? (fun member present => find?_of_checked reads.checked distinct present)
      distinct (by simp)
  have built := reads.built members fun member present => lookup_of_mem distinct present
  simp only [decode, checks]
  exact built

/-! ### What an accepted record was built from -/

theorem exists_build_of_decode {record : Record α} {json : Json} {value : α}
    (accepted : record.decode json = .ok value) :
    ∃ members, record.build members = .ok value := by
  unfold decode at accepted
  split at accepted
  next members =>
    obtain ⟨_, -, built⟩ := bind_eq_ok_iff.mp accepted
    exact ⟨members, built⟩
  next items =>
    obtain ⟨_, -, built⟩ := bind_eq_ok_iff.mp accepted
    split at built
    · exact ⟨_, built⟩
    · cases built
  · cases accepted

theorem exists_of_build_seq {function : Record (α → β)} {record : Record α}
    {members : List (String × Json)} {value : β}
    (built : (function <*> record).build members = .ok value) :
    ∃ f x, function.build members = .ok f ∧ record.build members = .ok x ∧ f x = value := by
  obtain ⟨f, first, rest⟩ := bind_eq_ok_iff.mp built
  obtain ⟨x, second, done⟩ := bind_eq_ok_iff.mp rest
  cases done
  exact ⟨f, x, first, second, rfl⟩

theorem exists_of_build_map {f : α → β} {record : Record α} {members : List (String × Json)}
    {value : β} (built : (f <$> record).build members = .ok value) :
    ∃ x, record.build members = .ok x ∧ f x = value := by
  obtain ⟨_, x, first, second, done⟩ := exists_of_build_seq built
  cases first
  exact ⟨x, second, done⟩

theorem exists_of_build_required {name : String} {decoder : Decoder α}
    {members : List (String × Json)} {value : α}
    (built : (required name decoder).build members = .ok value) :
    ∃ json, decoder json = .ok value := by
  simp only [required] at built
  split at built
  · exact ⟨_, built⟩
  · cases built

end Record

/-- What is relied on of a reader. -/
class LawfulRecordReader [RecordReader] : Prop where
  /-- An object that was written for a record is read back, if no two of its fields share a name. -/
  read_object {α : Type} {record : Record α} {members : List (String × Json)} {value : α}
    (reads : record.Reads members value) (distinct : (members.map (·.1)).Nodup) :
    RecordReader.read record (.object members) = .ok value
  /-- No value is read that the record does not build. -/
  exists_build {α : Type} {record : Record α} {json : Json} {value : α}
    (accepted : RecordReader.read record json = .ok value) :
    ∃ members, record.build members = .ok value

instance : LawfulRecordReader := ⟨Record.decode_of_reads, Record.exists_build_of_decode⟩

end Cardiac.Stored
