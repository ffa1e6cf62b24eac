import Cardiac.Proofs.Memory.Words

/-!
# Calls on a memory

A memory is a map from the addresses 0 up to its size to words, and every call on it is checked by
itself: first its address, then its data. A call that is refused changes nothing, so after any calls
a cell holds what the last one has written there that was not refused. All readers show the same.
-/
namespace Cardiac.Memory

/-- A call that writes a word, an integer or a card to an address. -/
inductive Call where
  | set (address : Int) (word : Word)
  | setInt (address value : Int)
  | setText (address : Int) (card : Card)
  deriving DecidableEq, Repr

namespace Call

def address : Call → Int
  | set address _ | setInt address _ | setText address _ => address

/-- What the data of the call is read as. A word needs no reading. -/
def reading : Call → Except WordError Word
  | set _ word => .ok word
  | setInt _ value => Word.ofInt value
  | setText _ card => Word.parse card

end Call

/-- The answer to a call, and the memory behind it. -/
def answer (memory : Memory) : Call → Except MemoryError Unit × Memory
  | .set address word => memory.set address word
  | .setInt address value => memory.setInt address value
  | .setText address card => memory.setText address card

/-- The memory behind calls, refused ones included. -/
def behind (memory : Memory) (calls : List Call) : Memory :=
  calls.foldl (fun memory call => (memory.answer call).2) memory

/-- The call with the index `i` is not refused, and writes the word to the address. -/
def Writes (memory : Memory) (calls : List Call) (i : Nat) (address : Int) (word : Word) : Prop :=
  ∃ call, calls[i]? = some call ∧ call.address = address ∧ call.reading = .ok word ∧
    ((memory.behind (calls.take i)).answer call).1 = .ok ()

/-- The answers that a call can get, each with what it leaves. -/
inductive Answered (memory : Memory) (call : Call) : Except MemoryError Unit × Memory → Prop where
  | outside (out : ¬memory.Inside call.address) :
      Answered memory call (.error (.outOfRange call.address memory.size), memory)
  | refused {error : WordError} (inside : memory.Inside call.address)
      (read : call.reading = .error error) : Answered memory call (.error (.data error), memory)
  | written {word : Word} (inside : memory.Inside call.address) (read : call.reading = .ok word) :
      Answered memory call (.ok (), memory.put call.address word)

variable {memory : Memory} {call : Call} {calls : List Call} {address : Int} {word : Word}

/-! ### One call -/

theorem answered (memory : Memory) (call : Call) : Answered memory call (memory.answer call) := by
  have same : memory.answer call = memory.setReading call.address call.reading := by
    cases call <;> rfl
  rw [same]
  by_cases inside : memory.Inside call.address
  · cases read : call.reading with
    | error error =>
      rw [setReading_of_error inside]
      exact .refused inside read
    | ok word =>
      rw [setReading_of_inside inside]
      exact .written inside read
  · rw [setReading_of_outside inside]
    exact .outside inside

/-- A call is refused for its address, whatever its data is, else for its data, and else it is
carried out. One that is refused leaves the memory as it was. -/
structure Checks (memory : Memory) (call : Call) : Prop where
  outOfRange : ∀ address size, (memory.answer call).1 = .error (.outOfRange address size) ↔
    (call.address < 0 ∨ memory.size < call.address) ∧ address = call.address ∧ size = memory.size
  data : ∀ error, (memory.answer call).1 = .error (.data error) ↔
    memory.Inside call.address ∧ call.reading = .error error
  succeeds : (memory.answer call).1 = .ok () ↔
    memory.Inside call.address ∧ ∃ word, call.reading = .ok word
  kept : ∀ error, (memory.answer call).1 = .error error → (memory.answer call).2 = memory

theorem checks (memory : Memory) (call : Call) : memory.Checks call := by
  have answer := memory.answered call
  constructor
  case outOfRange =>
    intro address size
    generalize memory.answer call = result at answer
    cases answer with
    | outside out =>
      unfold Inside at out
      simp only [Except.error.injEq, MemoryError.outOfRange.injEq]
      omega
    | refused inside =>
      unfold Inside at inside
      simp only [Except.error.injEq, reduceCtorEq, false_iff]
      omega
    | written inside =>
      unfold Inside at inside
      simp only [reduceCtorEq, false_iff]
      omega
  case data =>
    intro error
    generalize memory.answer call = result at answer
    cases answer with
    | outside out => simp [out]
    | refused inside read => simp [inside, read, eq_comm]
    | written inside read => simp [read]
  case succeeds =>
    generalize memory.answer call = result at answer
    cases answer with
    | outside out => simp [out]
    | refused inside read => simp [read]
    | written inside read => simp [inside, read]
  case kept =>
    intro error refused
    generalize memory.answer call = result at answer refused
    cases answer with
    | written => cases refused
    | _ => rfl

theorem size_answer (memory : Memory) (call : Call) : (memory.answer call).2.size = memory.size := by
  have answer := memory.answered call
  generalize memory.answer call = result at answer
  cases answer with
  | written => exact size_put ..
  | _ => rfl

theorem get_answer (read : call.reading = .ok word) (carried : (memory.answer call).1 = .ok ()) :
    (memory.answer call).2.get call.address = .ok (some word) := by
  have answer := memory.answered call
  generalize memory.answer call = result at answer carried
  cases answer with
  | @written other inside found =>
    obtain rfl : word = other := Except.ok.inj (read.symm.trans found)
    exact get_put_self inside word
  | _ => cases carried

/-- A call that does not write to an address leaves its cell alone. -/
theorem get_answer_of_not_writes (idle : ∀ word, ¬memory.Writes (call :: calls) 0 address word) :
    (memory.answer call).2.get address = memory.get address := by
  have answer := memory.answered call
  generalize carried : memory.answer call = result at answer
  cases answer with
  | @written word inside read =>
    refine get_put_of_ne (fun same => ?_) word
    exact idle word ⟨call, rfl, same.symm, read, congrArg Prod.fst carried⟩
  | _ => rfl

/-! ### Calls one after the other -/

theorem size_behind (memory : Memory) (calls : List Call) :
    (memory.behind calls).size = memory.size := by
  induction calls generalizing memory with
  | nil => rfl
  | cons call calls ih => exact (ih _).trans (memory.size_answer call)

theorem get_behind_of_not_writes (idle : ∀ i word, ¬memory.Writes calls i address word) :
    (memory.behind calls).get address = memory.get address := by
  -- behind the first call, the index of every further call is one less
  induction calls generalizing memory with
  | nil => rfl
  | cons call calls ih =>
    have later := ih fun i word => idle (i + 1) word
    exact later.trans (get_answer_of_not_writes (idle 0))

theorem get_behind_of_last {i : Nat} (writes : memory.Writes calls i address word)
    (last : ∀ later other, i < later → ¬memory.Writes calls later address other) :
    (memory.behind calls).get address = .ok (some word) := by
  induction calls generalizing memory i with
  | nil =>
    obtain ⟨_, found, -⟩ := writes
    cases found
  | cons call calls ih =>
    cases i with
    | zero =>
      obtain ⟨_, found, rfl, read, carried⟩ := writes
      cases found
      -- no call behind this one writes there again
      have idle := get_behind_of_not_writes fun i other => last (i + 1) other (Nat.succ_pos i)
      exact idle.trans (get_answer read carried)
    | succ i =>
      refine ih writes fun later other behind => ?_
      exact last (later + 1) other (Nat.succ_lt_succ behind)

/-- Behind the calls a cell holds what the last of them has written that was not refused. -/
structure Remembers (memory : Memory) (calls : List Call) (address : Int) : Prop where
  last : ∀ i word, memory.Writes calls i address word →
    (∀ later other, i < later → ¬memory.Writes calls later address other) →
      (memory.behind calls).get address = .ok (some word)
  initial : (∀ i word, ¬memory.Writes calls i address word) →
    (memory.behind calls).get address = memory.get address

/-! ### The readers -/

/-- All readers show the same cells. -/
structure ReadersAgree (memory : Memory) : Prop where
  get : ∀ address, memory.Inside address → ∃ cell, memory.get address = .ok cell
  getInt : ∀ address cell, memory.get address = .ok cell →
    memory.getInt address =
      match cell with
      | some word => .ok word.value
      | none => .error (.emptyCell address.toNat)
  getText : ∀ address cell, memory.get address = .ok cell →
    memory.getText address = .ok (cell.elim "" Word.text)
  /-- That the end of the range is cut down to 64 bits cuts off no cell. -/
  dump : ∀ start count, (memory.dump start count).Pairwise (·.1 < ·.1) ∧
    ∀ address cell, (address, cell) ∈ memory.dump start count ↔
      (start ≤ address ∧ address < start + count ∧ address ≤ memory.size) ∧
        memory.get address = .ok cell

theorem readersAgree (memory : Memory) : memory.ReadersAgree := by
  constructor
  case get => exact fun address inside => exists_get_of_inside inside
  case getInt =>
    intro address cell held
    rw [getInt_eq, held]
    cases cell <;> rfl
  case getText =>
    intro address cell held
    rw [Memory.getText, held]
    cases cell <;> rfl
  case dump =>
    intro start count
    refine ⟨memory.pairwise_dump start count, ?_⟩
    intro address cell
    rw [mem_dump_iff]
    constructor
    · rintro ⟨above, below, held⟩
      have inside := inside_of_get held
      unfold Inside at inside
      exact ⟨⟨above, below, by omega⟩, held⟩
    · rintro ⟨⟨above, below, -⟩, held⟩
      exact ⟨above, below, held⟩

/-- A memory is a checked map: whatever calls are made, each is refused exactly for an address without
a cell or else for data that is no word, a refused one changes nothing, and then a cell holds the word
of the last call that has written to it, or what was there first. All readers agree on that. -/
theorem behaves_as_checked_map (memory : Memory) (calls : List Call) :
    (∀ i call, calls[i]? = some call →
      let reached := memory.behind (calls.take i)
      reached.size = memory.size ∧ reached.Checks call ∧
        memory.behind (calls.take (i + 1)) = (reached.answer call).2) ∧
      (memory.behind calls).size = memory.size ∧
      (∀ address, memory.Inside address → memory.Remembers calls address) ∧
      (memory.behind calls).ReadersAgree := by
  refine ⟨?_, memory.size_behind calls, ?_, readersAgree _⟩
  · intro i call found reached
    refine ⟨memory.size_behind _, reached.checks call, ?_⟩
    rw [List.take_add_one, found]
    exact List.foldl_append
  · intro address _
    exact ⟨fun _ _ => get_behind_of_last, get_behind_of_not_writes⟩

/-- Two calls write to the last cell and one is refused for its data between them, and two are
refused for their addresses, one of them with data that is no word either. -/
theorem second_of_two_writes_remembered :
    let calls : List Call :=
      [.set 3 .bootstrap, .setInt 3 1000, .setText 4 "x", .setText 3 " -7 ", .set (-1) .zero]
    let memory := (ofSize 3).behind calls
    (((ofSize 3).behind (calls.take 1)).answer (.setInt 3 1000)).1 =
        .error (.data (.overflow 1000)) ∧
      ((ofSize 3).answer (.setText 4 "x")).1 = .error (.outOfRange 4 3) ∧
      memory.get 3 = .ok (some ⟨-7, by decide, by decide⟩) ∧ memory.get 2 = .ok none ∧
      memory.getInt 2 = .error (.emptyCell 2) ∧ memory.size = 3 := by
  intro calls memory
  obtain ⟨checked, size, remembers, readers⟩ := behaves_as_checked_map (ofSize 3) calls
  have writes : (ofSize 3).Writes calls 3 3 ⟨-7, by decide, by decide⟩ :=
    ⟨.setText 3 " -7 ", rfl, rfl, by decide, rfl⟩
  have empty : memory.get 2 = .ok none := by
    refine ((remembers 2 (by decide)).initial ?_).trans (by decide)
    rintro i word ⟨call, found, here, -⟩
    have elsewhere : ∀ call ∈ calls, call.address ≠ 2 := by decide
    exact elsewhere call (List.mem_of_getElem? found) here
  refine ⟨?_, ?_, (remembers 3 (by decide)).last 3 _ writes ?_, empty, ?_, size⟩
  · exact ((checked 1 _ rfl).2.1.data _).mpr ⟨by decide, by decide⟩
  · decide
  · -- only the call with the refused address comes later
    rintro later word behind ⟨call, found, here, -⟩
    have elsewhere : ∀ call ∈ calls.drop 4, call.address ≠ 3 := by decide
    have place : (calls.drop 4)[later - 4]? = some call := by
      rw [List.getElem?_drop, Nat.add_sub_cancel' behind, found]
    exact elsewhere call (List.mem_of_getElem? place) here
  · exact readers.getInt 2 none empty

end Cardiac.Memory
