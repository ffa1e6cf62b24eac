import Cardiac.CardImage

/-! Memory as a map from addresses to cells: what a write does to every cell, first for one
word and then for a list of pairs. Two memories of one size with the same cells are equal. -/
namespace Cardiac.Memory

/-- The address belongs to a cell. -/
def Inside (memory : Memory) (address : Int) : Prop := 0 ≤ address ∧ address ≤ memory.size

instance (memory : Memory) (address : Int) : Decidable (memory.Inside address) :=
  inferInstanceAs (Decidable (_ ∧ _))

/-- The memory with a word at an address. Outside of the memory nothing is written. -/
def put (memory : Memory) (address : Int) (word : Word) : Memory :=
  (memory.set address word).2

/-- Every word of a list is put to its address, in order. -/
def putAll (memory : Memory) (pairs : List (Fin 100 × Word)) : Memory :=
  pairs.foldl (fun memory pair => memory.put pair.1.val pair.2) memory

/-! ### One cell -/

theorem toNat_lt_of_inside {memory : Memory} {address : Int} (inside : memory.Inside address) :
    address.toNat < memory.size + 1 := by
  unfold Inside at inside
  omega

theorem index_of_inside {memory : Memory} {address : Int} (inside : memory.Inside address) :
    memory.index address = .ok ⟨address.toNat, toNat_lt_of_inside inside⟩ :=
  dif_pos inside

theorem index_of_outside {memory : Memory} {address : Int} (outside : ¬memory.Inside address) :
    memory.index address = .error (.outOfRange address memory.size) :=
  dif_neg outside

theorem get_of_inside {memory : Memory} {address : Int} (inside : memory.Inside address) :
    let cell : Fin (memory.size + 1) := ⟨address.toNat, toNat_lt_of_inside inside⟩
    memory.get address = .ok memory.cells[cell] := by
  rw [get, index_of_inside inside]

theorem exists_get_of_inside {memory : Memory} {address : Int} (inside : memory.Inside address) :
    ∃ cell, memory.get address = .ok cell :=
  ⟨_, get_of_inside inside⟩

theorem get_of_outside {memory : Memory} {address : Int} (outside : ¬memory.Inside address) :
    memory.get address = .error (.outOfRange address memory.size) := by
  rw [get, index_of_outside outside]

theorem inside_of_get {memory : Memory} {address : Int} {cell : Option Word}
    (held : memory.get address = .ok cell) : memory.Inside address := by
  refine Decidable.byContradiction fun outside => ?_
  rw [get_of_outside outside] at held
  cases held

/-- The value of a cell, read off the cell itself. -/
theorem getInt_eq (memory : Memory) (address : Int) : memory.getInt address =
    match memory.get address with
    | .ok (some word) => .ok word.value
    | .ok none => .error (.emptyCell address.toNat)
    | .error error => .error error := by
  by_cases inside : memory.Inside address
  · rw [get_of_inside inside]
    simp only [getInt, index_of_inside inside]
    split <;> simp [*]
  · simp only [getInt, get_of_outside inside, index_of_outside inside]

theorem getInt_of_get {memory : Memory} {address : Int} {word : Word}
    (held : memory.get address = .ok (some word)) : memory.getInt address = .ok word.value := by
  rw [getInt_eq, held]

theorem exists_get_of_getInt {memory : Memory} {address value : Int}
    (read : memory.getInt address = .ok value) :
    ∃ word : Word, memory.get address = .ok (some word) ∧ word.value = value := by
  rw [getInt_eq] at read
  split at read
  next word held =>
    cases read
    exact ⟨word, held, rfl⟩
  · cases read
  · cases read

/-- Every cell has a text, for that of an empty one is an empty card. -/
theorem exists_getText_of_inside {memory : Memory} {address : Int}
    (inside : memory.Inside address) : ∃ card, memory.getText address = .ok card := by
  obtain ⟨cell, held⟩ := exists_get_of_inside inside
  cases cell with
  | none => exact ⟨"", by simp only [getText, held]⟩
  | some word => exact ⟨word.text, by simp only [getText, held]⟩

theorem setReading_of_outside {memory : Memory} {address : Int}
    (outside : ¬memory.Inside address) (reading : Except WordError Word) :
    memory.setReading address reading = (.error (.outOfRange address memory.size), memory) := by
  simp only [setReading, index_of_outside outside]

theorem setReading_of_error {memory : Memory} {address : Int} (inside : memory.Inside address)
    (error : WordError) :
    memory.setReading address (.error error) = (.error (.data error), memory) := by
  simp only [setReading, index_of_inside inside]

theorem setReading_of_inside {memory : Memory} {address : Int} (inside : memory.Inside address)
    (word : Word) : memory.setReading address (.ok word) = (.ok (), memory.put address word) := by
  simp only [put, set, setReading, index_of_inside inside]

theorem set_of_inside {memory : Memory} {address : Int} (inside : memory.Inside address)
    (word : Word) : memory.set address word = (.ok (), memory.put address word) :=
  setReading_of_inside inside word

theorem exists_of_setReading {memory written : Memory} {address : Int}
    {reading : Except WordError Word}
    (done : memory.setReading address reading = (.ok (), written)) :
    ∃ word, reading = .ok word ∧ memory.Inside address ∧ written = memory.put address word := by
  by_cases inside : memory.Inside address
  · cases reading with
    | error error =>
      rw [setReading_of_error inside] at done
      cases done
    | ok word =>
      rw [setReading_of_inside inside] at done
      cases done
      exact ⟨word, rfl, inside, rfl⟩
  · rw [setReading_of_outside inside] at done
    cases done

/-- A write that fails leaves the memory as it was. -/
theorem eq_of_setReading_error {memory left : Memory} {address : Int}
    {reading : Except WordError Word} {error : MemoryError}
    (fails : memory.setReading address reading = (.error error, left)) : left = memory := by
  by_cases inside : memory.Inside address
  · cases reading with
    | error data =>
      rw [setReading_of_error inside] at fails
      cases fails
      rfl
    | ok word =>
      rw [setReading_of_inside inside] at fails
      cases fails
  · rw [setReading_of_outside inside] at fails
    cases fails
    rfl

theorem put_of_inside {memory : Memory} {address : Int} (inside : memory.Inside address)
    (word : Word) : memory.put address word = { memory with
      cells := memory.cells.set address.toNat (some word) (toNat_lt_of_inside inside) } := by
  simp only [put, set, setReading, index_of_inside inside]

theorem put_of_outside {memory : Memory} {address : Int} (outside : ¬memory.Inside address)
    (word : Word) : memory.put address word = memory := by
  simp only [put, set, setReading, index_of_outside outside]

@[simp] theorem size_put (memory : Memory) (address : Int) (word : Word) :
    (memory.put address word).size = memory.size := by
  by_cases inside : memory.Inside address
  · rw [put_of_inside inside]
  · rw [put_of_outside inside]

@[simp] theorem inside_put (memory : Memory) (address other : Int) (word : Word) :
    (memory.put address word).Inside other ↔ memory.Inside other := by
  simp only [Inside, size_put]

theorem get_put_self {memory : Memory} {address : Int} (inside : memory.Inside address)
    (word : Word) : (memory.put address word).get address = .ok (some word) := by
  rw [put_of_inside inside word, get_of_inside (by exact inside)]
  simp

theorem get_put_of_ne {memory : Memory} {address other : Int} (different : other ≠ address)
    (word : Word) : (memory.put address word).get other = memory.get other := by
  by_cases inside : memory.Inside address
  · by_cases reachable : memory.Inside other
    -- different addresses inside are different indices of the cells
    · have apart : address.toNat ≠ other.toNat := by
        unfold Inside at inside reachable
        omega
      rw [put_of_inside inside word, get_of_inside reachable, get_of_inside (by exact reachable)]
      simp [apart]
    · rw [get_of_outside reachable, get_of_outside (mt (inside_put ..).mp reachable), size_put]
  · rw [put_of_outside inside]

theorem ext_get {first second : Memory} (sizes : first.size = second.size)
    (cells : ∀ address : Int, first.get address = second.get address) : first = second := by
  obtain ⟨size, firstCells, countable⟩ := first
  obtain ⟨_, secondCells, _⟩ := second
  cases sizes
  -- the cells are equal if those of each index are, which is an address inside
  congr 1
  ext i bound : 1
  have inside (cells) : (⟨size, cells, countable⟩ : Memory).Inside (i : Int) := by
    simp only [Inside]
    omega
  have same := cells i
  rw [get_of_inside (inside _), get_of_inside (inside _)] at same
  simpa using same

theorem get_zero_ofSize (size : Nat) : (ofSize size).get 0 = .ok (some .bootstrap) := by
  have inside : (ofSize size).Inside 0 := by
    unfold Inside
    omega
  rw [get_of_inside inside]
  exact congrArg _ (Vector.getElem_set_self _)

/-- The bootstrap word in cell 0 is the only one of a fresh memory. -/
theorem get_ofSize_of_ne_zero {size : Nat} {address : Int} (inside : (ofSize size).Inside address)
    (other : address ≠ 0) : (ofSize size).get address = .ok none := by
  have apart : address.toNat ≠ 0 := by
    unfold Inside at inside
    omega
  have empty : (ofSize size).cells.get ⟨address.toNat, toNat_lt_of_inside inside⟩ = none := by
    simp only [ofSize]
    exact (Vector.getElem_set_ne _ _ apart.symm).trans (Vector.getElem_replicate _)
  rw [get_of_inside inside]
  exact congrArg _ empty

theorem le_size_ofSize {size : Nat} (room : 99 ≤ size) : 99 ≤ (ofSize size).size := by
  simp only [ofSize, greatestSize]
  omega

theorem size_ofSize_le (size : Nat) : (ofSize size).size ≤ greatestSize := by
  simp only [ofSize, greatestSize]
  omega

/-! ### Lists of pairs -/

theorem putAll_append (memory : Memory) (front back : List (Fin 100 × Word)) :
    memory.putAll (front ++ back) = (memory.putAll front).putAll back :=
  List.foldl_append

@[simp] theorem size_putAll (memory : Memory) (pairs : List (Fin 100 × Word)) :
    (memory.putAll pairs).size = memory.size := by
  induction pairs generalizing memory with
  | nil => rfl
  | cons pair rest ih => exact (ih _).trans (size_put ..)

theorem get_putAll_of_notMem (memory : Memory) {pairs : List (Fin 100 × Word)} {address : Int}
    (untouched : ∀ pair ∈ pairs, (pair.1.val : Int) ≠ address) :
    (memory.putAll pairs).get address = memory.get address := by
  induction pairs generalizing memory with
  | nil => rfl
  | cons pair rest ih =>
    rw [List.forall_mem_cons] at untouched
    exact (ih _ untouched.2).trans (get_put_of_ne untouched.1.symm pair.2)

/-- With room for cell 99, every address of two digits is a cell. -/
theorem inside_of_room {memory : Memory} (room : 99 ≤ memory.size) {address : Int}
    (lower : 0 ≤ address) (upper : address ≤ 99) : memory.Inside address :=
  ⟨lower, by omega⟩

/-- The words are in the cells from an address on. -/
def Holds (memory : Memory) (first : Nat) (words : List Word) : Prop :=
  ∀ (i : Nat) (word : Word), words[i]? = some word →
    memory.get (first + i : Nat) = .ok (some word)

/-- Pairs for cells of the memory are written before what comes behind them. -/
theorem write_append {memory : Memory} {front : List (Fin 100 × Word)}
    (inside : ∀ pair ∈ front, memory.Inside pair.1.val) (back : List (Fin 100 × Word)) :
    memory.write (front ++ back) = (memory.putAll front).write back := by
  induction front generalizing memory with
  | nil => rfl
  | cons pair rest ih =>
    rw [List.forall_mem_cons] at inside
    rw [List.cons_append, write, set_of_inside inside.1]
    exact ih fun other member => (inside_put ..).mpr (inside.2 other member)

theorem write_of_inside {memory : Memory} {pairs : List (Fin 100 × Word)}
    (inside : ∀ pair ∈ pairs, memory.Inside pair.1.val) :
    memory.write pairs = (.ok (), memory.putAll pairs) := by
  simpa only [List.append_nil, write] using write_append inside []

theorem write_eq_putAll {memory : Memory} (room : 99 ≤ memory.size)
    (pairs : List (Fin 100 × Word)) : memory.write pairs = (.ok (), memory.putAll pairs) :=
  write_of_inside fun _ _ => inside_of_room room (by omega) (by omega)

end Cardiac.Memory
