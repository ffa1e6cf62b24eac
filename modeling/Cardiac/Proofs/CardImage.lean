import Mathlib.Data.List.Basic
import Cardiac.CardImage
import Cardiac.Proofs.Instruction

/-! The last pair for a cell decides what it holds, and so that for cell 2 where the program starts.
Images that the loader can load end with such a pair, and begin with the one for the loader itself. -/
namespace Cardiac.CardImage

/-- The word of the last pair for an address. -/
def lastWord? (image : CardImage) (address : Fin 100) : Option Word :=
  (image.pairs.reverse.find? fun pair => pair.1 = address).map Prod.snd

theorem lastWord?_eq_some {image : CardImage} {address : Fin 100} {word : Word}
    (found : image.lastWord? address = some word) :
    ∃ front back, image.pairs = front ++ (address, word) :: back ∧
      ∀ pair ∈ back, pair.1 ≠ address := by
  obtain ⟨⟨_, _⟩, first, rfl⟩ := Option.map_eq_some_iff.mp found
  obtain ⟨here, back, front, split, behind⟩ := List.find?_eq_some_iff_append.mp first
  obtain rfl := of_decide_eq_true here
  refine ⟨front.reverse, back.reverse, ?_, ?_⟩
  · rw [← List.reverse_reverse image.pairs, split]
    simp
  · simpa using behind

theorem lastWord?_eq_none {image : CardImage} {address : Fin 100}
    (missing : image.lastWord? address = none) : ∀ pair ∈ image.pairs, pair.1 ≠ address := by
  simpa [lastWord?] using missing

theorem entryPoint?_eq_some_iff {image : CardImage} {start : Fin 100} :
    image.entryPoint? = some start ↔ image.lastWord? startCell = some (.jumpTo start) := by
  unfold entryPoint? lastWord?
  cases image.pairs.reverse.find? fun pair => pair.1 = startCell with
  | none => simp
  | some pair =>
    obtain ⟨address, word⟩ := pair
    simp only [Option.map_some, Option.some.injEq, Word.eq_jumpTo_iff]
    split
    next jump =>
      rw [Option.some.injEq, Fin.ext_iff]
      simp only
      omega
    next other =>
      simp only [reduceCtorEq, false_iff]
      omega

theorem entryPoint?_map_eq_some_iff {image : CardImage} {target : UInt8} :
    image.entryPoint?.map Fin.val = some target.toNat ↔
      ∃ word, image.lastWord? startCell = some word ∧
        Instruction.decode word.value = .ok ⟨.jump, target⟩ := by
  simp only [Option.map_eq_some_iff, entryPoint?_eq_some_iff, Instruction.decode_eq_jump_iff]
  constructor
  · rintro ⟨start, found, same⟩
    have operand : target.toNat = (UInt8.ofNat start).toNat := by
      rw [toNat_ofNat_address, same]
    exact ⟨_, found, start, rfl, UInt8.toNat_inj.mp operand⟩
  · rintro ⟨_, found, start, rfl, rfl⟩
    exact ⟨start, found, (toNat_ofNat_address start).symm⟩

theorem entryPoint?_eq_none_iff {image : CardImage} : image.entryPoint? = none ↔
    ∀ word, image.lastWord? startCell = some word →
      ∀ target, Instruction.decode word.value ≠ .ok ⟨.jump, target⟩ := by
  constructor
  · intro none word found target decoded
    have entry := entryPoint?_map_eq_some_iff.mpr ⟨word, found, decoded⟩
    rw [none] at entry
    cases entry
  · intro free
    refine Option.eq_none_iff_forall_ne_some.mpr fun start found => ?_
    exact free _ (entryPoint?_eq_some_iff.mp found) _ (Instruction.decode_jumpTo start)

/-- The image that installs the loader's jump, loads a body and starts the program. -/
def framed (body : List (Fin 100 × Word)) (start : Fin 100) : CardImage :=
  ⟨(startCell, .jumpTo 0) :: body ++ [(startCell, .jumpTo start)]⟩

theorem length_framed (body : List (Fin 100 × Word)) (start : Fin 100) :
    (framed body start).pairs.length = body.length + 2 := by
  simp [framed]

theorem entryPoint?_framed (body : List (Fin 100 × Word)) (start : Fin 100) :
    (framed body start).entryPoint? = some start := by
  rw [entryPoint?_eq_some_iff, lastWord?, framed, List.reverse_append]
  exact congrArg (Option.map Prod.snd) (List.find?_cons_of_pos (decide_eq_true rfl))

/-- The pairs with their addresses as plain numbers. -/
def plain (pairs : List (Fin 100 × Word)) : List (Nat × Word) :=
  pairs.map fun pair => (pair.1.val, pair.2)

theorem plain_injective : Function.Injective plain :=
  List.map_injective_iff.mpr fun first second same => by
    rw [Prod.mk.injEq] at same
    exact Prod.ext (Fin.ext same.1) same.2

end Cardiac.CardImage
