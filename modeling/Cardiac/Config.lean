import Cardiac.Memory

/-!
# Machine configurations
-/
namespace Cardiac

/-- What a run does when an input instruction finds no card. -/
inductive ExhaustionPolicy where
  | abort
  /-- The registers are cleared and the run ends without an error. -/
  | reset
  deriving DecidableEq, Repr

structure Config where
  memorySize : Nat := Memory.defaultSize
  onExhausted : ExhaustionPolicy := .abort
  maxCycles : Option Nat := none
  deriving DecidableEq, Repr

end Cardiac
