/-!
# Accumulator arithmetic

The accumulator is wider than a word: sums are kept in 64 bits, wrapping around, and only a
store checks that the value fits a word. The decimal shift keeps the last four digits of its
result, which is never negative.
-/
namespace Cardiac

abbrev Accumulator := Int64

namespace Accumulator

/-- Moves the digits left by the operand's tens, then right by its units: the quotient is
rounded down and four digits remain. No digit is lost on the way, for the shift left is exact. -/
def shift (acc : Accumulator) (operand : UInt8) : Accumulator :=
  let left := operand.toNat / 10
  let right := operand.toNat % 10
  Int64.ofInt (acc.toInt * Int.pow 10 left / Int.pow 10 right % 10000)

def add (acc : Accumulator) (operand : Int64) : Accumulator := acc + operand

def subtract (acc : Accumulator) (operand : Int64) : Accumulator := acc - operand

end Accumulator
end Cardiac
