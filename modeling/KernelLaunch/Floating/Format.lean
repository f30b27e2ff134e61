/-!
# Binary floating-point formats

A *format* has a precision and a number of exponent bits.  A *word* of a format
is a sign bit followed by a *magnitude*: the exponent field and the fraction
field read as one number.  Magnitudes are ordered as the numbers they stand for,
infinity follows the largest finite number, and every magnitude past infinity is
a NaN.

Everything is exact arithmetic on words; no operation of the runtime's floating
point is used.

**Results.**
* `compare?_eq_none_iff`: two words are unordered exactly when one is a NaN.
-/

namespace KernelLaunch
namespace Floating

/-- Precision, counted with the leading bit that is not stored, and exponent width. -/
structure Format where
  precision : Nat
  exponentBits : Nat
  deriving DecidableEq, Repr

namespace Format

def single : Format := ⟨24, 8⟩

/-- The format of 64-bit words. -/
def double : Format := ⟨53, 11⟩

variable (f : Format)

/-- Number of bits of a word, the sign included. -/
def width : Nat := f.precision + f.exponentBits

/-- Number of stored bits of the fraction. -/
def fractionBits : Nat := f.precision - 1

/-- The magnitude of infinity: all exponent bits set, no fraction bit set. -/
def infinity : Nat := ((1 <<< f.exponentBits) - 1) <<< f.fractionBits

/-- The magnitude of the NaN that reading produces. -/
def quietNaN : Nat := f.infinity + (1 <<< (f.fractionBits - 1))

/-- The largest power of two past every finite number is `2 ^ exponentSpan`. -/
def exponentSpan : Nat := 1 <<< (f.exponentBits - 1)

/-- The unit of the smallest numbers is `2 ^ minExponent`. -/
def minExponent : Int := 3 - (f.exponentSpan : Int) - (f.precision : Int)

end Format

/-- The word with the given sign and magnitude. -/
def word (f : Format) (negative : Bool) (magnitude : Nat) : BitVec f.width :=
  BitVec.ofNat f.width ((if negative then 1 <<< (f.width - 1) else 0) + magnitude)

section Word

variable {f : Format}

/-- Whether the sign bit is set. -/
def isNegative (w : BitVec f.width) : Bool :=
  decide (1 <<< (f.width - 1) ≤ w.toNat)

/-- The word without its sign bit. -/
def magnitude (w : BitVec f.width) : Nat :=
  w.toNat % (1 <<< (f.width - 1))

/-- Whether the word stands for no number. -/
def isNaN (w : BitVec f.width) : Bool :=
  decide (f.infinity < magnitude w)

/-- The place of a word in the order of numbers; both zeros have the same place. -/
def rank (w : BitVec f.width) : Int :=
  if isNegative w then -(magnitude w : Int) else magnitude w

/-- The order of two words, unless one of them is a NaN. -/
def compare? (v w : BitVec f.width) : Option Ordering :=
  if isNaN v || isNaN w then none else some (compare (rank v) (rank w))

/-- Two words are unordered exactly when one of them is a NaN. -/
theorem compare?_eq_none_iff (v w : BitVec f.width) :
    compare? v w = none ↔ isNaN v = true ∨ isNaN w = true := by
  unfold compare?
  split <;> simp_all

end Word

end Floating
end KernelLaunch
