import KernelLaunch.Floating.Format
import KernelLaunch.Text.Numeral

/-!
# Reading decimal text as a floating-point word

A literal is an optional sign followed by `inf`, `infinity` or `nan` in any
ASCII case, or by decimal digits with an optional point among, before or after
them and an optional exponent.  At least one digit stands before the exponent.

A finite literal denotes an exact fraction, which is rounded once, to the
nearest number of the format; a tie goes to the even magnitude.  Numbers too
large for the format become infinity.

An exponent that has reached `exponentCap` takes no further digit.  Only literals
with tens of thousands of digits before the exponent can tell the difference.
-/

namespace KernelLaunch
namespace Floating

open Text (digitOf readDigits decimal)

section Literal

/-- What an unsigned literal denotes; a finite one is `digits * 10 ^ exponent`. -/
inductive Literal
  | nan
  | infinity
  | finite (digits : Nat) (exponent : Int)
  deriving DecidableEq, Repr

/-- The number from which on an exponent takes no further digit. -/
def exponentCap : Nat := 65536

/-- The value of a run of exponent digits written after a number `acc`. -/
def readCappedDigits : Nat → List Char → Option Nat
  | acc, [] => some acc
  | acc, c :: cs =>
      match digitOf 10 c with
      | none => none
      | some d => readCappedDigits (if acc < exponentCap then acc * 10 + d else acc) cs

/-- The number that one or more exponent digits denote. -/
def readCappedNat : List Char → Option Nat
  | [] => none
  | c :: cs => readCappedDigits 0 (c :: cs)

/-- The number that an optional sign and one or more exponent digits denote. -/
def readCappedInt : List Char → Option Int
  | '-' :: cs => (readCappedNat cs).map fun n => -(n : Int)
  | '+' :: cs => (readCappedNat cs).map fun n => (n : Int)
  | cs => (readCappedNat cs).map fun n => (n : Int)

/-- The exponent written at the end of a literal, zero if none is. -/
def readExponent : List Char → Option Int
  | [] => some 0
  | c :: cs => if c = 'e' ∨ c = 'E' then readCappedInt cs else none

/-- The fraction digits after a point, if there is one, and the rest of the text. -/
def splitFraction : List Char → List Char × List Char
  | '.' :: cs => (cs.takeWhile Char.isDigit, cs.dropWhile Char.isDigit)
  | cs => ([], cs)

/-- Reads a literal that consists of digits. -/
def readFinite (cs : List Char) : Option Literal := do
  let whole := cs.takeWhile Char.isDigit
  let (fraction, rest) := splitFraction (cs.dropWhile Char.isDigit)
  if whole ++ fraction = [] then none
  else
    let digits ← readDigits 10 0 (whole ++ fraction)
    let exponent ← readExponent rest
    some (.finite digits (exponent - fraction.length))

/-- Reads a literal without its sign. -/
def readLiteral (cs : List Char) : Option Literal :=
  let lower := cs.map Char.toLower
  if lower = "inf".toList ∨ lower = "infinity".toList then some .infinity
  else if lower = "nan".toList then some .nan
  else readFinite cs

end Literal

section Rounding

/-- The quotient rounded to the nearest whole number, a tie to the even one. -/
def roundHalfEven (num den : Nat) : Nat :=
  let q := num / den
  let r := num % den
  if 2 * r < den then q
  else if 2 * r = den then q + q % 2
  else q + 1

/-- The fraction `num / den * 2 ^ shift` again, as numerator and denominator. -/
def scaleTwo (num den : Nat) (shift : Int) : Nat × Nat :=
  match shift with
  | .ofNat n => (num <<< n, den)
  | .negSucc n => (num, den <<< (n + 1))

/-- The greatest `e` with `2 ^ e ≤ num / den`, for a positive fraction. -/
def binaryExponent (num den : Nat) : Int :=
  let estimate : Int := (Nat.log2 num : Int) - Nat.log2 den
  let (n, d) := scaleTwo num den (-estimate)
  if d ≤ n then estimate else estimate - 1

/-- The magnitude nearest to a positive fraction. -/
def nearestMagnitude (f : Format) (num den : Nat) : Nat :=
  let unit := max f.minExponent (binaryExponent num den - f.fractionBits)
  let (n, d) := scaleTwo num den (-unit)
  let magnitude := ((unit - f.minExponent).toNat <<< f.fractionBits) + roundHalfEven n d
  min magnitude f.infinity

/-- The magnitude nearest to `digits * 10 ^ exponent`.  Numbers whose leading digit
is beyond the format on either side are settled before a power of ten is built. -/
def decimalMagnitude (f : Format) (digits : Nat) (exponent : Int) : Nat :=
  let top : Int := (decimal digits).length + exponent
  if digits = 0 then 0
  else if (f.exponentSpan : Int) < top then f.infinity
  else if top + f.exponentSpan + f.precision < 0 then 0
  else
    match exponent with
    | .ofNat n => nearestMagnitude f (digits * Nat.pow 10 n) 1
    | .negSucc n => nearestMagnitude f digits (Nat.pow 10 (n + 1))

/-- The magnitude that a literal denotes. -/
def Literal.magnitude (f : Format) : Literal → Nat
  | .nan => f.quietNaN
  | .infinity => f.infinity
  | .finite digits exponent => decimalMagnitude f digits exponent

/-- Reads a literal as a word of the format. -/
def readWord (f : Format) : List Char → Option (BitVec f.width)
  | '-' :: cs => (readLiteral cs).map fun l => word f true (l.magnitude f)
  | '+' :: cs => (readLiteral cs).map fun l => word f false (l.magnitude f)
  | cs => (readLiteral cs).map fun l => word f false (l.magnitude f)

end Rounding

end Floating
end KernelLaunch
