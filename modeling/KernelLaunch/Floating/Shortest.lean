import KernelLaunch.Floating.Format
import KernelLaunch.Text.Numeral

/-!
# The shortest decimal text of a floating-point word

The numbers that round to a given word form an interval around its value: it
reaches half way to either neighbour, and its ends belong to it exactly when the
significand is even.  The text shows a decimal of that interval with as few
digits as possible and, among those, one nearest to the value; of two equally
near ones the larger.

Decimals with few digits are the multiples of a large power of ten.  So the
powers of ten are tried from large to small, and the first one with a multiple in
the interval settles the digits: if any multiple lies in the interval then so
does one of the two next to the value.

The text is positional, without an exponent, whatever the size of the number.
-/

namespace KernelLaunch
namespace Floating

open Text (decimal)

section Interval

/-- The numbers that round to one finite word: `low / den` to `high / den`
around the value `mid / den`. -/
structure Interval where
  low : Nat
  mid : Nat
  high : Nat
  den : Nat
  endsIncluded : Bool
  deriving DecidableEq, Repr

/-- Whether `num / den` lies in the interval. -/
def Interval.holds (i : Interval) (num den : Nat) : Bool :=
  if i.endsIncluded then
    decide (i.low * den ≤ num * i.den) && decide (num * i.den ≤ i.high * den)
  else
    decide (i.low * den < num * i.den) && decide (num * i.den < i.high * den)

/-- The interval around a finite magnitude.  Below a power of two the numbers lie
twice as dense, so the lower half gap is half as wide there. -/
def Interval.ofMagnitude (f : Format) (magnitude : Nat) : Interval :=
  let field := magnitude >>> f.fractionBits
  let fraction := magnitude % (1 <<< f.fractionBits)
  let significand := if field = 0 then fraction else (1 <<< f.fractionBits) + fraction
  let exponent : Int := f.minExponent + ((field - 1 : Nat) : Int) - 2
  let lowGap := if fraction = 0 ∧ 0 < field then 1 else 2
  let scale (n : Nat) : Nat := if 0 ≤ exponent then n <<< exponent.toNat else n
  { low := scale (4 * significand - lowGap)
    mid := scale (4 * significand)
    high := scale (4 * significand + 2)
    den := if 0 ≤ exponent then 1 else 1 <<< (-exponent).toNat
    endsIncluded := significand % 2 == 0 }

end Interval

section Digits

/-- A decimal number `digits * 10 ^ exponent`. -/
structure Decimal where
  digits : Nat
  exponent : Int
  deriving DecidableEq, Repr

/-- The power `10 ^ e` as a fraction. -/
def powerOfTen : Int → Nat × Nat
  | .ofNat n => (Nat.pow 10 n, 1)
  | .negSucc n => (1, Nat.pow 10 (n + 1))

/-- The multiple of `10 ^ e` nearest to the value, if one lies in the interval. -/
def nearestMultiple? (i : Interval) (e : Int) : Option Nat :=
  let (p, q) := powerOfTen e
  let below := i.mid * q / (i.den * p)
  let above := below + 1
  let belowHolds := i.holds (below * p) q
  let aboveHolds := i.holds (above * p) q
  let closerBelow := decide (2 * (i.mid * q % (i.den * p)) < i.den * p)
  if belowHolds && (closerBelow || !aboveHolds) then some below
  else if aboveHolds then some above
  else none

/-- Tries `count` powers of ten downwards from `10 ^ e`; after the last one it keeps
the digits down to there. -/
def firstHit (i : Interval) : Nat → Int → Decimal
  | 0, e =>
      let (p, q) := powerOfTen e
      ⟨i.mid * q / (i.den * p), e⟩
  | count + 1, e =>
      match nearestMultiple? i e with
      | some k => ⟨k, e⟩
      | none => firstHit i count (e - 1)

/-- An exponent `e` for which the value is below `10 ^ (e + 1)`, and close to that. -/
def startExponent (i : Interval) : Int :=
  if i.den ≤ i.mid then (decimal (i.mid / i.den)).length
  else 1 - ((decimal (i.den / i.mid)).length : Int)

/-- The shortest decimal that rounds to a positive finite magnitude.  A word of
precision `p` needs no more than `p` decimal digits. -/
def shortest (f : Format) (magnitude : Nat) : Decimal :=
  let i := Interval.ofMagnitude f magnitude
  firstHit i (f.precision + 1) (startExponent i)

end Digits

section Notation

/-- A decimal in positional notation, with a point only before digits of a fraction. -/
def positional (d : Decimal) : List Char :=
  let digits := decimal d.digits
  match d.exponent with
  | .ofNat n => digits ++ List.replicate n '0'
  | .negSucc n =>
      let places := n + 1
      if places < digits.length then
        digits.take (digits.length - places) ++ '.' :: digits.drop (digits.length - places)
      else '0' :: '.' :: (List.replicate (places - digits.length) '0' ++ digits)

/-- The text of a magnitude that stands for a number. -/
def magnitudeText (f : Format) (magnitude : Nat) : List Char :=
  if magnitude = 0 then positional ⟨0, 0⟩
  else if magnitude = f.infinity then "inf".toList
  else positional (shortest f magnitude)

/-- The text of a word; a NaN shows no sign. -/
def wordText {f : Format} (w : BitVec f.width) : List Char :=
  if isNaN w then "NaN".toList
  else if isNegative w then '-' :: magnitudeText f (magnitude w)
  else magnitudeText f (magnitude w)

end Notation

end Floating
end KernelLaunch
