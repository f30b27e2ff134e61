import KernelLaunch.Launch.Dimensions

/-!
# The text of dimensions

A text is dimensions exactly if its parts between the commas are one to three numerals, with
blanks around them or without, and none of them is zero.  A zero is reported as such only if
all parts are numerals for axes; whatever else is wrong with any part makes the whole text
malformed.

**Results.**
* `exists_axesOf_iff`: which parts of a text are axes.
* `parse_eq_zeroAxis_iff`, `parse_eq_malformed_iff`: what each fault says of the text.
* `parse_eq_malformed_iff_of_parts`: a text is malformed by the number of its parts or by one
  of them.
* `parsesExactly`: which texts are read, as what, and what is wrong with the others.
-/

namespace KernelLaunch
namespace Dimensions

section Parts

variable {s : String} {parts : List (List Char)}

/-- A number for an axis, with blanks around it or without. -/
def IsAxis (part : List Char) : Prop :=
  ∃ n : UInt32, Text.IsPaddedNumeral part n.toNat

theorem PartsOf.unique {others : List (List Char)} (h : PartsOf s parts) (h' : PartsOf s others) :
    others = parts :=
  (partsOf_iff.1 h').symm.trans (partsOf_iff.1 h)

/-- Up to three parts are axes, if each of them is one. -/
theorem exists_axesOf_iff (hne : parts ≠ []) :
    (∃ d, AxesOf parts d) ↔ parts.length ≤ 3 ∧ ∀ part ∈ parts, IsAxis part := by
  constructor
  · rintro ⟨d, h⟩
    cases h with
    | one first => simpa [IsAxis] using ⟨_, first⟩
    | two first second => simpa [IsAxis] using ⟨⟨_, first⟩, ⟨_, second⟩⟩
    | three first second third =>
        simpa [IsAxis] using ⟨⟨_, first⟩, ⟨_, second⟩, ⟨_, third⟩⟩
  · rintro ⟨hlength, haxes⟩
    match parts, hne, hlength, haxes with
    | [a], _, _, haxes =>
        obtain ⟨x, hx⟩ := haxes a (by simp)
        exact ⟨_, .one hx⟩
    | [a, b], _, _, haxes =>
        obtain ⟨x, hx⟩ := haxes a (by simp)
        obtain ⟨y, hy⟩ := haxes b (by simp)
        exact ⟨_, .two hx hy⟩
    | [a, b, c], _, _, haxes =>
        obtain ⟨x, hx⟩ := haxes a (by simp)
        obtain ⟨y, hy⟩ := haxes b (by simp)
        obtain ⟨z, hz⟩ := haxes c (by simp)
        exact ⟨_, .three hx hy hz⟩

end Parts

section Outcomes

variable {s t : String} {d : Dimensions}

theorem not_isPositive_iff : ¬d.IsPositive ↔ d.x = 0 ∨ d.y = 0 ∨ d.z = 0 := by
  simp only [IsPositive, toNat_pos_iff, Classical.not_and_iff_not_or_not, Decidable.not_not]

theorem parse_eq_ok_iff_axesOf :
    parse s = .ok d ↔ ∃ parts, PartsOf s parts ∧ AxesOf parts d ∧ d.IsPositive := by
  simp only [parse_eq_ok_iff, partsOf_iff, exists_eq_left']

/-- A zero is reported exactly if all parts are axes and one of these is zero. -/
theorem parse_eq_zeroAxis_iff :
    parse s = .error (.zeroAxis t) ↔
      t = s ∧ ∃ parts d, PartsOf s parts ∧ AxesOf parts d ∧ ¬d.IsPositive := by
  simp only [partsOf_iff, exists_and_left, exists_eq_left', ← readText_eq_some_iff]
  unfold parse
  cases readText s.toList with
  | none => simp
  | some e => by_cases he : e.IsPositive <;> simp [he, eq_comm]

/-- A text is malformed exactly if its parts are not axes. -/
theorem parse_eq_malformed_iff :
    parse s = .error (.malformed t) ↔
      t = s ∧ ∀ parts d, PartsOf s parts → ¬AxesOf parts d := by
  have hnone : (∀ parts d, PartsOf s parts → ¬AxesOf parts d) ↔ readText s.toList = none := by
    simp only [partsOf_iff, Option.eq_none_iff_forall_ne_some, ne_eq, readText_eq_some_iff]
    constructor
    · exact fun h d => h _ d rfl
    · rintro h _ d rfl
      exact h d
  rw [hnone]
  unfold parse
  cases readText s.toList with
  | none => simp [eq_comm]
  | some e => by_cases he : e.IsPositive <;> simp [he]

/-- One bad part is enough, whatever the others are. -/
theorem parse_eq_malformed_iff_of_parts {parts : List (List Char)} (hparts : PartsOf s parts) :
    parse s = .error (.malformed s) ↔
      3 < parts.length ∨ ∃ part ∈ parts, ¬IsAxis part := by
  have hone : parse s = .error (.malformed s) ↔ ¬∃ d, AxesOf parts d := by
    rw [parse_eq_malformed_iff, not_exists]
    constructor
    · exact fun h d => h.2 parts d hparts
    · refine fun h => ⟨rfl, fun others d hothers => ?_⟩
      rw [hparts.unique hothers]
      exact h d
  rw [hone, exists_axesOf_iff hparts.nonempty, Classical.not_and_iff_not_or_not, Nat.not_le]
  simp

/-- What becomes of a text as dimensions. -/
structure ParsesExactly (s : String) : Prop where
  divided : ∃ parts, PartsOf s parts ∧ ∀ others, PartsOf s others → others = parts
  accepted : ∀ d, parse s = .ok d ↔ ∃ parts, PartsOf s parts ∧ AxesOf parts d ∧ d.IsPositive
  zero : ∀ t, parse s = .error (.zeroAxis t) ↔
    t = s ∧ ∃ parts d, PartsOf s parts ∧ AxesOf parts d ∧ (d.x = 0 ∨ d.y = 0 ∨ d.z = 0)
  malformed : ∀ t, parse s = .error (.malformed t) ↔
    t = s ∧ ∀ parts d, PartsOf s parts → ¬AxesOf parts d
  refused : ∀ parts, PartsOf s parts →
    (parse s = .error (.malformed s) ↔ 3 < parts.length ∨ ∃ part ∈ parts, ¬IsAxis part)
  /-- Blanks may stand around the numbers that dimensions are written as. -/
  written : ∀ d a b c, d.IsPositive → PaddedDecimal a d.x → PaddedDecimal b d.y →
    PaddedDecimal c d.z → s.toList = Text.joinFields ',' [a, b, c] → parse s = .ok d

/-- A text is read exactly if its parts are one to three positive axes. -/
theorem parsesExactly (s : String) : ParsesExactly s where
  divided := ⟨_, partsOf_iff.2 rfl, fun _ => (partsOf_iff.2 rfl).unique⟩
  accepted := fun _ => parse_eq_ok_iff_axesOf
  zero := by
    intro t
    simp only [parse_eq_zeroAxis_iff, not_isPositive_iff]
  malformed := fun _ => parse_eq_malformed_iff
  refused := fun _ hparts => parse_eq_malformed_iff_of_parts hparts
  written := by
    intro d a b c hd ha hb hc hs
    have hwritten := parse_joinFields ha hb hc hd
    rwa [← hs, String.ofList_toList] at hwritten

/-- A number that does not fit is worse than a zero beside it. -/
example :
    parse "0, 7" = .error (.zeroAxis "0, 7") ∧
      parse "0, 4294967296" = .error (.malformed "0, 4294967296") := by
  exact ⟨by rfl, by rfl⟩

end Outcomes

end Dimensions
end KernelLaunch
