import KernelLaunch.Text.Numeral
import KernelLaunch.Text.Split

/-!
# Extents along up to three axes

Grids and blocks have three axes, each a 32-bit number.  An axis may be zero in a
value of this type; a text is read only if no axis is.

The text form is one to three numbers with commas between them.  Missing axes are
one, and blanks around a number do not matter.

**Results.**
* `toNat_ceilDiv`, `ceilDiv_le_iff`: division rounded up gives the least cover.
* `ceilDiv_mul_bounds`: the cover exceeds the extent by less than a block.
* `isPositive_divCeil_iff`: the cover has a zero axis exactly where the extents have one.
* `toNat_volume`: the product of all axes fits in 128 bits.
* `readText_eq_some_iff`: exactly one to three numerals between commas are read as axes.
* `parse_joinFields`, `parse_commaText`: positive dimensions written with commas are read
  back, whatever blanks stand around the numbers.
-/

namespace KernelLaunch

/-- Extents along three axes. -/
structure Dimensions where
  x : UInt32
  y : UInt32
  z : UInt32
  deriving DecidableEq

/-- What is wrong with the text of dimensions; the text is kept as given. -/
inductive DimensionsError
  | malformed (text : String)
  | zeroAxis (text : String)
  deriving DecidableEq, Repr

/-- The wording for dimensions whose text, of any origin, shows a zero axis. -/
def zeroAxisMessage (text : String) : String :=
  s!"launch dimensions must be positive, got {text}"

def DimensionsError.message : DimensionsError → String
  | .malformed text =>
      s!"invalid dimensions '{text}': expected up to three comma-separated positive integers"
  | .zeroAxis text => zeroAxisMessage text

theorem toNat_pos_iff {n : UInt32} : 0 < n.toNat ↔ n ≠ 0 := by
  rw [Nat.pos_iff_ne_zero, ne_eq, ne_eq, ← UInt32.toNat_inj]
  rfl

section CeilDiv

/-- The quotient rounded up. -/
def ceilDiv (a b : UInt32) : UInt32 :=
  if a % b = 0 then a / b else a / b + 1

/-- Rounding up does not overflow. -/
theorem toNat_ceilDiv (a : UInt32) {b : UInt32} (hb : 0 < b.toNat) :
    (ceilDiv a b).toNat = (a.toNat + (b.toNat - 1)) / b.toNat := by
  have ha : a.toNat < 2 ^ 32 := a.toNat_lt
  have hdm : b.toNat * (a.toNat / b.toNat) + a.toNat % b.toNat = a.toNat :=
    Nat.div_add_mod _ _
  have hmod : a.toNat % b.toNat < b.toNat := Nat.mod_lt _ hb
  unfold ceilDiv
  split
  · rename_i h
    have hz : a.toNat % b.toNat = 0 := by
      have h' := congrArg UInt32.toNat h
      simpa [UInt32.toNat_mod] using h'
    rw [UInt32.toNat_div]
    symm
    rw [Nat.div_eq_iff hb]
    constructor
    · rw [Nat.mul_comm]
      omega
    · rw [Nat.mul_comm]
      omega
  · rename_i h
    have hnz : a.toNat % b.toNat ≠ 0 := by
      intro hz
      apply h
      apply UInt32.toNat_inj.1
      simpa [UInt32.toNat_mod] using hz
    have hle : a.toNat / b.toNat * 1 ≤ a.toNat / b.toNat * b.toNat :=
      Nat.mul_le_mul_left _ hb
    have hcomm : a.toNat / b.toNat * b.toNat = b.toNat * (a.toNat / b.toNat) :=
      Nat.mul_comm _ _
    have hsum : (a / b + 1).toNat = a.toNat / b.toNat + 1 := by
      rw [UInt32.toNat_add, UInt32.toNat_div]
      apply Nat.mod_eq_of_lt
      have hone : (1 : UInt32).toNat = 1 := rfl
      omega
    rw [hsum]
    symm
    rw [Nat.div_eq_iff hb, Nat.add_mul, Nat.one_mul]
    omega

/-- The quotient rounded up is the least number of blocks that cover the extent. -/
theorem ceilDiv_le_iff (a : UInt32) {b : UInt32} (hb : 0 < b.toNat) (g : Nat) :
    (ceilDiv a b).toNat ≤ g ↔ a.toNat ≤ g * b.toNat := by
  rw [toNat_ceilDiv a hb, ← Nat.lt_add_one_iff, Nat.div_lt_iff_lt_mul hb, Nat.add_mul,
    Nat.one_mul]
  omega

/-- There is a block exactly if there is anything to cover. -/
theorem ceilDiv_pos_iff (a : UInt32) {b : UInt32} (hb : 0 < b.toNat) :
    0 < (ceilDiv a b).toNat ↔ 0 < a.toNat := by
  have hle := ceilDiv_le_iff a hb 0
  omega

/-- The blocks cover the extent, with less than a block to spare. -/
theorem ceilDiv_mul_bounds (a : UInt32) {b : UInt32} (hb : 0 < b.toNat) :
    a.toNat ≤ (ceilDiv a b).toNat * b.toNat ∧
      (ceilDiv a b).toNat * b.toNat < a.toNat + b.toNat := by
  have hle : (ceilDiv a b).toNat * b.toNat ≤ a.toNat + (b.toNat - 1) := by
    rw [toNat_ceilDiv a hb]
    exact Nat.div_mul_le_self _ _
  exact ⟨(ceilDiv_le_iff a hb _).1 (Nat.le_refl _), by omega⟩

end CeilDiv

namespace Dimensions

section Basic

/-- An extent along the first axis alone. -/
def linear (x : UInt32) : Dimensions := ⟨x, 1, 1⟩

/-- No axis is zero. -/
def IsPositive (d : Dimensions) : Prop :=
  0 < d.x.toNat ∧ 0 < d.y.toNat ∧ 0 < d.z.toNat

instance (d : Dimensions) : Decidable d.IsPositive :=
  inferInstanceAs (Decidable (_ ∧ _ ∧ _))

/-- The number of points, a 128-bit product. -/
def volume (d : Dimensions) : BitVec 128 :=
  BitVec.ofNat 128 d.x.toNat * BitVec.ofNat 128 d.y.toNat * BitVec.ofNat 128 d.z.toNat

/-- The product of all axes fits in 128 bits. -/
theorem toNat_volume (d : Dimensions) :
    d.volume.toNat = d.x.toNat * d.y.toNat * d.z.toNat := by
  have hx : d.x.toNat < 2 ^ 32 := d.x.toNat_lt
  have hy : d.y.toNat < 2 ^ 32 := d.y.toNat_lt
  have hz : d.z.toNat < 2 ^ 32 := d.z.toNat_lt
  have hxy : d.x.toNat * d.y.toNat < 2 ^ 32 * 2 ^ 32 := Nat.mul_lt_mul'' hx hy
  have hxyz : d.x.toNat * d.y.toNat * d.z.toNat < 2 ^ 32 * 2 ^ 32 * 2 ^ 32 :=
    Nat.mul_lt_mul'' hxy hz
  simp only [volume, BitVec.toNat_mul, BitVec.toNat_ofNat]
  rw [Nat.mod_eq_of_lt (by omega : d.x.toNat < 2 ^ 128),
    Nat.mod_eq_of_lt (by omega : d.y.toNat < 2 ^ 128),
    Nat.mod_eq_of_lt (by omega : d.z.toNat < 2 ^ 128),
    Nat.mod_eq_of_lt (by omega : d.x.toNat * d.y.toNat < 2 ^ 128),
    Nat.mod_eq_of_lt (by omega)]

/-- The products of matching axes, in 64 bits. -/
def mulWide (a b : Dimensions) : UInt64 × UInt64 × UInt64 :=
  (a.x.toUInt64 * b.x.toUInt64, a.y.toUInt64 * b.y.toUInt64, a.z.toUInt64 * b.z.toUInt64)

theorem toNat_mul_toUInt64 (a b : UInt32) :
    (a.toUInt64 * b.toUInt64).toNat = a.toNat * b.toNat := by
  have ha : a.toNat < 2 ^ 32 := a.toNat_lt
  have hb : b.toNat < 2 ^ 32 := b.toNat_lt
  have hab : a.toNat * b.toNat < 2 ^ 32 * 2 ^ 32 := Nat.mul_lt_mul'' ha hb
  rw [UInt64.toNat_mul, UInt32.toNat_toUInt64, UInt32.toNat_toUInt64, Nat.mod_eq_of_lt]
  omega

/-- The blocks of size `b` that cover `a` along each axis. -/
def divCeil (a b : Dimensions) (_ : b.IsPositive) : Dimensions :=
  ⟨ceilDiv a.x b.x, ceilDiv a.y b.y, ceilDiv a.z b.z⟩

/-- The cover has a zero axis exactly where the extents have one. -/
theorem isPositive_divCeil_iff {a b : Dimensions} (h : b.IsPositive) :
    (a.divCeil b h).IsPositive ↔ a.IsPositive :=
  and_congr (ceilDiv_pos_iff a.x h.1)
    (and_congr (ceilDiv_pos_iff a.y h.2.1) (ceilDiv_pos_iff a.z h.2.2))

/-- As `divCeil`, with no answer for a block that has a zero axis. -/
def divCeil? (a b : Dimensions) : Option Dimensions :=
  if h : b.IsPositive then some (a.divCeil b h) else none

/-- Blocks without a zero axis are all that is needed for an answer. -/
theorem divCeil?_of_isPositive (a : Dimensions) {b : Dimensions} (h : b.IsPositive) :
    a.divCeil? b = some (a.divCeil b h) :=
  dif_pos h

end Basic

section Text

/-- The dimensions as shown in messages. -/
def text (d : Dimensions) : String :=
  let x := Text.decimalText d.x.toNat
  let y := Text.decimalText d.y.toNat
  let z := Text.decimalText d.z.toNat
  s!"({x} x {y} x {z})"

/-- The dimensions as three numbers with commas between them. -/
def commaText (d : Dimensions) : String :=
  String.ofList (Text.joinFields ','
    [Text.decimal d.x.toNat, Text.decimal d.y.toNat, Text.decimal d.z.toNat])

/-- Reads one axis. -/
def readAxis (cs : List Char) : Option UInt32 :=
  (Text.readU32 (Text.trim cs)).toOption

/-- The places that parts are read into, from the first to the last. -/
def places : List (UInt32 → Dimensions → Dimensions) :=
  [fun n d => { d with x := n }, fun n d => { d with y := n }, fun n d => { d with z := n }]

/-- Reads each part into its place; what has no part stays as it is. -/
def readInto : List (UInt32 → Dimensions → Dimensions) → List (List Char) → Dimensions →
    Option Dimensions
  | place :: others, part :: parts, d =>
      match readAxis part with
      | none => none
      | some n => readInto others parts (place n d)
  | _, _, d => some d

/-- Reads parts as axes; an axis that has no part is one. -/
def readAxes (parts : List (List Char)) : Option Dimensions :=
  readInto places parts ⟨1, 1, 1⟩

/-- Reads the axes of a text, any of which may be zero. -/
def readText (cs : List Char) : Option Dimensions :=
  let parts := Text.fields ',' cs
  if Text.trim cs ≠ [] ∧ parts.length ≤ 3 then readAxes parts else none

/-- Reads one to three positive axes with commas between them. -/
def parse (s : String) : Except DimensionsError Dimensions :=
  match readText s.toList with
  | none => .error (.malformed s)
  | some d => if d.IsPositive then .ok d else .error (.zeroAxis s)

end Text

section Grammar

/-- What stands between the commas of a text. -/
structure PartsOf (s : String) (parts : List (List Char)) : Prop where
  joined : s.toList = Text.joinFields ',' parts
  nonempty : parts ≠ []
  clean : ∀ part ∈ parts, ',' ∉ part

/-- One to three numerals for the axes from the first on, each with blanks around it or
without; missing axes are one. -/
inductive AxesOf : List (List Char) → Dimensions → Prop
  | one {a : List Char} {x : UInt32}
      (first : Text.IsPaddedNumeral a x.toNat) :
      AxesOf [a] ⟨x, 1, 1⟩
  | two {a b : List Char} {x y : UInt32}
      (first : Text.IsPaddedNumeral a x.toNat)
      (second : Text.IsPaddedNumeral b y.toNat) :
      AxesOf [a, b] ⟨x, y, 1⟩
  | three {a b c : List Char} {x y z : UInt32}
      (first : Text.IsPaddedNumeral a x.toNat)
      (second : Text.IsPaddedNumeral b y.toNat)
      (third : Text.IsPaddedNumeral c z.toNat) :
      AxesOf [a, b, c] ⟨x, y, z⟩

theorem partsOf_iff {s : String} {parts : List (List Char)} :
    PartsOf s parts ↔ Text.fields ',' s.toList = parts := by
  constructor
  · intro h
    rw [h.joined]
    exact Text.fields_joinFields h.nonempty h.clean
  · rintro rfl
    exact ⟨(Text.joinFields_fields ',' s.toList).symm, Text.fields_ne_nil ',' s.toList,
      Text.notMem_of_mem_fields ',' s.toList⟩

theorem readAxis_eq_some_iff {cs : List Char} {n : UInt32} :
    readAxis cs = some n ↔ Text.IsPaddedNumeral cs n.toNat := by
  rw [Text.isPaddedNumeral_iff, ← Text.readU32_eq_ok_iff, readAxis]
  cases Text.readU32 (Text.trim cs) <;> simp [Except.toOption]

theorem readInto_cons_eq_some_iff
    {place : UInt32 → Dimensions → Dimensions}
    {others : List (UInt32 → Dimensions → Dimensions)}
    {part : List Char}
    {parts : List (List Char)}
    {d e : Dimensions} :
    readInto (place :: others) (part :: parts) d = some e ↔
      ∃ n, Text.IsPaddedNumeral part n.toNat ∧
        readInto others parts (place n d) = some e := by
  rw [readInto]
  simp only [← readAxis_eq_some_iff]
  cases readAxis part <;> simp

theorem readInto_nil_eq_some_iff
    {others : List (UInt32 → Dimensions → Dimensions)}
    {d e : Dimensions} :
    readInto others [] d = some e ↔ d = e := by
  cases others <;> simp [readInto]

theorem AxesOf.length {parts : List (List Char)} {d : Dimensions} (h : AxesOf parts d) :
    parts ≠ [] ∧ parts.length ≤ 3 := by
  cases h <;> simp

/-- One to three parts are read as axes exactly if they are numerals for these. -/
theorem readAxes_eq_some_iff
    {parts : List (List Char)}
    {d : Dimensions}
    (hne : parts ≠ [])
    (hlength : parts.length ≤ 3) :
    readAxes parts = some d ↔ AxesOf parts d := by
  constructor
  · intro h
    match parts, hne, hlength with
    | [a], _, _ =>
        simp only [readAxes, places, readInto_cons_eq_some_iff,
          readInto_nil_eq_some_iff] at h
        obtain ⟨x, hx, rfl⟩ := h
        exact .one hx
    | [a, b], _, _ =>
        simp only [readAxes, places, readInto_cons_eq_some_iff,
          readInto_nil_eq_some_iff] at h
        obtain ⟨x, hx, y, hy, rfl⟩ := h
        exact .two hx hy
    | [a, b, c], _, _ =>
        simp only [readAxes, places, readInto_cons_eq_some_iff,
          readInto_nil_eq_some_iff] at h
        obtain ⟨x, hx, y, hy, z, hz, rfl⟩ := h
        exact .three hx hy hz
  · intro h
    simp only [readAxes, places]
    cases h with
    | one hx =>
        simp only [readInto_cons_eq_some_iff, readInto_nil_eq_some_iff]
        exact ⟨_, hx, rfl⟩
    | two hx hy =>
        simp only [readInto_cons_eq_some_iff, readInto_nil_eq_some_iff]
        exact ⟨_, hx, _, hy, rfl⟩
    | three hx hy hz =>
        simp only [readInto_cons_eq_some_iff, readInto_nil_eq_some_iff]
        exact ⟨_, hx, _, hy, _, hz, rfl⟩

/-- A blank text is one part, and that is no numeral. -/
theorem trim_ne_nil_of_axesOf {cs : List Char} {d : Dimensions}
    (h : AxesOf (Text.fields ',' cs) d) :
    Text.trim cs ≠ [] := by
  intro hblank
  have hcomma : ',' ∉ cs := by
    rw [(Text.isPadded_trim cs).mem_iff rfl, hblank]
    simp
  rw [Text.fields_eq_singleton hcomma] at h
  cases h with
  | one first =>
      obtain ⟨_, hnil | hplus, hne, _⟩ := Text.isPaddedNumeral_iff.1 first
      · exact hne (hnil.symm.trans hblank)
      · rw [hblank] at hplus
        cases hplus

/-- Which axes parts are depends on what trimming leaves of them. -/
theorem AxesOf.congr
    {parts others : List (List Char)}
    {d : Dimensions}
    (h : AxesOf parts d)
    (htrim : others.map Text.trim = parts.map Text.trim) :
    AxesOf others d := by
  have hnumeral : ∀ {a b : List Char} {n : Nat}, Text.trim b = Text.trim a →
      Text.IsPaddedNumeral a n → Text.IsPaddedNumeral b n := by
    intro a b n hab ha
    rwa [Text.isPaddedNumeral_iff, hab, ← Text.isPaddedNumeral_iff]
  cases h with
  | one first =>
      simp only [List.map_cons, List.map_nil, List.map_eq_cons_iff, List.map_eq_nil_iff] at htrim
      obtain ⟨a, _, rfl, ha, rfl⟩ := htrim
      exact .one (hnumeral ha first)
  | two first second =>
      simp only [List.map_cons, List.map_nil, List.map_eq_cons_iff, List.map_eq_nil_iff] at htrim
      obtain ⟨a, _, rfl, ha, b, _, rfl, hb, rfl⟩ := htrim
      exact .two (hnumeral ha first) (hnumeral hb second)
  | three first second third =>
      simp only [List.map_cons, List.map_nil, List.map_eq_cons_iff, List.map_eq_nil_iff] at htrim
      obtain ⟨a, _, rfl, ha, b, _, rfl, hb, c, _, rfl, hc, rfl⟩ := htrim
      exact .three (hnumeral ha first) (hnumeral hb second) (hnumeral hc third)

/-- Blanks at the ends of a text do not matter to the axes of its parts. -/
theorem axesOf_fields_trim_iff {cs : List Char} {d : Dimensions} :
    AxesOf (Text.fields ',' (Text.trim cs)) d ↔ AxesOf (Text.fields ',' cs) d := by
  have htrim : (Text.fields ',' cs).map Text.trim =
      (Text.fields ',' (Text.trim cs)).map Text.trim :=
    Text.map_trim_fields rfl (Text.isPadded_trim cs)
  exact ⟨fun h => h.congr htrim, fun h => h.congr htrim.symm⟩

/-- Exactly one to three numerals between commas are read as axes. -/
theorem readText_eq_some_iff {cs : List Char} {d : Dimensions} :
    readText cs = some d ↔ AxesOf (Text.fields ',' cs) d := by
  rw [readText, Option.ite_none_right_eq_some]
  constructor
  · rintro ⟨⟨_, hlength⟩, h⟩
    exact (readAxes_eq_some_iff (Text.fields_ne_nil ',' cs) hlength).1 h
  · intro h
    exact ⟨⟨trim_ne_nil_of_axesOf h, h.length.2⟩, (readAxes_eq_some_iff h.length.1 h.length.2).2 h⟩

theorem parse_eq_ok_iff {s : String} {d : Dimensions} :
    parse s = .ok d ↔ AxesOf (Text.fields ',' s.toList) d ∧ d.IsPositive := by
  rw [← readText_eq_some_iff, parse]
  cases readText s.toList with
  | none => simp
  | some e =>
      by_cases he : e.IsPositive
      · simp only [he, if_true, Except.ok.injEq, Option.some.injEq]
        exact ⟨fun h => ⟨h, h ▸ he⟩, fun h => h.1⟩
      · simp only [he, if_false, reduceCtorEq, Option.some.injEq, false_iff, not_and]
        rintro rfl
        exact he

end Grammar

section Writing

/-- The decimal form of a number, with blanks around it or without. -/
def PaddedDecimal (cs : List Char) (n : UInt32) : Prop :=
  Text.IsPadded cs (Text.decimal n.toNat)

theorem paddedDecimal_decimal (n : UInt32) : PaddedDecimal (Text.decimal n.toNat) n :=
  Text.isPadded_self _

/-- A comma is neither a digit nor a blank. -/
theorem PaddedDecimal.notMem_comma {cs : List Char} {n : UInt32} (h : PaddedDecimal cs n) :
    ',' ∉ cs := by
  rw [Text.IsPadded.mem_iff h rfl]
  intro hmem
  obtain ⟨v, hv⟩ := Text.digitOf_of_mem_decimal ',' hmem
  simp [Text.digitOf, Text.digitValue] at hv

/-- Positive dimensions are read back whatever blanks stand around the numbers. -/
theorem parse_joinFields
    {d : Dimensions}
    {a b c : List Char}
    (ha : PaddedDecimal a d.x)
    (hb : PaddedDecimal b d.y)
    (hc : PaddedDecimal c d.z)
    (hd : d.IsPositive) :
    parse (String.ofList (Text.joinFields ',' [a, b, c])) = .ok d := by
  have hfields : Text.fields ',' (Text.joinFields ',' [a, b, c]) = [a, b, c] := by
    apply Text.fields_joinFields (by simp)
    intro f hf
    simp only [List.mem_cons, List.not_mem_nil, or_false] at hf
    rcases hf with rfl | rfl | rfl
    · exact ha.notMem_comma
    · exact hb.notMem_comma
    · exact hc.notMem_comma
  rw [parse_eq_ok_iff, String.toList_ofList, hfields]
  exact ⟨.three (Text.IsPadded.isPaddedNumeral ha) (Text.IsPadded.isPaddedNumeral hb)
    (Text.IsPadded.isPaddedNumeral hc), hd⟩

/-- Positive dimensions written with commas are read back. -/
theorem parse_commaText {d : Dimensions} (hd : d.IsPositive) :
    parse d.commaText = .ok d :=
  parse_joinFields (paddedDecimal_decimal _) (paddedDecimal_decimal _)
    (paddedDecimal_decimal _) hd

end Writing

end Dimensions

end KernelLaunch
