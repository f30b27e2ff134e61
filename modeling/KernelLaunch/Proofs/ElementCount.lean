import KernelLaunch.Adapter.Resolution
import KernelLaunch.Adapter.Validation
import KernelLaunch.Kernels.Histogram
import KernelLaunch.Kernels.Saxpy
import KernelLaunch.Kernels.VectorAdd

/-!
# Element counts and the ends of the inputs

A kernel that works on elements one by one is told how many there are, and must not be
told more than its inputs hold.  The count is worked out anew when the length is
generated, when the sizes of the inputs are checked, when the output is sized and when a
launch is deduced.

For vector addition all four agree, and the count never goes past the end of an input.
The other kernels with a length do not compare it with their inputs: a generated length
fits, but a length that the user supplies is taken whatever it is.

**Results.**
* `exists_countsTo_of_prepare`: one count is behind all that preparing a vector addition
  settles.
* `inBounds_iff_of_prepare`: for the other kernels the count fits exactly if the user
  supplied no length or one that fits, and every supplied length is taken.
* `not_inBounds_of_prepare`: a supplied length can go past the end of an input.
-/

namespace KernelLaunch
namespace Kernels

/-- Each of the inputs is there and holds at least `n` elements of four bytes. -/
def InBounds (c : Context) (inputs : List String) (n : UInt32) : Prop :=
  ∀ name ∈ inputs, ∃ bytes, c.hostSizes.get? name = some bytes ∧ 4 * n.toNat ≤ bytes

/-- The context with a length that the user supplies. -/
def withLength (c : Context) (n : UInt32) : Context :=
  { c with scalars := c.scalars.insert lengthName (.ofU32 n) }

section Lengths

variable {a : Adapter} {lead : String} {elementSize : Nat}
variable {c d : Context} {sizes : NameMap Nat}

theorem length_unique
    {m n : UInt32}
    (hm : c.scalars.get? lengthName = some (.ofU32 m))
    (hn : c.scalars.get? lengthName = some (.ofU32 n)) :
    m = n := by
  rw [hm, Option.some.injEq] at hn
  exact ScalarValue.ofU32_inj.1 hn

/-- Preparing a kernel with a length leaves the user's length behind, or else the number
of whole elements in the leading buffer. -/
theorem length_of_prepare
    (hgenerate : a.generateScalars = fun c => generateLength c lead elementSize)
    (h : a.prepare c = (.ok sizes, d)) :
    ((∃ v, c.scalars.get? lengthName = some v) ∧ d = c) ∨
      (c.scalars.get? lengthName = none ∧
        ∃ n bytes, c.hostSizes.get? lead = some bytes ∧ n.toNat = bytes / elementSize ∧
          d.scalars.get? lengthName = some (.ofU32 n)) := by
  obtain ⟨g, hg, rfl, _⟩ := Adapter.prepare_eq_ok_iff.1 h
  rw [hgenerate] at hg
  exact generateLength_cases hg

theorem exists_length_of_prepare
    (hgenerate : a.generateScalars = fun c => generateLength c lead elementSize)
    (h : a.prepare c = (.ok sizes, d)) :
    ∃ v, d.scalars.get? lengthName = some v := by
  rcases length_of_prepare hgenerate h with ⟨hv, rfl⟩ | ⟨_, n, _, _, _, hn⟩
  · exact hv
  · exact ⟨.ofU32 n, hn⟩

/-- A generated length fills the leading buffer if that has a whole number of elements. -/
theorem mul_length_of_prepare
    (hgenerate : a.generateScalars = fun c => generateLength c lead elementSize)
    (h : a.prepare c = (.ok sizes, d))
    (hnone : c.scalars.get? lengthName = none)
    {n : UInt32}
    (hn : d.scalars.get? lengthName = some (.ofU32 n))
    {bytes : Nat}
    (hbytes : d.hostSizes.get? lead = some bytes)
    (hwhole : bytes % elementSize = 0) :
    elementSize * n.toNat = bytes := by
  rw [Adapter.hostSizes_of_prepare h] at hbytes
  rcases length_of_prepare hgenerate h with ⟨⟨v, hv⟩, _⟩ | ⟨_, m, bytes', hm, hcount, hd⟩
  · rw [hnone] at hv
    cases hv
  · rw [hbytes] at hm
    cases hm
    obtain rfl : m = n := length_unique hd hn
    rw [hcount]
    exact Nat.mul_div_cancel' (Nat.dvd_of_mod_eq_zero hwhole)

end Lengths

section Addition

variable {key : String} {c d : Context} {sizes : NameMap Nat}

theorem VectorAdd.sizes_of_prepare
    (h : (VectorAdd.adapter key).prepare c = (.ok sizes, d)) :
    ∃ n : UInt32, d.scalars.get? lengthName = some (.ofU32 n) ∧
      sizes = .single "C" (4 * n.toNat) := by
  obtain ⟨_, _, _, _, hsizes⟩ := Adapter.prepare_eq_ok_iff.1 h
  obtain ⟨n, hn, rfl⟩ := VectorAdd.outputSizes_eq_ok_iff.1 hsizes
  obtain ⟨v, hv⟩ := exists_length_of_prepare (a := VectorAdd.adapter key) rfl h
  rcases elementCount_eq_ok_iff.1 hn with hlength | ⟨hnone, _⟩
  · exact ⟨n, hlength, by rw [VectorAdd.elementSize, bytesOf_four]⟩
  · rw [hnone] at hv
    cases hv

theorem VectorAdd.inputs_of_prepare
    (h : (VectorAdd.adapter key).prepare c = (.ok sizes, d))
    {n : UInt32}
    (hn : d.scalars.get? lengthName = some (.ofU32 n)) :
    ∃ bytes, d.hostSizes.get? "A" = some bytes ∧ d.hostSizes.get? "B" = some bytes ∧
      bytes % 4 = 0 ∧ 4 * n.toNat ≤ bytes := by
  have hmatch : VectorAdd.addendSizesMatch d = true := Adapter.inputSizesValid_of_prepare h
  obtain ⟨bytes, m, hA, hB, hm, hwhole, hle⟩ := (VectorAdd.addendSizesMatch_iff d).1 hmatch
  have hmn : m = bytesOf n 4 := by
    simpa [VectorAdd.checkedBytes?, VectorAdd.elementSize, hn, eq_comm] using hm
  rw [hmn, bytesOf_four] at hle
  exact ⟨bytes, hA, hB, hwhole, hle⟩

theorem overall_of_linearLaunch
    {buffer : String} {elementSize : Nat} {n : UInt32}
    (hn : d.scalars.get? lengthName = some (.ofU32 n))
    {l : LaunchComponents}
    (hl : linearLaunch key d buffer elementSize = .ok l) :
    l.overall = some (.linear n) := by
  obtain ⟨m, limit, hm, _, _, rfl⟩ := linearLaunch_eq_ok_iff.1 hl
  rcases elementCount_eq_ok_iff.1 hm with hlength | ⟨hnone, _⟩
  · rw [length_unique hlength hn]
  · rw [hnone] at hn
    cases hn

/-- The count `n` that is behind all that preparing a vector addition settles, for a
context `c` that is prepared to `d`. -/
structure CountsTo (a : Adapter) (c d : Context) (sizes : NameMap Nat) (n : UInt32) :
    Prop where
  length : d.scalars.get? lengthName = some (.ofU32 n)
  /-- No index below the count runs past the end of an addend. -/
  inputs : ∃ bytes, d.hostSizes.get? "A" = some bytes ∧ d.hostSizes.get? "B" = some bytes ∧
    bytes % 4 = 0 ∧ 4 * n.toNat ≤ bytes
  output : sizes = .single "C" (4 * n.toNat)
  launch : d.forced.isSufficient = false →
    ∀ l, a.makeLaunch d = .ok l → l.overall = some ⟨n, 1, 1⟩
  generated : c.scalars.get? lengthName = none → c.hostSizes.get? "A" = some (4 * n.toNat)
  /-- The product that the addends are checked and the sum is sized with does not overflow. -/
  bytes : bytesOf n 4 = 4 * n.toNat

/-- One count is behind all that preparing a vector addition settles. -/
theorem exists_countsTo_of_prepare
    {a : Adapter}
    (ha : a ∈ [vectorAdd, openClVectorAdd])
    {c d : Context} {sizes : NameMap Nat}
    (h : a.prepare c = (.ok sizes, d)) :
    ∃ n, CountsTo a c d sizes n := by
  obtain ⟨key, rfl⟩ : ∃ key, a = VectorAdd.adapter key := by
    simp only [List.mem_cons, List.not_mem_nil, or_false] at ha
    rcases ha with rfl | rfl
    · exact ⟨_, rfl⟩
    · exact ⟨_, rfl⟩
  obtain ⟨n, hn, hsizes⟩ := VectorAdd.sizes_of_prepare h
  obtain ⟨bytes, hA, hB, hwhole, hle⟩ := VectorAdd.inputs_of_prepare h hn
  refine ⟨n, hn, ⟨bytes, hA, hB, hwhole, hle⟩, hsizes, ?_, ?_, bytesOf_four n⟩
  · intro hforced l hl
    rw [Adapter.makeLaunch_of_insufficient hforced] at hl
    exact overall_of_linearLaunch hn hl
  · intro hnone
    have hfull : VectorAdd.elementSize * n.toNat = bytes :=
      mul_length_of_prepare (a := VectorAdd.adapter key) rfl h hnone hn hA hwhole
    rw [← Adapter.hostSizes_of_prepare h, hA, ← hfull, VectorAdd.elementSize]

/-- Four floats on each side, a forced block without a grid, and no length. -/
def additionWithoutLength : Context :=
  { ecosystem := .openCl
    hostSizes := .ofList [("A", 16), ("B", 16)]
    forced := { block := some (.linear 2) } }

theorem exists_countsTo_additionWithoutLength :
    openClVectorAdd ∈ [vectorAdd, openClVectorAdd] ∧
      openClVectorAdd.prepare additionWithoutLength =
        (.ok (.single "C" 16), withLength additionWithoutLength 4) ∧
      ∃ n, CountsTo openClVectorAdd additionWithoutLength
        (withLength additionWithoutLength 4) (.single "C" 16) n :=
  ⟨by simp, rfl, exists_countsTo_of_prepare (by simp) rfl⟩

end Addition

section Unchecked

/-- A kernel whose inputs have the same whole number of four-byte elements, and whose
checks and output sizes do not look at the scalars. -/
structure LengthUnchecked (a : Adapter) (lead : String) (inputs : List String) : Prop where
  generate : a.generateScalars = fun c => generateLength c lead 4
  lead_mem : lead ∈ inputs
  sizes : ∀ c, a.inputSizesValid c = true →
    ∃ bytes, bytes % 4 = 0 ∧ ∀ name ∈ inputs, c.hostSizes.get? name = some bytes
  checks : ∀ c d : Context, c.hostSizes = d.hostSizes → c.definitions = d.definitions →
    a.extraChecks c = a.extraChecks d ∧ a.inputSizesValid c = a.inputSizesValid d
  outputs : ∀ hostSizes args args' definitions,
    a.outputSizes hostSizes args definitions = a.outputSizes hostSizes args' definitions

theorem lengthUnchecked_saxpy : LengthUnchecked saxpy "x" ["x", "y"] where
  generate := rfl
  lead_mem := by simp
  sizes := by
    intro c hc
    obtain ⟨bytes, hx, hy, hwhole⟩ := (Saxpy.inputSizesValid_iff c).1 hc
    exact ⟨bytes, hwhole, by simp [hx, hy]⟩
  checks := by
    intro c d hsizes _
    refine ⟨rfl, ?_⟩
    show Saxpy.inputSizesValid c = Saxpy.inputSizesValid d
    rw [Saxpy.inputSizesValid, Saxpy.inputSizesValid, hsizes]
  outputs := fun _ _ _ _ => rfl

theorem lengthUnchecked_histogram : LengthUnchecked histogram "data" ["data"] where
  generate := rfl
  lead_mem := by simp
  sizes := by
    intro c hc
    obtain ⟨bytes, hdata, hwhole⟩ := (Histogram.inputSizesValid_iff c).1 hc
    exact ⟨bytes, hwhole, by simp [hdata]⟩
  checks := by
    intro c d hsizes hdefinitions
    constructor
    · show Histogram.extraChecks c = Histogram.extraChecks d
      rw [Histogram.extraChecks, Histogram.extraChecks, hdefinitions]
    · show Histogram.inputSizesValid c = Histogram.inputSizesValid d
      rw [Histogram.inputSizesValid, Histogram.inputSizesValid, hsizes]
  outputs := fun _ _ _ _ => rfl

variable {a : Adapter} {lead : String} {inputs : List String}
variable {c d : Context} {sizes : NameMap Nat}

/-- The count stays within the inputs exactly if the user supplied none or one that does. -/
theorem LengthUnchecked.inBounds_iff
    (ha : LengthUnchecked a lead inputs)
    (h : a.prepare c = (.ok sizes, d))
    {n : UInt32}
    (hn : d.scalars.get? lengthName = some (.ofU32 n)) :
    InBounds d inputs n ↔
      ∀ m, c.scalars.get? lengthName = some (.ofU32 m) → InBounds c inputs m := by
  rcases length_of_prepare ha.generate h with ⟨_, rfl⟩ | ⟨hnone, _⟩
  -- A supplied length is the one that is left, so both sides speak of it.
  · constructor
    · intro hin m hm
      rw [length_unique hm hn]
      exact hin
    · intro hin
      exact hin n hn
  -- A generated one always fits, and the user has supplied none.
  · obtain ⟨bytes, hwhole, hinputs⟩ := ha.sizes d (Adapter.inputSizesValid_of_prepare h)
    have hfull : 4 * n.toNat = bytes :=
      mul_length_of_prepare ha.generate h hnone hn (hinputs lead ha.lead_mem) hwhole
    constructor
    · intro _ m hm
      rw [hnone] at hm
      cases hm
    · intro _ name hname
      exact ⟨bytes, hinputs name hname, Nat.le_of_eq hfull⟩

/-- Whatever length the user supplies, preparing takes it. -/
theorem LengthUnchecked.prepare_withLength
    (ha : LengthUnchecked a lead inputs)
    (h : a.prepare c = (.ok sizes, d))
    (m : UInt32) :
    a.prepare (withLength c m) = (.ok sizes, withLength c m) := by
  obtain ⟨g, hg, rfl, hvalid, hsizes⟩ := Adapter.prepare_eq_ok_iff.1 h
  obtain ⟨hdefinitions, hscalars, hbuffers, hextra, hinput⟩ :=
    (Adapter.validate_eq_ok_iff a _).1 hvalid
  obtain ⟨hextra', hinput'⟩ := ha.checks (withLength c m) (c.mergeScalars g) rfl rfl
  rw [ha.generate] at hg
  refine Adapter.prepare_eq_ok_iff.2 ⟨.empty, ?_, rfl, ?_, ?_⟩
  · rw [ha.generate]
    exact generateLength_eq_ok_iff.2 (Or.inl ⟨by simp [withLength, NameMap.contains], rfl⟩)
  · rw [Adapter.validate_eq_ok_iff]
    refine ⟨hdefinitions, ?_, hbuffers, hextra'.trans hextra, hinput'.trans hinput⟩
    -- A required scalar is the length, or was there without the length that was generated.
    intro name hname
    have hmerged := hscalars name hname
    by_cases hlength : lengthName = name
    · simp [withLength, NameMap.contains, hlength]
    · simpa [withLength, NameMap.contains, hlength, Context.get?_mergeScalars,
        get?_of_generateLength hg hlength] using hmerged
  · rw [← hsizes]
    exact ha.outputs _ _ _ _

/-- For the kernels that are not vector additions the count stays within the inputs
exactly if the user supplied no length or one that does; and nothing stands in the way of
any other, since a context that can be prepared can be so with every length. -/
theorem inBounds_iff_of_prepare
    (ha : (a, inputs) ∈ [(saxpy, ["x", "y"]), (histogram, ["data"])])
    (h : a.prepare c = (.ok sizes, d))
    {n : UInt32}
    (hn : d.scalars.get? lengthName = some (.ofU32 n)) :
    (InBounds d inputs n ↔
        ∀ m, c.scalars.get? lengthName = some (.ofU32 m) → InBounds c inputs m) ∧
      ∀ m, a.prepare (withLength c m) = (.ok sizes, withLength c m) := by
  obtain ⟨lead, hlead⟩ : ∃ lead, LengthUnchecked a lead inputs := by
    simp only [List.mem_cons, Prod.mk.injEq, List.not_mem_nil, or_false] at ha
    rcases ha with ⟨rfl, rfl⟩ | ⟨rfl, rfl⟩
    · exact ⟨_, lengthUnchecked_saxpy⟩
    · exact ⟨_, lengthUnchecked_histogram⟩
  exact ⟨hlead.inBounds_iff h hn, hlead.prepare_withLength h⟩

/-- Four floats in each vector and a scale factor of two. -/
def saxpyWithoutLength : Context :=
  { hostSizes := .ofList [("x", 16), ("y", 16)]
    scalars := .single "a" (.float .single 0x40000000#32) }

/-- Four samples for eight bins. -/
def histogramWithoutLength : Context :=
  { hostSizes := .single "data" 16
    definitions := Definitions.empty.withValue Histogram.numBinsName "8" }

theorem inBounds_iff_saxpyWithoutLength :
    (saxpy, ["x", "y"]) ∈ [(saxpy, ["x", "y"]), (histogram, ["data"])] ∧
      saxpy.prepare saxpyWithoutLength =
        (.ok (.single "y" 16), withLength saxpyWithoutLength 4) ∧
      (withLength saxpyWithoutLength 4).scalars.get? lengthName = some (.ofU32 4) ∧
      (InBounds (withLength saxpyWithoutLength 4) ["x", "y"] 4 ↔
        ∀ m, saxpyWithoutLength.scalars.get? lengthName = some (.ofU32 m) →
          InBounds saxpyWithoutLength ["x", "y"] m) ∧
      ∀ m, saxpy.prepare (withLength saxpyWithoutLength m) =
        (.ok (.single "y" 16), withLength saxpyWithoutLength m) :=
  ⟨by simp, rfl, rfl, inBounds_iff_of_prepare (by simp) rfl rfl⟩

/-- With four elements in the inputs both kernels are prepared for a length of five. -/
theorem not_inBounds_of_prepare :
    (saxpy.prepare (withLength saxpyWithoutLength 5) =
        (.ok (.single "y" 16), withLength saxpyWithoutLength 5) ∧
      (withLength saxpyWithoutLength 5).scalars.get? lengthName = some (.ofU32 5) ∧
      ¬InBounds (withLength saxpyWithoutLength 5) ["x", "y"] 5) ∧
    (histogram.prepare (withLength histogramWithoutLength 5) =
        (.ok (.single "bins" 32), withLength histogramWithoutLength 5) ∧
      (withLength histogramWithoutLength 5).scalars.get? lengthName = some (.ofU32 5) ∧
      ¬InBounds (withLength histogramWithoutLength 5) ["data"] 5) := by
  refine ⟨⟨rfl, rfl, ?_⟩, ⟨rfl, rfl, ?_⟩⟩
  · intro hin
    obtain ⟨bytes, hbytes, hle⟩ := hin "x" (by simp)
    obtain rfl : 16 = bytes := Option.some.inj hbytes
    exact absurd hle (by decide)
  · intro hin
    obtain ⟨bytes, hbytes, hle⟩ := hin "data" (by simp)
    obtain rfl : 16 = bytes := Option.some.inj hbytes
    exact absurd hle (by decide)

end Unchecked

end Kernels
end KernelLaunch
