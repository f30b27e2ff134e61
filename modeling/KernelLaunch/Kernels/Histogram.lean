import KernelLaunch.Kernels.Linear

/-!
# Histogram

Counts how often each 32-bit sample occurs, into as many bins as the definition
`NUM_BINS` says.  With `USE_SHARED_MEMORY` each block counts into bins of its own in
shared memory first.

**Results.**
* `toNat_saturatingMul`: the amount of shared memory is exact unless it is capped.
* `deduceLaunch_eq_ok_iff`: when a launch is deduced, and which.
* `deduceLaunch_congr`: what a deduced launch follows from.
-/

namespace KernelLaunch
namespace Kernels
namespace Histogram

section Shared

/-- The product of two 32-bit numbers, or the largest 32-bit number if that is less. -/
def saturatingMul (a b : UInt32) : UInt32 :=
  UInt32.ofNat (min (a.toNat * b.toNat) (UInt32.size - 1))

/-- The product is exact unless it is capped. -/
theorem toNat_saturatingMul (a b : UInt32) :
    (saturatingMul a b).toNat = min (a.toNat * b.toNat) (UInt32.size - 1) := by
  have hsize : UInt32.size = 4294967296 := rfl
  rw [saturatingMul, UInt32.toNat_ofNat_of_lt']
  omega

end Shared

section Tables

/-- Size of a sample in bytes. -/
def sampleSize : Nat := 4

/-- Size of a bin in bytes. -/
def binSize : UInt32 := 4

/-- The definition of the number of bins. -/
def numBinsName : String := "NUM_BINS"

/-- The definition that asks for bins in shared memory. -/
def sharedMemoryName : String := "USE_SHARED_MEMORY"

/-- The samples and the bins. -/
def buffers : List BufferDescriptor :=
  [⟨"data", .input, "Samples, each a bin index"⟩, ⟨"bins", .output, "Per-bin counts"⟩]

/-- The number of samples. -/
def scalars : List ScalarDescriptor :=
  [⟨lengthName, "Number of samples; defaults to the length of data"⟩]

/-- The kind of the number of samples. -/
def scalarKinds : List (String × ScalarKind) := [(lengthName, .int .u32)]

/-- The number of bins and the use of shared memory. -/
def definitions : List DefinitionDescriptor :=
  [⟨numBinsName, true, "Number of bins"⟩,
    ⟨sharedMemoryName, false, "Accumulate per-block bins in shared memory"⟩]

end Tables

section Queries

/-- The definitions say how many bins there are. -/
def HasBinCount (c : Context) (n : UInt32) : Prop :=
  ∃ value, c.definitions.value? numBinsName = some value ∧ IsPositiveNumeral value n

theorem hasBinCount_iff {c : Context} {n : UInt32} :
    HasBinCount c n ↔ requiredPositiveDefinition c.definitions.valued numBinsName = .ok n :=
  requiredPositiveDefinition_eq_ok_iff.symm

theorem HasBinCount.unique {c : Context} {m n : UInt32} (hm : HasBinCount c m)
    (hn : HasBinCount c n) :
    m = n := by
  rw [hasBinCount_iff] at hm hn
  exact Except.ok.inj (hm.symm.trans hn)

/-- The bins that are defined are allocated. -/
def outputSizes (d : Definitions) : Except AdapterError (NameMap Nat) :=
  (requiredPositiveDefinition d.valued numBinsName).map fun n =>
    .single "bins" (bytesOf n binSize.toNat)

theorem outputSizes_eq_ok_iff {d : Definitions} {sizes : NameMap Nat} :
    outputSizes d = .ok sizes ↔
      ∃ n, requiredPositiveDefinition d.valued numBinsName = .ok n ∧
        sizes = .single "bins" (bytesOf n binSize.toNat) := by
  rw [outputSizes, map_eq_ok_iff]

/-- Whether the number of bins is defined and positive. -/
def extraChecks (c : Context) : Bool :=
  match positiveDefinition c.definitions.valued numBinsName with
  | .ok (some _) => true
  | _ => false

/-- Whether there is a whole number of samples. -/
def inputSizesValid (c : Context) : Bool :=
  match c.hostSizes.get? "data" with
  | some bytes => bytes % sampleSize == 0
  | none => false

theorem inputSizesValid_iff (c : Context) :
    inputSizesValid c = true ↔
      ∃ bytes, c.hostSizes.get? "data" = some bytes ∧ bytes % sampleSize = 0 := by
  unfold inputSizesValid
  cases c.hostSizes.get? "data" <;> simp

/-- One thread for each sample, with shared memory for the bins where that is asked for. -/
def deduceLaunch (key : String) (c : Context) : Except AdapterError LaunchComponents :=
  match linearLaunch key c "data" sampleSize with
  | .error e => .error e
  | .ok components =>
      if c.definitions.isDefined sharedMemoryName then
        (requiredPositiveDefinition c.definitions.valued numBinsName).map fun n =>
          { components with sharedMemory := some (saturatingMul n binSize) }
      else .ok components

/-- A launch is deduced as for any vector, and only the bins in shared memory can be
missing from it. -/
theorem deduceLaunch_eq_ok_iff {key : String} {c : Context} {l : LaunchComponents} :
    deduceLaunch key c = .ok l ↔
      ∃ components, linearLaunch key c "data" sampleSize = .ok components ∧
        ((c.definitions.isDefined sharedMemoryName = false ∧ l = components) ∨
          (c.definitions.isDefined sharedMemoryName = true ∧
            ∃ n, requiredPositiveDefinition c.definitions.valued numBinsName = .ok n ∧
              l = { components with sharedMemory := some (saturatingMul n binSize) })) := by
  rw [deduceLaunch]
  cases linearLaunch key c "data" sampleSize with
  | error e => simp
  | ok components =>
      cases c.definitions.isDefined sharedMemoryName with
      | false => simp [eq_comm]
      | true => simp [map_eq_ok_iff]

/-- Of the definitions the bins and their place matter, besides what the row of threads
follows from. -/
theorem deduceLaunch_congr {key : String} {c d : Context}
    (hlinear : linearLaunch key c "data" sampleSize = linearLaunch key d "data" sampleSize)
    (hshared : c.definitions.isDefined sharedMemoryName =
      d.definitions.isDefined sharedMemoryName)
    (hbins : c.definitions.value? numBinsName = d.definitions.value? numBinsName) :
    deduceLaunch key c = deduceLaunch key d := by
  rw [deduceLaunch, deduceLaunch, hlinear, hshared, requiredPositiveDefinition_congr hbins]

end Queries

end Histogram

/-- Histogram of 32-bit samples. -/
def histogram : Adapter where
  key := "histogram"
  functionName := "histogram"
  buffers := Histogram.buffers
  scalars := Histogram.scalars
  scalarKinds := Histogram.scalarKinds
  definitions := Histogram.definitions
  generateScalars := fun c => generateLength c "data" Histogram.sampleSize
  outputSizes := fun _ _ d => Histogram.outputSizes d
  extraChecks := Histogram.extraChecks
  inputSizesValid := Histogram.inputSizesValid
  parameters := fun _ =>
    Histogram.buffers.map BufferDescriptor.parameter ++ [.scalar lengthName (.int .u32)]
  deduceLaunch := Histogram.deduceLaunch "histogram"

end Kernels
end KernelLaunch
