import KernelLaunch.Proofs.ElementCount

/-!
# Bins in shared memory

With bins in shared memory each block counts into a copy of its own, whose size is a part of
the launch.  So the size of the bins is worked out twice: in 64 bits where they are allocated,
and in 32 bits where the copy is asked for.

The product in 64 bits is exact.  The product in 32 bits is capped, so from 2^30 bins on the
copy that is asked for is smaller than the bins.

**Results.**
* `sizesBins_of_row`: the two sizes for a number of bins, and when they agree.
* `sizesBins_of_shared`: they are those for the number of bins that is defined.
* `not_fullCopy_binsInShared`: with 2^30 bins they differ.
-/

namespace KernelLaunch
namespace Kernels

section Definitions

/-- The copy of the bins that a block gets is as large as the bins. -/
def FullCopy (sizes : NameMap Nat) (parts : LaunchComponents) : Prop :=
  ∃ shared, parts.sharedMemory = some shared ∧ sizes.get? "bins" = some shared.toNat

/-- What is allocated and what is asked for with the launch, for `n` bins. -/
structure SizesBins (sizes : NameMap Nat) (parts : LaunchComponents) (n : UInt32) : Prop where
  /-- The bins are allocated with a product that is exact in 64 bits. -/
  allocated : sizes = .single "bins" (bytesOf n 4)
  exact : bytesOf n 4 = 4 * n.toNat
  /-- The copy has the size of the bins or the largest size of 32 bits. -/
  copied : ∃ shared, parts.sharedMemory = some shared ∧
    shared.toNat = min (4 * n.toNat) (UInt32.size - 1)
  full : FullCopy sizes parts ↔ 4 * n.toNat < UInt32.size

end Definitions

section Sizes

variable {c : Context} {n : UInt32} {sizes : NameMap Nat} {parts : LaunchComponents}

theorem fullCopy_iff
    {shared : UInt32} {bytes : Nat}
    (hshared : parts.sharedMemory = some shared) :
    FullCopy (.single "bins" bytes) parts ↔ bytes = shared.toNat := by
  simp [FullCopy, hshared]

/-- A row of threads with a copy of `n` bins for each block asks for the whole copy exactly if
its size fits in 32 bits. -/
theorem sizesBins_of_row (row : LaunchComponents) (n : UInt32) :
    SizesBins (.single "bins" (bytesOf n Histogram.binSize.toNat))
      { row with sharedMemory := some (Histogram.saturatingMul n Histogram.binSize) } n := by
  have hbin : Histogram.binSize.toNat = 4 := rfl
  have hsize : UInt32.size = 4294967296 := rfl
  have hexact := bytesOf_four n
  have hcopied := Histogram.toNat_saturatingMul n Histogram.binSize
  rw [hbin, Nat.mul_comm] at hcopied
  rw [hbin]
  refine ⟨rfl, hexact, ⟨_, rfl, hcopied⟩, ?_⟩
  rw [fullCopy_iff rfl, hcopied, hexact]
  omega

/-- Where bins in shared memory are asked for, the bins are allocated in full, but a block's
copy of them is full only if its size fits in 32 bits. -/
theorem sizesBins_of_shared
    (hshared : c.definitions.isDefined Histogram.sharedMemoryName = true)
    (hsizes : histogram.outputSizes c.hostSizes c.scalars c.definitions = .ok sizes)
    (hparts : histogram.deduceLaunch c = .ok parts) :
    (∃ n, Histogram.HasBinCount c n) ∧
      ∀ n, Histogram.HasBinCount c n → SizesBins sizes parts n := by
  obtain ⟨n, hn, rfl⟩ := Histogram.outputSizes_eq_ok_iff.1 hsizes
  have hbins := Histogram.hasBinCount_iff.2 hn
  obtain ⟨row, _, ⟨hopen, _⟩ | ⟨_, m, hm, rfl⟩⟩ := Histogram.deduceLaunch_eq_ok_iff.1 hparts
  · rw [hshared] at hopen
    cases hopen
  -- Both sizes come from one definition, so from one number.
  · obtain rfl := hbins.unique (Histogram.hasBinCount_iff.2 hm)
    refine ⟨⟨n, hbins⟩, fun k hk => ?_⟩
    obtain rfl := hbins.unique hk
    exact sizesBins_of_row row n

/-- Four samples, and bins in shared memory. -/
def binsInShared (numBins : String) : Context :=
  { hostSizes := .single "data" 16
    definitions :=
      (Definitions.empty.withFlag Histogram.sharedMemoryName).withValue
        Histogram.numBinsName numBins }

/-- The largest number of bins of which a block gets a full copy. -/
theorem sizesBins_binsInShared :
    histogram.outputSizes (binsInShared "+1073741823 ").hostSizes
        (binsInShared "+1073741823 ").scalars (binsInShared "+1073741823 ").definitions =
      .ok (.single "bins" 4294967292) ∧
    histogram.deduceLaunch (binsInShared "+1073741823 ") =
      .ok { overall := some (.linear 4), block := some (.linear 4),
            sharedMemory := some 4294967292 } ∧
    (∃ n, Histogram.HasBinCount (binsInShared "+1073741823 ") n) ∧
    ∀ n, Histogram.HasBinCount (binsInShared "+1073741823 ") n →
      SizesBins (.single "bins" 4294967292)
        { overall := some (.linear 4), block := some (.linear 4),
          sharedMemory := some 4294967292 } n :=
  ⟨by rfl, by rfl, sizesBins_of_shared (by rfl) (by rfl) (by rfl)⟩

/-- With one bin more the copy is a byte short. -/
theorem not_fullCopy_binsInShared :
    (binsInShared "1073741824").definitions.isDefined Histogram.sharedMemoryName = true ∧
    histogram.outputSizes (binsInShared "1073741824").hostSizes
        (binsInShared "1073741824").scalars (binsInShared "1073741824").definitions =
      .ok (.single "bins" 4294967296) ∧
    histogram.deduceLaunch (binsInShared "1073741824") =
      .ok { overall := some (.linear 4), block := some (.linear 4),
            sharedMemory := some 4294967295 } ∧
    ¬FullCopy (.single "bins" 4294967296)
      { overall := some (.linear 4), block := some (.linear 4),
        sharedMemory := some 4294967295 } := by
  refine ⟨by rfl, by rfl, by rfl, ?_⟩
  rw [fullCopy_iff rfl]
  decide

end Sizes

end Kernels
end KernelLaunch
