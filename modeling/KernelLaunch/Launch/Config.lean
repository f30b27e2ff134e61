import KernelLaunch.Launch.Dimensions

/-!
# Launch configurations

A fully specified launch has a grid of blocks, a block of threads and an amount
of dynamic shared memory per block.

**Results.**
* `toNat_globalWorkSize`: the work sizes are the exact products.
* `totalThreads_eq_some_iff`, `exists_totalThreads`: the number of threads is given
  exactly if it fits in 128 bits.
-/

namespace KernelLaunch

/-- A fully specified launch. -/
structure LaunchConfig where
  grid : Dimensions
  block : Dimensions
  sharedMemory : UInt32
  deriving DecidableEq

namespace LaunchConfig

/-- Threads along each axis. -/
def globalWorkSize (c : LaunchConfig) : UInt64 × UInt64 × UInt64 :=
  c.grid.mulWide c.block

/-- Threads of one block along each axis. -/
def localWorkSize (c : LaunchConfig) : UInt64 × UInt64 × UInt64 :=
  (c.block.x.toUInt64, c.block.y.toUInt64, c.block.z.toUInt64)

/-- The number of all threads, if it fits in 128 bits. -/
def totalThreads (c : LaunchConfig) : Option (BitVec 128) :=
  if BitVec.umulOverflow c.grid.volume c.block.volume then none
  else some (c.grid.volume * c.block.volume)

/-- The launch as shown in messages. -/
def text (c : LaunchConfig) : String :=
  let bytes := Text.decimalText c.sharedMemory.toNat
  s!"grid {c.grid.text}, block {c.block.text}, {bytes} bytes dynamic shared memory"

/-- The work sizes are the exact products. -/
theorem toNat_globalWorkSize (c : LaunchConfig) :
    c.globalWorkSize.1.toNat = c.grid.x.toNat * c.block.x.toNat ∧
      c.globalWorkSize.2.1.toNat = c.grid.y.toNat * c.block.y.toNat ∧
      c.globalWorkSize.2.2.toNat = c.grid.z.toNat * c.block.z.toNat :=
  ⟨Dimensions.toNat_mul_toUInt64 _ _, Dimensions.toNat_mul_toUInt64 _ _,
    Dimensions.toNat_mul_toUInt64 _ _⟩

/-- The number of threads is given exactly if it fits in 128 bits. -/
theorem totalThreads_eq_some_iff (c : LaunchConfig) (t : BitVec 128) :
    c.totalThreads = some t ↔
      t.toNat = c.grid.volume.toNat * c.block.volume.toNat := by
  have ht := t.isLt
  unfold totalThreads BitVec.umulOverflow
  split
  · rename_i h
    simp only [reduceCtorEq, false_iff]
    intro heq
    rw [decide_eq_true_eq, ge_iff_le, ← heq] at h
    omega
  · rename_i h
    rw [decide_eq_true_eq, ge_iff_le, Nat.not_le] at h
    rw [Option.some.injEq, ← BitVec.toNat_inj, BitVec.toNat_mul, Nat.mod_eq_of_lt h]
    exact eq_comm

/-- The threads are those of all points of the work sizes. -/
theorem toNat_volume_mul_volume (c : LaunchConfig) :
    c.grid.volume.toNat * c.block.volume.toNat =
      c.globalWorkSize.1.toNat * c.globalWorkSize.2.1.toNat * c.globalWorkSize.2.2.toNat := by
  obtain ⟨hx, hy, hz⟩ := c.toNat_globalWorkSize
  rw [hx, hy, hz, Dimensions.toNat_volume, Dimensions.toNat_volume, Nat.mul_mul_mul_comm,
    Nat.mul_mul_mul_comm c.grid.x.toNat]

/-- Threads that fit in 128 bits are counted. -/
theorem exists_totalThreads
    (c : LaunchConfig)
    (h : c.grid.volume.toNat * c.block.volume.toNat < 1 <<< 128) :
    ∃ t, c.totalThreads = some t ∧
      t.toNat = c.grid.volume.toNat * c.block.volume.toNat := by
  have ht : (BitVec.ofNat 128 (c.grid.volume.toNat * c.block.volume.toNat)).toNat =
      c.grid.volume.toNat * c.block.volume.toNat := by
    rw [BitVec.toNat_ofNat]
    exact Nat.mod_eq_of_lt h
  exact ⟨_, (c.totalThreads_eq_some_iff _).2 ht, ht⟩

end LaunchConfig

end KernelLaunch
