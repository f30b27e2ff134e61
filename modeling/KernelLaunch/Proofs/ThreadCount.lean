import KernelLaunch.Launch.Config
import Mathlib.Algebra.BigOperators.Group.List.Basic

/-!
# Thread counts

The threads of a launch are counted along each axis, in 64 bits, and in all, in 128 bits.
What a product should be is said here over the natural numbers.  A product that is taken from
the left may overflow at any factor, also where a later factor is zero, so a machine product is
compared with one that is checked at each factor.

    factors   no more than                  product
    2         64 bits                       work size along one axis
    3         96 bits                       points of a grid or of a block
    6         192 bits, so it may not fit   threads of a launch

**Results.**
* `checkedMul_eq_some_iff`, `exists_foldlM_checkedMul`: one factor, and all factors, of a
  product that has room for them.
* `exactProduct_of_toNat`: a machine product of few factors is exact and has not overflowed.
* `LaunchConfig.countsExactly`: the work sizes, the volumes and the number of threads are exact.
-/

namespace KernelLaunch

section Products

variable {w : Nat}

/-- The product of numbers, whatever its size. -/
def trueProduct (ns : List UInt32) : Nat :=
  (ns.map UInt32.toNat).prod

/-- A product with one factor more, if that has no more than `w` bits. -/
def checkedMul (p : BitVec w) (n : UInt32) : Option (BitVec w) :=
  if p.toNat * n.toNat < 2 ^ w then some (BitVec.ofNat w (p.toNat * n.toNat)) else none

/-- The word is the product of the numbers, and no factor has made it overflow. -/
structure ExactProduct (p : BitVec w) (ns : List UInt32) : Prop where
  exact : p.toNat = trueProduct ns
  noOverflow : ns.foldlM checkedMul 1#w = some p

@[simp] theorem trueProduct_nil : trueProduct [] = 1 := rfl

@[simp] theorem trueProduct_cons (n : UInt32) (ns : List UInt32) :
    trueProduct (n :: ns) = n.toNat * trueProduct ns := by
  rw [trueProduct, List.map_cons, List.prod_cons, trueProduct]

theorem trueProduct_append (ms ns : List UInt32) :
    trueProduct (ms ++ ns) = trueProduct ms * trueProduct ns := by
  rw [trueProduct, List.map_append, List.prod_append, trueProduct, trueProduct]

theorem checkedMul_eq_some_iff {p q : BitVec w} {n : UInt32} :
    checkedMul p n = some q ↔ q.toNat = p.toNat * n.toNat := by
  have hq := q.isLt
  rw [checkedMul]
  split
  · rename_i h
    rw [Option.some.injEq, ← BitVec.toNat_inj, BitVec.toNat_ofNat, Nat.mod_eq_of_lt h]
    exact eq_comm
  · rename_i h
    simp only [reduceCtorEq, false_iff]
    intro heq
    exact h (heq ▸ hq)

/-- Each factor has 32 bits, so a product that has room for that many more does not overflow. -/
theorem exists_foldlM_checkedMul
    {p : BitVec w}
    {k : Nat}
    {ns : List UInt32}
    (hp : p.toNat ≤ 2 ^ k)
    (hroom : k + 32 * ns.length ≤ w) :
    ∃ q, ns.foldlM checkedMul p = some q ∧ q.toNat = p.toNat * trueProduct ns := by
  -- With each factor the bound grows by 32 bits, which the rest needs less.
  induction ns generalizing p k with
  | nil => exact ⟨p, rfl, by simp⟩
  | cons n ns ih =>
      rw [List.length_cons] at hroom
      have hn : n.toNat < 2 ^ 32 := n.toNat_lt
      have hlt : p.toNat * n.toNat < 2 ^ (k + 32) :=
        calc p.toNat * n.toNat
            ≤ 2 ^ k * n.toNat := Nat.mul_le_mul_right _ hp
          _ < 2 ^ k * 2 ^ 32 := Nat.mul_lt_mul_of_pos_left hn (Nat.two_pow_pos k)
          _ = 2 ^ (k + 32) := (Nat.pow_add 2 k 32).symm
      have hfits : p.toNat * n.toNat < 2 ^ w :=
        Nat.lt_of_lt_of_le hlt (Nat.pow_le_pow_right (by decide) (by omega))
      have hq : (BitVec.ofNat w (p.toNat * n.toNat)).toNat = p.toNat * n.toNat := by
        rw [BitVec.toNat_ofNat, Nat.mod_eq_of_lt hfits]
      obtain ⟨r, hr, hvalue⟩ := ih (hq ▸ Nat.le_of_lt hlt) (by omega)
      refine ⟨r, ?_, ?_⟩
      · rw [List.foldlM_cons, checkedMul_eq_some_iff.2 hq]
        exact hr
      · rw [hvalue, hq, trueProduct_cons, Nat.mul_assoc]

/-- A machine product of few factors is exact and has not overflowed. -/
theorem exactProduct_of_toNat
    {p : BitVec w}
    {ns : List UInt32}
    (hw : 0 < w)
    (hroom : 32 * ns.length ≤ w)
    (hp : p.toNat = trueProduct ns) :
    ExactProduct p ns := by
  have hone : (1#w).toNat = 1 := BitVec.toNat_one hw
  have hroom : 0 + 32 * ns.length ≤ w := by omega
  obtain ⟨q, hq, hvalue⟩ := exists_foldlM_checkedMul (Nat.le_of_eq hone) hroom
  have hpq : p = q := by
    rw [← BitVec.toNat_inj, hp, hvalue, hone, Nat.one_mul]
  exact ⟨hp, hpq ▸ hq⟩

end Products

namespace LaunchConfig

variable (c : LaunchConfig)

/-- The axes of the grid and of the block. -/
def axes : List UInt32 :=
  [c.grid.x, c.grid.y, c.grid.z] ++ [c.block.x, c.block.y, c.block.z]

/-- The products of the axes of a launch, and the number of its threads. -/
structure CountsExactly : Prop where
  x : ExactProduct c.globalWorkSize.1.toBitVec [c.grid.x, c.block.x]
  y : ExactProduct c.globalWorkSize.2.1.toBitVec [c.grid.y, c.block.y]
  z : ExactProduct c.globalWorkSize.2.2.toBitVec [c.grid.z, c.block.z]
  grid : ExactProduct c.grid.volume [c.grid.x, c.grid.y, c.grid.z]
  block : ExactProduct c.block.volume [c.block.x, c.block.y, c.block.z]
  counted : ∀ t, c.totalThreads = some t ↔ t.toNat = trueProduct c.axes
  /-- The number of threads is left open only where 128 bits do not hold it. -/
  fits : (∃ t, c.totalThreads = some t) ↔ trueProduct c.axes < 2 ^ 128
  overflows : c.totalThreads = none ↔ 2 ^ 128 ≤ trueProduct c.axes
  points : ∀ t, c.totalThreads = some t →
    t.toNat = c.globalWorkSize.1.toNat * c.globalWorkSize.2.1.toNat * c.globalWorkSize.2.2.toNat
  volumes : ∀ t, c.totalThreads = some t →
    t.toNat = c.grid.volume.toNat * c.block.volume.toNat

theorem trueProduct_axes :
    trueProduct c.axes = c.grid.volume.toNat * c.block.volume.toNat := by
  rw [axes, trueProduct_append, Dimensions.toNat_volume, Dimensions.toNat_volume]
  simp [Nat.mul_assoc]

theorem exactProduct_volume (d : Dimensions) : ExactProduct d.volume [d.x, d.y, d.z] := by
  refine exactProduct_of_toNat (by decide) (by simp) ?_
  rw [Dimensions.toNat_volume]
  simp [Nat.mul_assoc]

theorem exactProduct_mul (m n : UInt32) :
    ExactProduct (m.toUInt64 * n.toUInt64).toBitVec [m, n] := by
  refine exactProduct_of_toNat (by decide) (by simp) ?_
  rw [UInt64.toNat_toBitVec, Dimensions.toNat_mul_toUInt64]
  simp

theorem exists_totalThreads_iff :
    (∃ t, c.totalThreads = some t) ↔ trueProduct c.axes < 2 ^ 128 := by
  rw [trueProduct_axes]
  constructor
  · intro ⟨t, ht⟩
    rw [← (c.totalThreads_eq_some_iff t).1 ht]
    exact t.isLt
  · intro h
    obtain ⟨t, ht, _⟩ := c.exists_totalThreads h
    exact ⟨t, ht⟩

/-- The launch arithmetic is exact whatever the axes are.  The work sizes and the volumes never
overflow.  The threads are counted exactly if their number fits in 128 bits, and their number
is that of the points of the work sizes and that of the blocks times that of their threads. -/
theorem countsExactly : CountsExactly c where
  x := exactProduct_mul _ _
  y := exactProduct_mul _ _
  z := exactProduct_mul _ _
  grid := exactProduct_volume _
  block := exactProduct_volume _
  counted := by
    intro t
    rw [totalThreads_eq_some_iff, trueProduct_axes]
  fits := c.exists_totalThreads_iff
  overflows := by
    rw [← Nat.not_lt, ← exists_totalThreads_iff, ← Option.isSome_iff_exists,
      Option.not_isSome_iff_eq_none]
  points := by
    intro t ht
    rw [← toNat_volume_mul_volume]
    exact (c.totalThreads_eq_some_iff t).1 ht
  volumes := fun t => (c.totalThreads_eq_some_iff t).1

/-- Six axes of 2^22 are too many for 128 bits, but not if a block has no threads. -/
example :
    totalThreads ⟨⟨4194304, 4194304, 4194304⟩, ⟨4194304, 4194304, 4194304⟩, 0⟩ = none ∧
      totalThreads ⟨⟨4194304, 4194304, 4194304⟩, ⟨4194304, 4194304, 0⟩, 0⟩ = some 0 := by
  decide

end LaunchConfig

end KernelLaunch
