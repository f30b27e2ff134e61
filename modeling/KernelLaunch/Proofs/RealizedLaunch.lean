import KernelLaunch.Launch.Components
import Mathlib.Order.Bounds.Defs

/-!
# Realized launches

A description of a launch is realized exactly if its block is there and so is what the grid
is made from, all without a zero axis.  A grid that is given is kept.  An overall grid is
covered by as few blocks as there can be along each axis, so less than a block is to spare.

**Results.**
* `coversTightly_divCeil`: the blocks are the least cover along each axis.
* `LaunchComponents.realizesExactly`: when there is a launch, and which.
-/

namespace KernelLaunch

section Covers

/-- Along one axis, `g` is the least number of blocks of `b` threads for `n` threads, and
there are `t` threads in them. -/
structure CoversAxis (n b g t : Nat) : Prop where
  least : IsLeast {g | n ≤ g * b} g
  bounded : g ≤ n
  covered : n ≤ t
  spare : t < n + b

/-- The launch covers the threads by as few blocks as there can be. -/
structure CoversTightly (l : LaunchConfig) (overall : Dimensions) : Prop where
  x : CoversAxis overall.x.toNat l.block.x.toNat l.grid.x.toNat l.globalWorkSize.1.toNat
  y : CoversAxis overall.y.toNat l.block.y.toNat l.grid.y.toNat l.globalWorkSize.2.1.toNat
  z : CoversAxis overall.z.toNat l.block.z.toNat l.grid.z.toNat l.globalWorkSize.2.2.toNat
  counted : ∃ t, l.totalThreads = some t

theorem coversAxis_ceilDiv
    (n : UInt32)
    {b : UInt32}
    (hb : 0 < b.toNat)
    {t : Nat}
    (ht : t = (ceilDiv n b).toNat * b.toNat) :
    CoversAxis n.toNat b.toNat (ceilDiv n b).toNat t := by
  obtain ⟨hcovered, hspare⟩ := ceilDiv_mul_bounds n hb
  subst ht
  refine ⟨⟨hcovered, fun g hg => (ceilDiv_le_iff n hb g).2 hg⟩, ?_, hcovered, hspare⟩
  exact (ceilDiv_le_iff n hb _).2 (Nat.le_mul_of_pos_right _ hb)

theorem CoversAxis.lt {n b : UInt32} {g t : Nat} (h : CoversAxis n.toNat b.toNat g t) :
    t < 1 <<< 33 := by
  have hn : n.toNat < 2 ^ 32 := n.toNat_lt
  have hb : b.toNat < 2 ^ 32 := b.toNat_lt
  have hspare := h.spare
  omega

theorem coversTightly_divCeil
    (overall : Dimensions)
    {block : Dimensions}
    (h : block.IsPositive)
    (shared : UInt32) :
    CoversTightly ⟨overall.divCeil block h, block, shared⟩ overall := by
  obtain ⟨hsizeX, hsizeY, hsizeZ⟩ := LaunchConfig.toNat_globalWorkSize
    ⟨overall.divCeil block h, block, shared⟩
  have hx := coversAxis_ceilDiv overall.x h.1 hsizeX
  have hy := coversAxis_ceilDiv overall.y h.2.1 hsizeY
  have hz := coversAxis_ceilDiv overall.z h.2.2 hsizeZ
  refine ⟨hx, hy, hz, ?_⟩
  -- Each factor has 33 bits, so that there is room for the product of all three.
  have hxy := Nat.mul_lt_mul'' hx.lt hy.lt
  have hxyz := Nat.mul_lt_mul'' hxy hz.lt
  obtain ⟨t, ht, _⟩ := LaunchConfig.exists_totalThreads
    ⟨overall.divCeil block h, block, shared⟩
    (by
      rw [LaunchConfig.toNat_volume_mul_volume]
      exact Nat.lt_trans hxyz (by decide))
  exact ⟨t, ht⟩

end Covers

namespace LaunchComponents

section Realize

variable {c : LaunchComponents} {l : LaunchConfig}

/-- When a description becomes a launch, and which. -/
structure RealizesExactly (c : LaunchComponents) : Prop where
  /-- A division by a block with a zero axis has no answer, and is not asked for. -/
  divides : c.realize? = some c.realize
  realizes : (∃ l, c.realize = .ok l) ↔
    ∃ block, c.block = some block ∧ block.IsPositive ∧
      ((∃ grid, c.grid = some grid ∧ grid.IsPositive) ∨
        (c.grid = none ∧ ∃ overall, c.overall = some overall ∧ overall.IsPositive))
  kept : ∀ l, c.realize = .ok l →
    c.block = some l.block ∧ l.sharedMemory = c.sharedMemory.getD 0
  /-- A grid takes precedence over any overall grid. -/
  given : ∀ l grid, c.realize = .ok l → c.grid = some grid → l.grid = grid
  covered : ∀ l, c.realize = .ok l → c.grid = none →
    ∃ overall, c.overall = some overall ∧ CoversTightly l overall

/-- There is a launch exactly for a positive block with a positive grid or, without one, a
positive overall grid, which is covered by as few blocks as there can be. -/
theorem realizesExactly (c : LaunchComponents) : RealizesExactly c where
  divides := realize?_eq c
  realizes := exists_realize_iff
  kept := by
    intro l hl
    obtain ⟨hblock, _, _, hshared, _⟩ := (realize_eq_ok_iff c l).1 hl
    exact ⟨hblock, hshared⟩
  given := by
    intro l grid hl hgrid
    obtain ⟨_, hpos, _, _, hfor⟩ := (realize_eq_ok_iff c l).1 hl
    rcases (gridFor?_eq_ok_iff hpos).1 hfor with hgiven | ⟨hnone, _⟩
    · exact Option.some.inj (hgiven.symm.trans hgrid)
    · rw [hgrid] at hnone
      cases hnone
  covered := by
    intro l hl hgrid
    obtain ⟨_, hpos, _, _, hfor⟩ := (realize_eq_ok_iff c l).1 hl
    rcases (gridFor?_eq_ok_iff hpos).1 hfor with hgiven | ⟨_, overall, hoverall, hcover⟩
    · rw [hgrid] at hgiven
      cases hgiven
    · refine ⟨overall, hoverall, ?_⟩
      have hl : l = ⟨overall.divCeil l.block hpos, l.block, l.sharedMemory⟩ := by
        rw [hcover]
      rw [hl]
      exact coversTightly_divCeil overall hpos l.sharedMemory

/-- The largest number of threads in pairs, with one thread to spare. -/
example : realize { overall := some (.linear 4294967295), block := some (.linear 2) } =
    .ok ⟨.linear 2147483648, .linear 2, 0⟩ := by
  rfl

end Realize

end LaunchComponents

end KernelLaunch
