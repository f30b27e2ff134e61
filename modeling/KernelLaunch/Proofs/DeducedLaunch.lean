import KernelLaunch.Adapter.Resolution
import KernelLaunch.Kernels.Histogram
import KernelLaunch.Kernels.Saxpy
import KernelLaunch.Kernels.VectorAdd

/-!
# Deduced launches

If the forced parts do not make a launch, the kernels that work on elements one by one deduce
one from the context.  What they need is a positive number of elements and, where a limit on
the size of a block is defined, a positive limit; for bins in shared memory the number of bins
must be defined too.

The launch has one row of blocks, none larger than the limit or than the number of elements,
and as few as cover every element.  So the threads that have no element are fewer than those
of one block.

**Results.**
* `IsRow.realize_eq_ok_iff`, `covers_row`: one row of threads becomes a launch, and the
  launch covers the row.
* `linearLaunch_iff`, `deducesRow`: when a row of threads is deduced, and which.
* `deducedLaunch_exact`: when a launch is there, and that it covers every element.
-/

namespace KernelLaunch
namespace Kernels

section Rows

variable {l : LaunchConfig} {parts : LaunchComponents} {n m : UInt32}

/-- A row of at least `n` threads in full blocks of `m` threads, with less than a block to
spare. -/
structure Covers (l : LaunchConfig) (n m : Nat) : Prop where
  block : ∃ x, l.block = ⟨x, 1, 1⟩ ∧ x.toNat = m
  grid : ∃ x, l.grid = ⟨x, 1, 1⟩ ∧ x.toNat = (n + (m - 1)) / m
  threads : ∃ t, l.totalThreads = some t ∧ n ≤ t.toNat ∧ t.toNat < n + m

/-- The part of a launch that is deduced for `n` elements in blocks of `m` threads. -/
structure IsRow (parts : LaunchComponents) (n m : UInt32) : Prop where
  grid : parts.grid = none
  overall : parts.overall = some (.linear n)
  block : parts.block = some (.linear m)

theorem isPositive_linear {x : UInt32} (hx : 0 < x.toNat) : (Dimensions.linear x).IsPositive :=
  ⟨hx, Nat.one_pos, Nat.one_pos⟩

theorem IsRow.gridFor?_eq_ok_iff
    (h : IsRow parts n m)
    (hm : (Dimensions.linear m).IsPositive)
    {grid : Dimensions} :
    parts.gridFor? (.linear m) = some (.ok grid) ↔ grid = .linear (ceilDiv n m) := by
  have hone : ceilDiv 1 1 = 1 := by decide
  rw [LaunchComponents.gridFor?_eq_ok_iff hm, h.grid, h.overall]
  simp [Dimensions.divCeil, Dimensions.linear, hone, eq_comm]

theorem IsRow.realize_eq_ok_iff (h : IsRow parts n m) (hn : 0 < n.toNat) (hm : 0 < m.toNat) :
    parts.realize = .ok l ↔
      l = ⟨.linear (ceilDiv n m), .linear m, parts.sharedMemory.getD 0⟩ := by
  obtain ⟨grid, block, shared⟩ := l
  rw [LaunchComponents.realize_eq_ok_iff, h.block, LaunchConfig.mk.injEq, Option.some.injEq]
  constructor
  · rintro ⟨rfl, hpos, _, hshared, hgrid⟩
    exact ⟨(h.gridFor?_eq_ok_iff hpos).1 hgrid, rfl, hshared⟩
  · rintro ⟨rfl, rfl, hshared⟩
    have hpos := isPositive_linear hm
    exact ⟨rfl, hpos, isPositive_linear ((ceilDiv_pos_iff n hm).2 hn), hshared,
      (h.gridFor?_eq_ok_iff hpos).2 rfl⟩

/-- The threads of a row of blocks are counted without overflow. -/
theorem exists_totalThreads_row (x y shared : UInt32) :
    ∃ t, (LaunchConfig.mk (.linear x) (.linear y) shared).totalThreads = some t ∧
      t.toNat = x.toNat * y.toNat := by
  have hx : x.toNat < 2 ^ 32 := x.toNat_lt
  have hy : y.toNat < 2 ^ 32 := y.toNat_lt
  -- The product fits in 64 bits, and the count is kept in 128.
  have hxy : x.toNat * y.toNat < 2 ^ 32 * 2 ^ 32 := Nat.mul_lt_mul'' hx hy
  have hvolume : ∀ z : UInt32, (Dimensions.linear z).volume.toNat = z.toNat := by
    intro z
    rw [Dimensions.toNat_volume]
    exact (Nat.mul_one _).trans (Nat.mul_one _)
  have hthreads := LaunchConfig.exists_totalThreads ⟨.linear x, .linear y, shared⟩
  rw [hvolume, hvolume] at hthreads
  exact hthreads (by omega)

theorem covers_row (n shared : UInt32) {m : UInt32} (hm : 0 < m.toNat) :
    Covers ⟨.linear (ceilDiv n m), .linear m, shared⟩ n.toNat m.toNat := by
  obtain ⟨t, ht, hcount⟩ := exists_totalThreads_row (ceilDiv n m) m shared
  have hbounds := ceilDiv_mul_bounds n hm
  exact
    { block := ⟨m, rfl, rfl⟩
      grid := ⟨ceilDiv n m, rfl, toNat_ceilDiv n hm⟩
      threads := ⟨t, ht, by omega, by omega⟩ }

end Rows

section Conditions

/-- The context says how many elements there are: by a length, or by the size of the leading
buffer where there is no length. -/
inductive HasCount (c : Context) (lead : String) (n : UInt32) : Prop
  | given (hlength : c.scalars.get? lengthName = some (.ofU32 n))
  | counted {bytes : Nat}
      (hlength : c.scalars.get? lengthName = none)
      (hlead : c.hostSizes.get? lead = some bytes)
      (hcount : n.toNat = bytes / 4)

/-- A block has up to `b` threads: as many as are defined, or else 256. -/
inductive HasLimit (c : Context) (b : UInt32) : Prop
  | unset
      (hvalue : c.definitions.value? blockSizeName = none)
      (hlimit : b = 256)
  | defined {value : String}
      (hvalue : c.definitions.value? blockSizeName = some value)
      (hlimit : IsPositiveNumeral value b)

/-- The number of bins is defined where it must be known. -/
def HasBins (c : Context) : Prop :=
  c.definitions.isDefined Histogram.sharedMemoryName = true →
    ∃ bins, Histogram.HasBinCount c bins

variable {a : Adapter} {key lead : String} {c : Context} {n b : UInt32}

theorem hasCount_iff :
    HasCount c lead n ↔ elementCount c.scalars c.hostSizes lead 4 = .ok n := by
  rw [elementCount_eq_ok_iff]
  constructor
  · rintro (hlength | ⟨hlength, hlead, hcount⟩)
    · exact .inl hlength
    · exact .inr ⟨hlength, _, hlead, by decide, hcount⟩
  · rintro (hlength | ⟨hlength, bytes, hlead, _, hcount⟩)
    · exact .given hlength
    · exact .counted hlength hlead hcount

theorem hasLimit_iff :
    HasLimit c b ↔
      ∃ limit, positiveDefinition c.definitions.valued blockSizeName = .ok limit ∧
        limit.getD defaultBlockSize = b := by
  constructor
  · rintro (⟨hvalue, rfl⟩ | ⟨hvalue, hlimit⟩)
    · exact ⟨none, positiveDefinition_eq_none_iff.2 hvalue, rfl⟩
    · exact ⟨some b, positiveDefinition_eq_some_iff.2 ⟨_, hvalue, hlimit⟩, rfl⟩
  · rintro ⟨limit, h, rfl⟩
    cases limit with
    | none => exact .unset (positiveDefinition_eq_none_iff.1 h) rfl
    | some n =>
        obtain ⟨value, hvalue, hlimit⟩ := positiveDefinition_eq_some_iff.1 h
        exact .defined hvalue hlimit

theorem HasCount.unique {m : UInt32} (hn : HasCount c lead n) (hm : HasCount c lead m) :
    n = m := by
  rw [hasCount_iff] at hn hm
  exact Except.ok.inj (hn.symm.trans hm)

theorem HasLimit.unique {d : UInt32} (hb : HasLimit c b) (hd : HasLimit c d) : b = d := by
  obtain ⟨x, hx, rfl⟩ := hasLimit_iff.1 hb
  obtain ⟨y, hy, rfl⟩ := hasLimit_iff.1 hd
  rw [Except.ok.inj (hx.symm.trans hy)]

theorem HasLimit.pos (hb : HasLimit c b) : 0 < b.toNat := by
  rcases hb with ⟨_, rfl⟩ | ⟨_, hlimit⟩
  · decide
  · exact hlimit.2

/-- A row of threads is deduced exactly for a positive count and a limit. -/
theorem linearLaunch_iff {parts : LaunchComponents} :
    linearLaunch key c lead 4 = .ok parts ↔
      ∃ n b, HasCount c lead n ∧ 0 < n.toNat ∧ HasLimit c b ∧
        parts = { overall := some (.linear n), block := some (.linear (min n b)) } := by
  simp only [linearLaunch_eq_ok_iff, ← hasCount_iff, ← toNat_pos_iff, hasLimit_iff]
  constructor
  · rintro ⟨n, limit, hcount, hpos, hlimit, rfl⟩
    exact ⟨n, _, hcount, hpos, ⟨limit, hlimit, rfl⟩, rfl⟩
  · rintro ⟨n, _, hcount, hpos, ⟨limit, hlimit, rfl⟩, rfl⟩
    exact ⟨n, limit, hcount, hpos, hlimit, rfl⟩

end Conditions

section Adapters

variable {a : Adapter} {key lead : String} {c : Context} {n b : UInt32}
variable {parts : LaunchComponents}

/-- What a context must have for a launch to be deduced, for `n` elements in blocks of up to
`b` threads. -/
structure Determines (a : Adapter) (lead : String) (c : Context) (n b : UInt32) : Prop where
  count : HasCount c lead n
  positive : 0 < n.toNat
  limit : HasLimit c b
  bins : a = histogram → HasBins c

/-- The adapter deduces a row of threads from exactly the contexts that determine one. -/
structure DeducesRow (a : Adapter) (lead : String) : Prop where
  deduces : ∀ {c n b}, Determines a lead c n b → ∃ parts, a.deduceLaunch c = .ok parts
  isRow : ∀ {c parts}, a.deduceLaunch c = .ok parts →
    ∃ n b, Determines a lead c n b ∧ IsRow parts n (min n b)

theorem deducesRow_of_linear
    (hlinear : ∀ c, a.deduceLaunch c = linearLaunch key c lead 4)
    (hne : a ≠ histogram) :
    DeducesRow a lead where
  deduces := by
    intro c n b h
    rw [hlinear]
    exact ⟨_, linearLaunch_iff.2 ⟨n, b, h.count, h.positive, h.limit, rfl⟩⟩
  isRow := by
    intro c parts h
    rw [hlinear] at h
    obtain ⟨n, b, hcount, hpos, hlimit, rfl⟩ := linearLaunch_iff.1 h
    exact ⟨n, b, ⟨hcount, hpos, hlimit, fun heq => absurd heq hne⟩, ⟨rfl, rfl, rfl⟩⟩

theorem hasBins_of_deduceLaunch (h : histogram.deduceLaunch c = .ok parts) : HasBins c := by
  obtain ⟨_, _, hshared⟩ := Histogram.deduceLaunch_eq_ok_iff.1 h
  intro hdefined
  rcases hshared with ⟨hopen, _⟩ | ⟨_, bins, hbins, _⟩
  · rw [hopen] at hdefined
    cases hdefined
  · exact ⟨bins, Histogram.hasBinCount_iff.2 hbins⟩

/-- Bins in shared memory are added to the row and change nothing else of it. -/
theorem deducesRow_histogram : DeducesRow histogram "data" where
  deduces := by
    intro c n b h
    have hlinear : linearLaunch "histogram" c "data" Histogram.sampleSize =
        .ok { overall := some (.linear n), block := some (.linear (min n b)) } :=
      linearLaunch_iff.2 ⟨n, b, h.count, h.positive, h.limit, rfl⟩
    cases hshared : c.definitions.isDefined Histogram.sharedMemoryName with
    | false =>
        exact ⟨_, Histogram.deduceLaunch_eq_ok_iff.2 ⟨_, hlinear, .inl ⟨hshared, rfl⟩⟩⟩
    | true =>
        obtain ⟨bins, hbins⟩ := h.bins rfl hshared
        exact ⟨_, Histogram.deduceLaunch_eq_ok_iff.2
          ⟨_, hlinear, .inr ⟨hshared, bins, Histogram.hasBinCount_iff.1 hbins, rfl⟩⟩⟩
  isRow := by
    intro c parts h
    obtain ⟨row, hlinear, hparts⟩ := Histogram.deduceLaunch_eq_ok_iff.1 h
    obtain ⟨n, b, hcount, hpos, hlimit, rfl⟩ := linearLaunch_iff.1 hlinear
    refine ⟨n, b, ⟨hcount, hpos, hlimit, fun _ => hasBins_of_deduceLaunch h⟩, ?_⟩
    rcases hparts with ⟨_, rfl⟩ | ⟨_, _, _, rfl⟩ <;> exact ⟨rfl, rfl, rfl⟩

theorem deducesRow
    (ha : (a, lead) ∈
      [(vectorAdd, "A"), (openClVectorAdd, "A"), (saxpy, "x"), (histogram, "data")]) :
    DeducesRow a lead := by
  have hkey : ∀ {a : Adapter}, a.key ≠ "histogram" → a ≠ histogram :=
    fun hne heq => hne (congrArg Adapter.key heq)
  simp only [List.mem_cons, Prod.mk.injEq, List.not_mem_nil, or_false] at ha
  rcases ha with ⟨rfl, rfl⟩ | ⟨rfl, rfl⟩ | ⟨rfl, rfl⟩ | ⟨rfl, rfl⟩
  · exact deducesRow_of_linear (fun _ => rfl) (hkey (by decide))
  · exact deducesRow_of_linear (fun _ => rfl) (hkey (by decide))
  · exact deducesRow_of_linear (fun _ => rfl) (hkey (by decide))
  · exact deducesRow_histogram

theorem toNat_min (x y : UInt32) : (min x y).toNat = min x.toNat y.toNat := by
  show (if x ≤ y then x else y).toNat = _
  split
  · rename_i h
    rw [UInt32.le_iff_toNat_le] at h
    omega
  · rename_i h
    rw [UInt32.le_iff_toNat_le] at h
    omega

theorem Determines.min_pos (h : Determines a lead c n b) : 0 < (min n b).toNat := by
  have hn := h.positive
  have hb := h.limit.pos
  rw [toNat_min]
  omega

/-- What is deduced is realized as a row of blocks, each as large as it can be. -/
theorem DeducesRow.makeRealizedLaunch_eq_ok
    (ha : DeducesRow a lead)
    (hforced : c.forced.isSufficient = false)
    {l : LaunchConfig}
    (hl : a.makeRealizedLaunch c = .ok l) :
    ∃ n b, Determines a lead c n b ∧ Covers l n.toNat (min n b).toNat := by
  obtain ⟨parts, hparts, hrealize⟩ := Adapter.makeRealizedLaunch_eq_ok_iff.1 hl
  rw [Adapter.makeLaunch_of_insufficient hforced] at hparts
  obtain ⟨n, b, h, hrow⟩ := ha.isRow hparts
  obtain rfl := (hrow.realize_eq_ok_iff h.positive h.min_pos).1 hrealize
  exact ⟨n, b, h, covers_row n _ h.min_pos⟩

theorem DeducesRow.exists_makeRealizedLaunch
    (ha : DeducesRow a lead)
    (hforced : c.forced.isSufficient = false)
    (h : Determines a lead c n b) :
    ∃ l, a.makeRealizedLaunch c = .ok l := by
  obtain ⟨parts, hparts⟩ := ha.deduces h
  obtain ⟨n', b', h', hrow⟩ := ha.isRow hparts
  refine ⟨_, Adapter.makeRealizedLaunch_eq_ok_iff.2 ⟨parts, ?_,
    (hrow.realize_eq_ok_iff h'.positive h'.min_pos).2 rfl⟩⟩
  rw [Adapter.makeLaunch_of_insufficient hforced, hparts]

/-- Where the forced parts do not make a launch, there is one exactly if the context
determines a count and a limit, and it covers every element by as few blocks as there can
be. -/
theorem deducedLaunch_exact
    (ha : (a, lead) ∈
      [(vectorAdd, "A"), (openClVectorAdd, "A"), (saxpy, "x"), (histogram, "data")])
    (hforced : c.forced.isSufficient = false) :
    ((∃ l, a.makeRealizedLaunch c = .ok l) ↔ ∃ n b, Determines a lead c n b) ∧
      ∀ l n b, a.makeRealizedLaunch c = .ok l → Determines a lead c n b →
        Covers l n.toNat (min n.toNat b.toNat) := by
  have hrow := deducesRow ha
  refine ⟨⟨?_, ?_⟩, ?_⟩
  · rintro ⟨l, hl⟩
    obtain ⟨n, b, h, _⟩ := hrow.makeRealizedLaunch_eq_ok hforced hl
    exact ⟨n, b, h⟩
  · rintro ⟨n, b, h⟩
    exact hrow.exists_makeRealizedLaunch hforced h
  · intro l n b hl h
    obtain ⟨m, d, h', hcovers⟩ := hrow.makeRealizedLaunch_eq_ok hforced hl
    obtain rfl := h.count.unique h'.count
    obtain rfl := h.limit.unique h'.limit
    rw [← toNat_min]
    exact hcovers

/-- Seven and a half samples for three bins in shared memory, with a block forced that has no
grid. -/
def sharedBins : Context :=
  { hostSizes := .single "data" 30
    forced := { block := some (.linear 2) }
    definitions :=
      (((Definitions.empty.withFlag Histogram.sharedMemoryName).withValue
        Histogram.numBinsName "+3 ").withValue blockSizeName " 04") }

theorem deducedLaunch_sharedBins :
    (histogram, "data") ∈
        [(vectorAdd, "A"), (openClVectorAdd, "A"), (saxpy, "x"), (histogram, "data")] ∧
      sharedBins.forced.isSufficient = false ∧
      histogram.makeRealizedLaunch sharedBins = .ok ⟨⟨2, 1, 1⟩, ⟨4, 1, 1⟩, 12⟩ ∧
      ((∃ l, histogram.makeRealizedLaunch sharedBins = .ok l) ↔
        ∃ n b, Determines histogram "data" sharedBins n b) ∧
      ∀ l n b, histogram.makeRealizedLaunch sharedBins = .ok l →
        Determines histogram "data" sharedBins n b →
          Covers l n.toNat (min n.toNat b.toNat) :=
  ⟨by simp, rfl, by rfl, deducedLaunch_exact (by simp) rfl⟩

end Adapters

end Kernels
end KernelLaunch
