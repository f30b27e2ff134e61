import KernelLaunch.Launch.Config

/-!
# Partial launch configurations

A launch can be described in part.  The description is *sufficient* if it has a
block and either a grid, counted in blocks, or an overall grid, counted in
threads.  A grid takes precedence over an overall grid, which is otherwise
covered by as few blocks as possible.

A block is checked before anything is divided by it, so that the division has an answer
whenever it is asked for.

**Results.**
* `isSome_realize?`: no description asks for a division by zero.
* `realize_eq_ok_iff`: a description becomes a launch exactly when its block and
  its grid are there and have no zero axis.
* `realize_eq_error_iff`: why any other description is refused.
* `exists_realize_iff`: when there is a launch at all.
* `PartsPositive.exists_realize_iff`: if no part has a zero axis, a description becomes a
  launch exactly if it is sufficient.
-/

namespace KernelLaunch

/-- A description of a launch of which any part may be unset. -/
structure LaunchComponents where
  grid : Option Dimensions := none
  overall : Option Dimensions := none
  block : Option Dimensions := none
  sharedMemory : Option UInt32 := none
  deriving DecidableEq

namespace LaunchComponents

section Basic

def empty : LaunchComponents := {}

/-- Whether all parts needed for a launch are set. -/
def isSufficient (c : LaunchComponents) : Bool :=
  c.block.isSome && (c.grid.isSome || c.overall.isSome)

def isEmpty (c : LaunchComponents) : Bool := c = empty

/-- One part as shown in messages. -/
def partText (name : String) (value : Option String) : String :=
  name ++ "=" ++ value.getD "<unset>"

/-- The description as shown in messages. -/
def text (c : LaunchComponents) : String :=
  let parts :=
    [partText "grid" (c.grid.map Dimensions.text),
      partText "overall_grid" (c.overall.map Dimensions.text),
      partText "block" (c.block.map Dimensions.text),
      partText "dynamic_shmem" (c.sharedMemory.map fun n => Text.decimalText n.toNat)]
  "\x7b" ++ String.intercalate ", " parts ++ "\x7d"

end Basic

/-- Why a description cannot become a launch. -/
inductive RealizeError
  | insufficient (components : LaunchComponents)
  | zeroAxis (components : LaunchComponents)
  deriving DecidableEq

def RealizeError.message : RealizeError → String
  | .insufficient c => s!"launch configuration is insufficient: {c.text}"
  | .zeroAxis c => zeroAxisMessage c.text

section Realize

/-- The grid to launch with blocks of the given size, if what it is made from is there.  There
is no answer at all where that would be divided by zero. -/
def gridFor? (c : LaunchComponents) (block : Dimensions) :
    Option (Except RealizeError Dimensions) :=
  match c.grid, c.overall with
  | some grid, _ => some (.ok grid)
  | none, some overall => (overall.divCeil? block).map .ok
  | none, none => some (.error (.insufficient c))

/-- The launch of blocks on a grid, which must have no zero axis. -/
def launchOn (c : LaunchComponents) (block grid : Dimensions) :
    Except RealizeError LaunchConfig :=
  if grid.IsPositive then .ok ⟨grid, block, c.sharedMemory.getD 0⟩ else .error (.zeroAxis c)

/-- Turns a sufficient description into a launch.  There is no answer where it divides by
zero. -/
def realize? (c : LaunchComponents) : Option (Except RealizeError LaunchConfig) :=
  match c.block with
  | none => some (.error (.insufficient c))
  | some block =>
      if block.IsPositive then (c.gridFor? block).map fun grid => grid >>= c.launchOn block
      else some (.error (.zeroAxis c))

theorem isSome_gridFor?
    (c : LaunchComponents)
    {block : Dimensions}
    (h : block.IsPositive) :
    (c.gridFor? block).isSome = true := by
  rw [gridFor?]
  cases c.grid with
  | some grid => rfl
  | none =>
      cases c.overall with
      | none => rfl
      | some overall =>
          simp only [Dimensions.divCeil?_of_isPositive overall h, Option.map_some,
            Option.isSome_some]

/-- A division by zero is never asked for: the block is checked before. -/
theorem isSome_realize? (c : LaunchComponents) : c.realize?.isSome = true := by
  rw [realize?]
  cases c.block with
  | none => rfl
  | some block =>
      by_cases h : block.IsPositive
      · simp only [if_pos h, Option.isSome_map, c.isSome_gridFor? h]
      · simp only [if_neg h, Option.isSome_some]

/-- Turns a sufficient description into a launch. -/
def realize (c : LaunchComponents) : Except RealizeError LaunchConfig :=
  c.realize?.get c.isSome_realize?

theorem realize?_eq (c : LaunchComponents) : c.realize? = some c.realize :=
  (Option.some_get _).symm

theorem realize_eq_iff {c : LaunchComponents} {r : Except RealizeError LaunchConfig} :
    c.realize = r ↔ c.realize? = some r := by
  rw [realize?_eq, Option.some.injEq]

theorem launchOn_eq_ok_iff {c : LaunchComponents} {block grid : Dimensions} {l : LaunchConfig} :
    c.launchOn block grid = .ok l ↔
      grid.IsPositive ∧ l = ⟨grid, block, c.sharedMemory.getD 0⟩ := by
  rw [launchOn]
  by_cases h : grid.IsPositive
  · simp [h, eq_comm]
  · simp [h]

/-- The grid is the one that is given, or else the cover of the overall grid. -/
theorem gridFor?_eq_ok_iff
    {c : LaunchComponents}
    {block : Dimensions}
    (h : block.IsPositive)
    {grid : Dimensions} :
    c.gridFor? block = some (.ok grid) ↔
      c.grid = some grid ∨
        (c.grid = none ∧ ∃ overall, c.overall = some overall ∧
          overall.divCeil block h = grid) := by
  rw [gridFor?]
  cases c.grid with
  | some given => simp
  | none => cases c.overall <;> simp [Dimensions.divCeil?_of_isPositive, h]

/-- A description becomes a launch exactly when its block and its grid are there and
have no zero axis. -/
theorem realize_eq_ok_iff (c : LaunchComponents) (l : LaunchConfig) :
    c.realize = .ok l ↔
      c.block = some l.block ∧ l.block.IsPositive ∧ l.grid.IsPositive ∧
        l.sharedMemory = c.sharedMemory.getD 0 ∧
          c.gridFor? l.block = some (.ok l.grid) := by
  rw [realize_eq_iff, realize?]
  cases hb : c.block with
  | none => simp
  | some block =>
      by_cases hpos : block.IsPositive
      · simp only [if_pos hpos, Option.map_eq_some_iff]
        constructor
        · intro ⟨r, hr, hl⟩
          obtain ⟨grid, rfl, hgrid⟩ := bind_eq_ok_iff.1 hl
          obtain ⟨hgpos, rfl⟩ := launchOn_eq_ok_iff.1 hgrid
          exact ⟨rfl, hpos, hgpos, rfl, hr⟩
        · intro ⟨hblock, _, hgpos, hshared, hgrid⟩
          obtain rfl := Option.some.inj hblock
          refine ⟨.ok l.grid, hgrid, launchOn_eq_ok_iff.2 ⟨hgpos, ?_⟩⟩
          rw [← hshared]
      · simp only [if_neg hpos, Option.some.injEq, reduceCtorEq, false_iff, not_and]
        intro hblock hlpos
        exact absurd (hblock ▸ hlpos) hpos

theorem launchOn_eq_error_iff
    {c : LaunchComponents} {block grid : Dimensions} {e : RealizeError} :
    c.launchOn block grid = .error e ↔ ¬grid.IsPositive ∧ e = .zeroAxis c := by
  rw [launchOn]
  by_cases h : grid.IsPositive
  · simp [h]
  · simp [h, eq_comm]

theorem gridFor?_eq_error_iff
    {c : LaunchComponents} {block : Dimensions} {e : RealizeError} :
    c.gridFor? block = some (.error e) ↔
      c.grid = none ∧ c.overall = none ∧ e = .insufficient c := by
  rw [gridFor?]
  cases c.grid with
  | some grid => simp
  | none =>
      cases c.overall with
      | none => simp [eq_comm]
      | some overall => simp

/-- A description is refused because a part is missing or because a part has a zero axis, the
block being looked at before the grid. -/
theorem realize_eq_error_iff {c : LaunchComponents} {e : RealizeError} :
    c.realize = .error e ↔
      (e = .insufficient c ∧
          (c.block = none ∨ ∃ block, c.block = some block ∧ block.IsPositive ∧
            c.grid = none ∧ c.overall = none)) ∨
        (e = .zeroAxis c ∧ ∃ block, c.block = some block ∧
          (¬block.IsPositive ∨
            ∃ grid, c.gridFor? block = some (.ok grid) ∧ ¬grid.IsPositive)) := by
  rw [realize_eq_iff, realize?]
  cases c.block with
  | none => simp [eq_comm]
  | some block =>
      by_cases hpos : block.IsPositive
      · simp only [if_pos hpos, Option.map_eq_some_iff, bind_eq_error_iff]
        constructor
        · intro ⟨r, hr, he⟩
          rcases he with rfl | ⟨grid, rfl, hgrid⟩
          · obtain ⟨hnone, hoverall, rfl⟩ := gridFor?_eq_error_iff.1 hr
            exact .inl ⟨rfl, .inr ⟨block, rfl, hpos, hnone, hoverall⟩⟩
          · obtain ⟨hzero, rfl⟩ := launchOn_eq_error_iff.1 hgrid
            exact .inr ⟨rfl, block, rfl, .inr ⟨grid, hr, hzero⟩⟩
        · intro h
          rcases h with ⟨rfl, hmissing⟩ | ⟨rfl, other, hblock, hzero⟩
          · rcases hmissing with hblock | ⟨_, _, _, hnone, hoverall⟩
            · cases hblock
            · exact ⟨_, gridFor?_eq_error_iff.2 ⟨hnone, hoverall, rfl⟩, .inl rfl⟩
          · obtain rfl := Option.some.inj hblock
            rcases hzero with hzero | ⟨grid, hgrid, hzero⟩
            · exact absurd hpos hzero
            · exact ⟨.ok grid, hgrid, .inr ⟨grid, rfl, launchOn_eq_error_iff.2 ⟨hzero, rfl⟩⟩⟩
      · simp [hpos, eq_comm]

/-- What is missing is reported only for descriptions that are not sufficient. -/
theorem realize_eq_insufficient_iff (c : LaunchComponents) :
    (∃ d, c.realize = .error (.insufficient d)) ↔
      c.isSufficient = false ∧ ∀ b, c.block = some b → b.IsPositive := by
  simp only [realize_eq_error_iff, RealizeError.insufficient.injEq, reduceCtorEq, false_and,
    or_false, exists_eq_left]
  unfold isSufficient
  cases c.block with
  | none => simp
  | some block => cases c.grid <;> cases c.overall <;> simp

/-- The description that is refused is the one that is reported. -/
theorem eq_of_realize_eq_error
    {c : LaunchComponents} {e : RealizeError}
    (h : c.realize = .error e) :
    e = .insufficient c ∨ e = .zeroAxis c := by
  rcases realize_eq_error_iff.1 h with ⟨he, _⟩ | ⟨he, _⟩
  · exact .inl he
  · exact .inr he

/-- A sufficient description is refused only for a zero axis. -/
theorem eq_zeroAxis_of_sufficient
    {c : LaunchComponents} {e : RealizeError}
    (hc : c.isSufficient = true)
    (h : c.realize = .error e) :
    e = .zeroAxis c := by
  rcases eq_of_realize_eq_error h with rfl | rfl
  · have hinsufficient := ((realize_eq_insufficient_iff c).1 ⟨c, h⟩).1
    rw [hc] at hinsufficient
    cases hinsufficient
  · rfl

end Realize

section Positive

variable {c : LaunchComponents}

theorem isSufficient_iff :
    c.isSufficient = true ↔
      ∃ block, c.block = some block ∧
        ((∃ grid, c.grid = some grid) ∨ ∃ overall, c.overall = some overall) := by
  simp [isSufficient, Option.isSome_iff_exists]

/-- A grid without a zero axis is given as such, or covers threads without a zero axis. -/
theorem exists_isPositive_gridFor_iff
    {block : Dimensions}
    (h : block.IsPositive) :
    (∃ grid, c.gridFor? block = some (.ok grid) ∧ grid.IsPositive) ↔
      (∃ grid, c.grid = some grid ∧ grid.IsPositive) ∨
        (c.grid = none ∧ ∃ overall, c.overall = some overall ∧ overall.IsPositive) := by
  simp only [gridFor?_eq_ok_iff h]
  constructor
  · intro ⟨grid, hgrid, hpos⟩
    rcases hgrid with hgrid | ⟨hnone, overall, hoverall, rfl⟩
    · exact .inl ⟨grid, hgrid, hpos⟩
    · exact .inr ⟨hnone, overall, hoverall, (Dimensions.isPositive_divCeil_iff h).1 hpos⟩
  · intro hmade
    rcases hmade with ⟨grid, hgrid, hpos⟩ | ⟨hnone, overall, hoverall, hpos⟩
    · exact ⟨grid, .inl hgrid, hpos⟩
    · exact ⟨_, .inr ⟨hnone, overall, hoverall, rfl⟩,
        (Dimensions.isPositive_divCeil_iff h).2 hpos⟩

/-- There is a launch exactly if the block and what the grid is made from are there and have
no zero axis. -/
theorem exists_realize_iff :
    (∃ l, c.realize = .ok l) ↔
      ∃ block, c.block = some block ∧ block.IsPositive ∧
        ((∃ grid, c.grid = some grid ∧ grid.IsPositive) ∨
          (c.grid = none ∧ ∃ overall, c.overall = some overall ∧ overall.IsPositive)) := by
  constructor
  · rintro ⟨l, hl⟩
    obtain ⟨hblock, hpos, hgrid, _, hfor⟩ := (realize_eq_ok_iff c l).1 hl
    exact ⟨l.block, hblock, hpos, (exists_isPositive_gridFor_iff hpos).1 ⟨l.grid, hfor, hgrid⟩⟩
  · rintro ⟨block, hblock, hpos, hmade⟩
    obtain ⟨grid, hfor, hgrid⟩ := (exists_isPositive_gridFor_iff hpos).2 hmade
    exact ⟨⟨grid, block, c.sharedMemory.getD 0⟩,
      (realize_eq_ok_iff c _).2 ⟨hblock, hpos, hgrid, rfl, hfor⟩⟩

/-- No part that is set has a zero axis. -/
structure PartsPositive (c : LaunchComponents) : Prop where
  grid : ∀ d, c.grid = some d → d.IsPositive
  overall : ∀ d, c.overall = some d → d.IsPositive
  block : ∀ d, c.block = some d → d.IsPositive

/-- If no part has a zero axis, a description becomes a launch exactly if it is
sufficient. -/
theorem PartsPositive.exists_realize_iff (hc : c.PartsPositive) :
    (∃ l, c.realize = .ok l) ↔ c.isSufficient = true := by
  rw [LaunchComponents.exists_realize_iff, isSufficient_iff]
  constructor
  · rintro ⟨block, hblock, _, ⟨grid, hgrid, _⟩ | ⟨_, overall, hoverall, _⟩⟩
    · exact ⟨block, hblock, .inl ⟨grid, hgrid⟩⟩
    · exact ⟨block, hblock, .inr ⟨overall, hoverall⟩⟩
  · rintro ⟨block, hblock, hset⟩
    refine ⟨block, hblock, hc.block block hblock, ?_⟩
    cases hgrid : c.grid with
    | some grid => exact .inl ⟨grid, rfl, hc.grid grid hgrid⟩
    | none =>
        simp only [hgrid, reduceCtorEq, exists_false, false_or] at hset
        obtain ⟨overall, hoverall⟩ := hset
        exact .inr ⟨rfl, overall, hoverall, hc.overall overall hoverall⟩

theorem PartsPositive.realize_of_insufficient
    (hc : c.PartsPositive)
    (h : c.isSufficient = false) :
    c.realize = .error (.insufficient c) := by
  obtain ⟨d, hd⟩ := (realize_eq_insufficient_iff c).2 ⟨h, hc.block⟩
  rcases eq_of_realize_eq_error hd with he | he
  · rw [hd, he]
  · cases he

end Positive

end LaunchComponents

end KernelLaunch
