import KernelLaunch.Context
import KernelLaunch.Outcome

/-!
# Runs of merges

The user's scalars are there first, and maps of further ones are merged into the context one
after the other.  What is there stays, so the user's value counts before any other, and of the
maps that hold a name the one that came first.

    user      length ↦ 10
    merged    length ↦ 99, a ↦ 2
    merged    a ↦ 3, b ↦ 4
    found     length ↦ 10, a ↦ 2, b ↦ 4

**Results.**
* `firstValue_iff`: the first value for a name is the one that a search of the maps finds.
* `get?_mergeAll`, `frame_mergeAll`: what a run of merges makes of a name, and of all else.
* `contains_mergeAll`: no name is lost in a run, and none is made up.
* `mergeScalars_mergeScalars`: two merges are one of the map that joins the two.
* `collects_mergeAll`: after every run a context has what came first.
-/

namespace KernelLaunch
namespace Context

section Specification

/-- The earliest of the maps that hold the name holds this value under it. -/
def FirstValue (gs : List ScalarArguments) (name : String) (v : ScalarValue) : Prop :=
  ∃ before g after, gs = before ++ g :: after ∧ g.get? name = some v ∧
    ∀ f ∈ before, f.get? name = none

/-- The third map is the first one, extended by those entries of the second whose names are new
to it. -/
structure Joins (g₁ g₂ g : ScalarArguments) : Prop where
  kept : ∀ name v, g₁.get? name = some v → g.get? name = some v
  added : ∀ name, g₁.get? name = none → g.get? name = g₂.get? name

/-- What has become of a context once the maps are merged into it. -/
structure Collects (c : Context) (gs : List ScalarArguments) (d : Context) : Prop where
  user : ∀ name v, c.scalars.get? name = some v → d.scalars.get? name = some v
  earliest : ∀ name, c.scalars.get? name = none →
    ∀ v, d.scalars.get? name = some v ↔ FirstValue gs name v
  /-- No name is lost, and none is there that neither the user nor a map brought. -/
  names : ∀ name, d.scalars.contains name = true ↔
    c.scalars.contains name = true ∨ ∃ g ∈ gs, g.contains name = true
  /-- All but the scalars is as it was, which for the host buffers says their names and sizes. -/
  frame : d = { c with scalars := d.scalars }

/-- How maps can be merged into a context with the same result. -/
structure MergesFreely (c : Context) : Prop where
  /-- The entries of a map may be visited in any order. -/
  anyOrder : ∀ g es, es.Perm g.entries → c.mergeEntries es = c.mergeScalars g
  /-- A map that was merged already changes nothing, whatever else came after it. -/
  again : ∀ gs, ∀ g ∈ gs, (c.mergeAll gs).mergeScalars g = c.mergeAll gs
  /-- There is a map that joins two, and to merge it is to merge the one and then the other. -/
  joined : ∀ g₁ g₂, (∃ g, Joins g₁ g₂ g) ∧
    ∀ g, Joins g₁ g₂ g → (c.mergeScalars g₁).mergeScalars g₂ = c.mergeScalars g

end Specification

section Runs

variable {c : Context} {g g₁ g₂ : ScalarArguments} {gs : List ScalarArguments} {name : String}

/-- The first value for a name is the one that a search of the maps finds. -/
theorem firstValue_iff {v : ScalarValue} :
    FirstValue gs name v ↔ gs.findSome? (fun g => g.get? name) = some v :=
  List.findSome?_eq_some_iff.symm

/-- A run of merges keeps what is there, and a name that is new gets its first value. -/
theorem get?_mergeAll (c : Context) (gs : List ScalarArguments) (name : String) :
    (c.mergeAll gs).scalars.get? name =
      (c.scalars.get? name).or (gs.findSome? fun g => g.get? name) := by
  -- By induction on the maps for all contexts, as the others are merged into one that has the
  -- scalars of the first.
  induction gs generalizing c with
  | nil => simp [mergeAll]
  | cons g gs ih =>
      calc (c.mergeAll (g :: gs)).scalars.get? name
          = ((c.mergeScalars g).mergeAll gs).scalars.get? name := rfl
        _ = ((c.mergeScalars g).scalars.get? name).or
              (gs.findSome? fun g => g.get? name) := ih _
        _ = ((c.scalars.get? name).or (g.get? name)).or
              (gs.findSome? fun g => g.get? name) := by rw [get?_mergeScalars]
        _ = (c.scalars.get? name).or ((g :: gs).findSome? fun g => g.get? name) := by
              rw [Option.or_assoc, findSome?_cons_eq_or]

/-- A run of merges leaves all but the scalars as it was. -/
theorem frame_mergeAll (c : Context) (gs : List ScalarArguments) :
    c.mergeAll gs = { c with scalars := (c.mergeAll gs).scalars } := by
  induction gs generalizing c with
  | nil => rfl
  | cons g gs ih => exact ih (c.mergeScalars g)

theorem contains_mergeAll :
    (c.mergeAll gs).scalars.contains name = true ↔
      c.scalars.contains name = true ∨ ∃ g ∈ gs, g.contains name = true := by
  simp only [NameMap.contains, get?_mergeAll, Option.isSome_or, Bool.or_eq_true,
    List.findSome?_isSome_iff]

theorem joins_mergeNew (g₁ g₂ : ScalarArguments) : Joins g₁ g₂ (g₁.mergeNew g₂) where
  kept := by
    intro name v h
    rw [NameMap.get?_mergeNew, h, Option.some_or]
  added := by
    intro name h
    rw [NameMap.get?_mergeNew, h, Option.none_or]

/-- Two merges are one of the map that joins the two. -/
theorem mergeScalars_mergeScalars (h : Joins g₁ g₂ g) (c : Context) :
    (c.mergeScalars g₁).mergeScalars g₂ = c.mergeScalars g := by
  refine ext_scalars rfl fun name => ?_
  simp only [get?_mergeScalars, Option.or_assoc]
  cases hg₁ : g₁.get? name with
  | some v => rw [h.kept name v hg₁, Option.some_or]
  | none => rw [h.added name hg₁, Option.none_or]

theorem collects (c : Context) (gs : List ScalarArguments) : Collects c gs (c.mergeAll gs) where
  user := by
    intro name v h
    rw [get?_mergeAll, h, Option.some_or]
  earliest := by
    intro name h v
    rw [get?_mergeAll, h, Option.none_or, firstValue_iff]
  names := fun _ => contains_mergeAll
  frame := frame_mergeAll c gs

theorem mergesFreely (c : Context) : MergesFreely c where
  anyOrder := fun _ _ h => mergeEntries_of_perm h c
  again := by
    intro gs g hg
    exact mergeScalars_eq_self_iff.2 fun name hname =>
      contains_mergeAll.2 (.inr ⟨g, hg, hname⟩)
  joined := fun g₁ g₂ =>
    ⟨⟨g₁.mergeNew g₂, joins_mergeNew g₁ g₂⟩, fun _ h => mergeScalars_mergeScalars h c⟩

/-- Merging is exact over whole runs.  After any merges a name has the user's value, or else
that of the earliest map which holds it, no name is lost or made up, and nothing but the scalars
has changed.  The order in which a map's entries are visited makes no difference, nor does a
map that was merged before, and two merges are one of the map that joins the two. -/
theorem collects_mergeAll :
    (∀ (c : Context) (gs : List ScalarArguments), Collects c gs (c.mergeAll gs)) ∧
      ∀ c : Context, MergesFreely c :=
  ⟨collects, mergesFreely⟩

/-- The user's length counts before that of any map, and of two values the earlier. -/
example :
    let c : Context := { scalars := .single "length" (.ofU32 10) }
    let d := c.mergeAll
      [.ofList [("length", .ofU32 99), ("a", .ofU32 2)], .ofList [("a", .ofU32 3)]]
    d.scalars.get? "length" = some (.ofU32 10) ∧ d.scalars.get? "a" = some (.ofU32 2) := by
  exact ⟨by rfl, by rfl⟩

end Runs

end Context
end KernelLaunch
