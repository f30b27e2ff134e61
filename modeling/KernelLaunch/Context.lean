import KernelLaunch.DeviceBuffers
import KernelLaunch.Definitions
import KernelLaunch.Launch.Components
import KernelLaunch.Scalar.Value

/-!
# The context of a run

Everything that is known about one kernel run: which ecosystem it targets, how
large the host copies of its buffers are, which buffers are on the device, the
scalar arguments, the forced parts of the launch, and the definitions the kernel
is compiled with.

Of a host buffer only the size matters to anything that is configured.

**Results.**
* `get?_mergeScalars`: merging keeps a scalar that is there and adds one that is new.
* `mergeEntries_of_perm`: the entries of a map may be visited in any order.
* `mergeScalars_eq_self_iff`: a merge changes nothing exactly if it brings no new name.
-/

namespace KernelLaunch

/-- Sizes in bytes of host buffers by name. -/
abbrev HostSizes := NameMap Nat

/-- Scalar arguments by name. -/
abbrev ScalarArguments := NameMap ScalarValue

/-- What is known about one run. -/
structure Context where
  ecosystem : Ecosystem := .cuda
  hostSizes : HostSizes := .empty
  deviceBuffers : DeviceBuffers := .empty
  scalars : ScalarArguments := .empty
  forced : LaunchComponents := .empty
  definitions : Definitions := .empty
  deriving DecidableEq

namespace Context

/-- Adds scalars whose names are new; those that are there are kept. -/
def mergeScalars (c : Context) (generated : ScalarArguments) : Context :=
  { c with scalars := c.scalars.mergeNew generated }

/-- Visits entries from the first to the last, and adds those whose names are new. -/
def mergeEntries (c : Context) (es : List (String × ScalarValue)) : Context :=
  { c with scalars := es.foldl (fun m e => m.insertNew e.1 e.2) c.scalars }

/-- Merges several maps, from the first to the last. -/
def mergeAll (c : Context) (gs : List ScalarArguments) : Context :=
  gs.foldl mergeScalars c

/-- Stores a device buffer under a name and direction. -/
def bind (c : Context) (name : String) (d : Direction) (h : BufferHandle) : Context :=
  { c with deviceBuffers := c.deviceBuffers.insert name d h }

/-- Stores several device buffers, from the first to the last. -/
def bindAll (c : Context) (es : List (String × Direction × BufferHandle)) : Context :=
  { c with deviceBuffers := c.deviceBuffers.insertAll es }

/-- Merging keeps a scalar that is there and adds one that is new. -/
theorem get?_mergeScalars (c : Context) (g : ScalarArguments) (name : String) :
    (c.mergeScalars g).scalars.get? name = (c.scalars.get? name).or (g.get? name) :=
  NameMap.get?_mergeNew c.scalars g name

@[simp] theorem mergeScalars_empty (c : Context) : c.mergeScalars .empty = c := rfl

/-- Merging may visit the entries of a map in any order. -/
theorem mergeEntries_of_perm
    {g : ScalarArguments}
    {es : List (String × ScalarValue)}
    (h : es.Perm g.entries)
    (c : Context) :
    c.mergeEntries es = c.mergeScalars g := by
  rw [mergeEntries, NameMap.foldl_insertNew_of_perm h]
  rfl

/-- Contexts that differ in their scalars alone are the same if these are found alike. -/
theorem ext_scalars
    {c d : Context}
    (hframe : d = { c with scalars := d.scalars })
    (hfound : ∀ name, d.scalars.get? name = c.scalars.get? name) :
    d = c := by
  rw [hframe, NameMap.ext_get? hfound]

/-- A merge changes nothing exactly if it brings no new name. -/
theorem mergeScalars_eq_self_iff {c : Context} {g : ScalarArguments} :
    c.mergeScalars g = c ↔
      ∀ name, g.contains name = true → c.scalars.contains name = true := by
  constructor
  · intro h name hname
    obtain ⟨v, hv⟩ := NameMap.contains_eq_true_iff.1 hname
    rw [← h, NameMap.contains, get?_mergeScalars, hv]
    simp
  · intro h
    refine ext_scalars rfl fun name => ?_
    rw [get?_mergeScalars]
    cases hc : c.scalars.get? name with
    | some v => rfl
    | none =>
        have hnew : g.contains name ≠ true := fun hg => by
          simpa [NameMap.contains, hc] using h name hg
        simpa [NameMap.contains] using hnew

end Context

end KernelLaunch
