import KernelLaunch.Kernels.Linear

/-!
# Scaled vector addition

Adds a multiple of one vector of single-precision numbers to another, in place.

**Results.**
* `inputSizesValid_iff`: the vectors fit together when they have the same whole number
  of elements.
-/

namespace KernelLaunch
namespace Kernels
namespace Saxpy

/-- Size of an element in bytes. -/
def elementSize : Nat := 4

/-- The vector that is scaled and the one that it is added to. -/
def buffers : List BufferDescriptor :=
  [⟨"x", .input, "Scaled vector"⟩, ⟨"y", .inout, "Accumulated into"⟩]

/-- The factor and the element count. -/
def scalars : List ScalarDescriptor :=
  [⟨"a", "Scale factor applied to x"⟩,
    ⟨lengthName, "Number of elements; defaults to the length of x"⟩]

/-- The kinds of the factor and the element count. -/
def scalarKinds : List (String × ScalarKind) :=
  [("a", .float .single), (lengthName, .int .u32)]

/-- The limit on the size of a block. -/
def definitions : List DefinitionDescriptor :=
  [⟨blockSizeName, false, "Upper bound on threads per block"⟩]

/-- The vector that is added to keeps its size. -/
def outputSizes (hostSizes : HostSizes) : Except AdapterError (NameMap Nat) :=
  match hostSizes.get? "y" with
  | some bytes => .ok (.single "y" bytes)
  | none => .error (.missingInput "y")

/-- Whether the vectors have the same whole number of elements. -/
def inputSizesValid (c : Context) : Bool :=
  match c.hostSizes.get? "x", c.hostSizes.get? "y" with
  | some x, some y => x == y && x % elementSize == 0
  | _, _ => false

/-- The vectors fit together exactly when they have the same whole number of elements. -/
theorem inputSizesValid_iff (c : Context) :
    inputSizesValid c = true ↔
      ∃ x, c.hostSizes.get? "x" = some x ∧ c.hostSizes.get? "y" = some x ∧
        x % elementSize = 0 := by
  unfold inputSizesValid
  cases c.hostSizes.get? "x" with
  | none => simp
  | some x =>
      cases c.hostSizes.get? "y" with
      | none => simp
      | some y =>
          simp only [Bool.and_eq_true, beq_iff_eq, Option.some.injEq, exists_eq_left']
          exact ⟨fun h => ⟨h.1.symm, h.2⟩, fun h => ⟨h.1.symm, h.2⟩⟩

end Saxpy

/-- Scaled vector addition. -/
def saxpy : Adapter where
  key := "saxpy"
  functionName := "saxpy"
  buffers := Saxpy.buffers
  scalars := Saxpy.scalars
  scalarKinds := Saxpy.scalarKinds
  definitions := Saxpy.definitions
  requiredScalars := .ofNames ["a"]
  generateScalars := fun c => generateLength c "x" Saxpy.elementSize
  outputSizes := fun hostSizes _ _ => Saxpy.outputSizes hostSizes
  inputSizesValid := Saxpy.inputSizesValid
  parameters := fun _ =>
    [.scalar lengthName (.int .u32), .scalar "a" (.float .single),
      .buffer "x" .input, .buffer "y" .inout]
  deduceLaunch := fun c => linearLaunch "saxpy" c "x" Saxpy.elementSize

end Kernels
end KernelLaunch
