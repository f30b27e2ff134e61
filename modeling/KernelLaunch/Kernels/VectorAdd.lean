import KernelLaunch.Kernels.Linear

/-!
# Vector addition

Adds two vectors of single-precision numbers element by element.  The sources for the
two ecosystems share their function and parameters, so the two adapters differ only
in their key.

**Results.**
* `addendSizesMatch_iff`: the inputs fit together when they have the same whole number
  of elements and the length does not go past their end.
-/

namespace KernelLaunch
namespace Kernels
namespace VectorAdd

/-- Size of an element in bytes. -/
def elementSize : Nat := 4

/-- The addends and the sum. -/
def buffers : List BufferDescriptor :=
  [⟨"A", .input, "First addend"⟩,
    ⟨"B", .input, "Second addend"⟩,
    ⟨"C", .output, "Element-wise sum"⟩]

/-- The element count. -/
def scalars : List ScalarDescriptor :=
  [⟨lengthName, "Number of elements to add; defaults to the length of A"⟩]

/-- The kind of the element count. -/
def scalarKinds : List (String × ScalarKind) := [(lengthName, .int .u32)]

/-- The limit on the size of a block. -/
def definitions : List DefinitionDescriptor :=
  [⟨blockSizeName, false, "Upper bound on threads per block"⟩]

/-- The sum has as many elements as are added. -/
def outputSizes (hostSizes : HostSizes) (args : ScalarArguments) :
    Except AdapterError (NameMap Nat) :=
  (elementCount args hostSizes "A" elementSize).map fun n =>
    .single "C" (bytesOf n elementSize)

theorem outputSizes_eq_ok_iff
    {hostSizes : HostSizes} {args : ScalarArguments} {sizes : NameMap Nat} :
    outputSizes hostSizes args = .ok sizes ↔
      ∃ n, elementCount args hostSizes "A" elementSize = .ok n ∧
        sizes = .single "C" (bytesOf n elementSize) := by
  rw [outputSizes, map_eq_ok_iff]

/-- The number of bytes to check against inputs of `bytes` bytes, if the length is a count. -/
def checkedBytes? (args : ScalarArguments) (bytes : Nat) : Option Nat :=
  match args.get? lengthName with
  | some v => v.asU32?.map fun n => bytesOf n elementSize
  | none => some (bytes / elementSize * elementSize)

/-- Whether the addends have the same whole number of elements and at least as many as
are added. -/
def addendSizesMatch (c : Context) : Bool :=
  match c.hostSizes.get? "A", c.hostSizes.get? "B" with
  | some a, some b =>
      match checkedBytes? c.scalars a with
      | some n => a == b && a % elementSize == 0 && decide (n ≤ a)
      | none => false
  | _, _ => false

/-- The inputs fit together exactly when they have the same whole number of elements and
the length does not go past their end. -/
theorem addendSizesMatch_iff (c : Context) :
    addendSizesMatch c = true ↔
      ∃ a n, c.hostSizes.get? "A" = some a ∧ c.hostSizes.get? "B" = some a ∧
        checkedBytes? c.scalars a = some n ∧ a % elementSize = 0 ∧ n ≤ a := by
  unfold addendSizesMatch
  cases ha : c.hostSizes.get? "A" with
  | none => simp
  | some a =>
      cases hb : c.hostSizes.get? "B" with
      | none => simp
      | some b =>
          cases hn : checkedBytes? c.scalars a with
          | none =>
              simp only [hn, Option.some.injEq, Bool.false_eq_true, false_iff, not_exists,
                not_and]
              rintro x n rfl _ h
              rw [hn] at h
              cases h
          | some n =>
              simp only [hn, Bool.and_eq_true, beq_iff_eq, decide_eq_true_eq,
                Option.some.injEq]
              constructor
              · rintro ⟨⟨rfl, hmod⟩, hle⟩
                exact ⟨a, n, rfl, rfl, hn, hmod, hle⟩
              · rintro ⟨x, m, rfl, rfl, hm, hmod, hle⟩
                rw [hn] at hm
                cases hm
                exact ⟨⟨rfl, hmod⟩, hle⟩

/-- The adapter of vector addition under a key. -/
def adapter (key : String) : Adapter where
  key := key
  functionName := "vectorAdd"
  buffers := buffers
  scalars := scalars
  scalarKinds := scalarKinds
  definitions := definitions
  generateScalars := fun c => generateLength c "A" elementSize
  outputSizes := fun hostSizes args _ => outputSizes hostSizes args
  inputSizesValid := addendSizesMatch
  parameters := fun _ =>
    buffers.map BufferDescriptor.parameter ++ [.scalar lengthName (.int .u32)]
  deduceLaunch := fun c => linearLaunch key c "A" elementSize

end VectorAdd

/-- Vector addition, compiled from the CUDA source. -/
def vectorAdd : Adapter := VectorAdd.adapter "vector_add"

/-- Vector addition, compiled from the OpenCL source. -/
def openClVectorAdd : Adapter := VectorAdd.adapter "opencl_vector_add"

end Kernels
end KernelLaunch
