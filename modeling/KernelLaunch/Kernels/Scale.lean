import KernelLaunch.Adapter.Basic

/-!
# Scaling in place

Multiplies a vector of double-precision numbers by a constant.  The kernel does not
check its thread's index against a length, so no launch is safe to deduce and the
grid and the block must be forced.
-/

namespace KernelLaunch
namespace Kernels
namespace Scale

/-- Size of an element in bytes. -/
def elementSize : Nat := 8

/-- The vector. -/
def buffers : List BufferDescriptor :=
  [⟨"data", .inout, "Vector scaled in place"⟩]

/-- The constant. -/
def scalars : List ScalarDescriptor :=
  [⟨"factor", "Multiplier"⟩]

/-- The kind of the constant. -/
def scalarKinds : List (String × ScalarKind) := [("factor", .float .double)]

/-- The vector keeps its size. -/
def outputSizes (hostSizes : HostSizes) : Except AdapterError (NameMap Nat) :=
  match hostSizes.get? "data" with
  | some bytes => .ok (.single "data" bytes)
  | none => .error (.missingInput "data")

/-- Whether there is a whole number of elements. -/
def inputSizesValid (c : Context) : Bool :=
  match c.hostSizes.get? "data" with
  | some bytes => bytes % elementSize == 0
  | none => false

end Scale

/-- Scaling in place. -/
def scaleInPlace : Adapter where
  key := "scale_in_place"
  functionName := "scale"
  buffers := Scale.buffers
  scalars := Scale.scalars
  scalarKinds := Scale.scalarKinds
  requiredScalars := .ofNames ["factor"]
  outputSizes := fun hostSizes _ _ => Scale.outputSizes hostSizes
  inputSizesValid := Scale.inputSizesValid
  parameters := fun _ =>
    Scale.buffers.map BufferDescriptor.parameter ++ [.scalar "factor" (.float .double)]

end Kernels
end KernelLaunch
