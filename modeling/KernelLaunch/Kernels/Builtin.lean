import KernelLaunch.Kernels.Histogram
import KernelLaunch.Kernels.Saxpy
import KernelLaunch.Kernels.Scale
import KernelLaunch.Kernels.VectorAdd
import KernelLaunch.Registry
import KernelLaunch.Settings.RunOptions

/-!
# The built-in adapters

The adapters that come with the library, the registry that holds them, and the
adapter that given options select.

**Results.**
* `keys_builtins`: the built-in adapters have distinct keys, all of them registered.
-/

namespace KernelLaunch

/-- The built-in adapters in the order in which they are registered. -/
def builtinAdapters : List Adapter :=
  [Kernels.vectorAdd, Kernels.openClVectorAdd, Kernels.saxpy, Kernels.histogram,
    Kernels.scaleInPlace]

namespace Registry

/-- Registers every built-in adapter, up to the first that is refused. -/
def registerBuiltins (r : Registry) : Except AdapterError Unit × Registry :=
  r.registerAll builtinAdapters

/-- One step of filling a registry. -/
inductive Step
  | register (key : String) (adapter : Adapter) (policy : DuplicatePolicy)
  | registerOwn (adapter : Adapter) (policy : DuplicatePolicy)
  | builtins

/-- The outcome of a registration, with the registry after it.  A refused one leaves the
registry as it is. -/
def settle (r : Registry) : Except AdapterError Registry → Except AdapterError Unit × Registry
  | .ok s => (.ok (), s)
  | .error e => (.error e, r)

/-- Takes a step. -/
def step (r : Registry) : Step → Except AdapterError Unit × Registry
  | .register key a policy => r.settle (r.register key a policy)
  | .registerOwn a policy => r.settle (r.registerOwn a policy)
  | .builtins => r.registerBuiltins

/-- The registry after steps from the first to the last. -/
def run (r : Registry) (ss : List Step) : Registry :=
  ss.foldl (fun r s => (r.step s).2) r

/-- The registry of the built-in adapters. -/
def builtins : Registry := empty.registerBuiltins.2

/-- The built-in adapters have distinct keys, all of them registered. -/
theorem keys_builtins :
    builtins.keys = ["histogram", "opencl_vector_add", "saxpy", "scale_in_place", "vector_add"] ∧
      empty.registerBuiltins.1 = .ok () :=
  ⟨by decide +kernel, rfl⟩

end Registry

namespace RunOptions

/-- The adapter that the options select. -/
def adapter (o : RunOptions) : Except AdapterError Adapter :=
  Registry.builtins.produce o.kernelKey

/-- The function to call: the one the options name, or else the adapter's own. -/
def functionFor (o : RunOptions) (a : Adapter) : String :=
  o.functionName.getD a.functionName

end RunOptions

end KernelLaunch
