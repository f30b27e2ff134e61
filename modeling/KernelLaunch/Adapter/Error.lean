import KernelLaunch.Direction
import KernelLaunch.Ecosystem
import KernelLaunch.Launch.Components
import KernelLaunch.Scalar.Literal

/-!
# What can go wrong when a kernel is prepared and launched

Every cause is a constructor that holds what the message shows, so that a
statement about an error does not depend on its wording.
-/

namespace KernelLaunch

/-- What is wrong with the value of a definition that must be a positive number. -/
inductive CountFault
  | numeral (fault : Text.NumeralError)
  | notPositive
  deriving DecidableEq, Repr

def CountFault.message : CountFault → String
  | .numeral fault => fault.message
  | .notPositive => "must be positive"

/-- The checks of its own that an adapter makes of a context. -/
inductive Check
  | extraValidity
  | inputSizes
  deriving DecidableEq, Repr

def Check.name : Check → String
  | .extraValidity => "extra validity checks"
  | .inputSizes => "input size validation"

/-- Why a kernel cannot be prepared or launched. -/
inductive AdapterError
  | unregisteredKey (key : String)
  | duplicateKey (key : String)
  | unknownScalar (key name : String)
  | badScalar (name : String) (fault : LiteralError)
  | missingBuffer (name : String) (direction : Direction)
  | missingInput (name : String)
  | missingScalar (name : String)
  | scalarKindMismatch (name : String) (expected actual : ScalarKind)
  | bufferEcosystemMismatch (name : String) (expected actual : Ecosystem)
  | launchUndeducible (key : String)
  | validationFailed (key : String) (check : Check)
  | tooManyElements (name : String) (count : Nat)
  | emptyElements (name : String)
  | missingDefinition (name : String)
  | badCount (name value : String) (fault : CountFault)
  | unrealizable (fault : LaunchComponents.RealizeError)
  deriving DecidableEq

def AdapterError.message : AdapterError → String
  | .unregisteredKey key => s!"no kernel adapter is registered under key '{key}'"
  | .duplicateKey key => s!"a kernel adapter is already registered under key '{key}'"
  | .unknownScalar key name => s!"kernel adapter '{key}' has no scalar argument named '{name}'"
  | .badScalar name fault => s!"invalid value for scalar argument '{name}': {fault.message}"
  | .missingBuffer name direction =>
      s!"no device-side buffer '{name}' bound for direction {direction.name}"
  | .missingInput name => s!"no host-side input buffer '{name}'"
  | .missingScalar name => s!"no value for scalar argument '{name}'"
  | .scalarKindMismatch name expected actual =>
      s!"scalar argument '{name}' holds a {actual.name} value, "
        ++ s!"but the kernel expects {expected.name}"
  | .bufferEcosystemMismatch name expected actual =>
      s!"buffer '{name}' holds a {actual.name} handle, but the run targets {expected.name}"
  | .launchUndeducible key =>
      s!"Unable to deduce launch configuration for kernel '{key}' - please specify all launch "
        ++ "configuration components explicitly using the command-line"
  | .validationFailed key check =>
      s!"kernel '{key}' rejected the execution context: {check.name} failed"
  | .tooManyElements name count =>
      s!"buffer '{name}' holds {count} elements, more than a u32 length can address"
  | .emptyElements name => s!"buffer '{name}' cannot be counted in elements of no bytes"
  | .missingDefinition name => s!"required preprocessor definition '{name}' is not defined"
  | .badCount name value fault =>
      s!"preprocessor definition {name}={value} is invalid: {fault.message}"
  | .unrealizable fault => s!"Device error: {fault.message}"

end KernelLaunch
