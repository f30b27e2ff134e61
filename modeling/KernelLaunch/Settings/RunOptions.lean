import KernelLaunch.Settings.Basic

/-!
# Options of a run

The options that apply whatever kernel is run: which adapter handles it, where it
runs, how often, which parts of the launch are forced and which definitions the
kernel is compiled with.

Options are read from variables in a fixed order, and the first unusable variable
decides the error.

**Results.**
* `ofVariables_empty`: without any variable all options have their defaults.
-/

namespace KernelLaunch

/-- Options of a run. -/
structure RunOptions where
  kernelKey : String
  functionName : Option String := none
  ecosystem : Ecosystem := .cuda
  platform : Option UInt32 := none
  device : UInt32 := 0
  runs : UInt64 := 1
  forced : LaunchComponents := .empty
  definitions : Definitions := .empty
  deriving DecidableEq

namespace RunOptions

section Reading

/-- Reads how often the kernel is run, which must be at least once. -/
def readRuns (vars : Variables) : Except SettingsError UInt64 := do
  let runs := (← setting vars "GKR_RUNS" (readNumeralSetting Text.readU64)).getD 1
  if runs = 0 then .error (.badValue "GKR_RUNS" "0" .noRuns) else .ok runs

/-- Reads the definition terms, which stand between blanks. -/
def readDefinitions (vars : Variables) : Except SettingsError Definitions :=
  match vars "GKR_DEFINES" with
  | none => .ok .empty
  | some value =>
      (Definitions.empty.defineAll ((Text.words value.toList).map String.ofList)).mapError
        .badDefinition

/-- Reads options from variables. -/
def ofVariables (vars : Variables) : Except SettingsError RunOptions := do
  let ecosystem ← setting vars "GKR_ECOSYSTEM" readEcosystemSetting
  let platform ← setting vars "GKR_PLATFORM" (readNumeralSetting Text.readU32)
  let device ← setting vars "GKR_DEVICE" (readNumeralSetting Text.readU32)
  let runs ← readRuns vars
  let definitions ← readDefinitions vars
  let forced ← LaunchComponents.ofVariables vars
  return {
    kernelKey := (vars "GKR_KERNEL").getD ""
    functionName := vars "GKR_FUNCTION"
    ecosystem := ecosystem.getD .cuda
    platform
    device := device.getD 0
    runs
    forced
    definitions }

/-- Without any variable all options have their defaults. -/
theorem ofVariables_empty : ofVariables (fun _ => none) = .ok { kernelKey := "" } := rfl

end Reading

end RunOptions

end KernelLaunch
