import KernelLaunch.Ecosystem
import KernelLaunch.Launch.Components
import KernelLaunch.Definitions

/-!
# Settings read from variables

Settings of a run come as text from a source of named variables, for instance the
environment of a process.  A variable that is not set leaves its setting open; one
that is set must hold a usable text.  Blanks at the ends of a value do not matter.

**Results.**
* `setting_eq_none_iff`: a setting is left open exactly if its variable is not set.
* `setting_eq_error_iff`: a refusal shows the variable and its whole value.
-/

namespace KernelLaunch

/-- A source of named texts. -/
abbrev Variables := String → Option String

/-- What is wrong with the value of a variable. -/
inductive SettingFault
  | dimensions (fault : DimensionsError)
  | ecosystem (fault : EcosystemError)
  | numeral (fault : Text.NumeralError)
  | noRuns
  deriving DecidableEq, Repr

def SettingFault.message : SettingFault → String
  | .dimensions e => e.message
  | .ecosystem e => e.message
  | .numeral e => e.message
  | .noRuns => "at least one run is required"

/-- Why settings cannot be read. -/
inductive SettingsError
  | badValue (name value : String) (fault : SettingFault)
  | badDefinition (fault : DefinitionError)
  deriving DecidableEq, Repr

def SettingsError.message : SettingsError → String
  | .badValue name value fault =>
      s!"environment variable {name} has invalid value '{value}': {fault.message}"
  | .badDefinition fault => fault.message

section Readers

variable {α : Type}

def readDimensionsSetting (s : String) : Except SettingFault Dimensions :=
  (Dimensions.parse s).mapError .dimensions

def readEcosystemSetting (s : String) : Except SettingFault Ecosystem :=
  (Ecosystem.parse s).mapError .ecosystem

/-- Reads a number with a reader of numerals. -/
def readNumeralSetting (read : List Char → Except Text.NumeralError α) (s : String) :
    Except SettingFault α :=
  (read s.toList).mapError .numeral

/-- Reads the trimmed value of a variable, if it is set. -/
def setting (vars : Variables) (name : String) (read : String → Except SettingFault α) :
    Except SettingsError (Option α) :=
  match vars name with
  | none => .ok none
  | some value =>
      match read (Text.trimmed value) with
      | .ok a => .ok (some a)
      | .error fault => .error (.badValue name value fault)

/-- A setting is left open exactly if its variable is not set. -/
theorem setting_eq_none_iff
    {vars : Variables}
    {name : String}
    {read : String → Except SettingFault α} :
    setting vars name read = .ok none ↔ vars name = none := by
  unfold setting
  cases vars name with
  | none => simp
  | some value => cases h : read (Text.trimmed value) <;> simp [h]

theorem setting_eq_some_iff
    {vars : Variables}
    {name : String}
    {read : String → Except SettingFault α}
    {a : α} :
    setting vars name read = .ok (some a) ↔
      ∃ value, vars name = some value ∧ read (Text.trimmed value) = .ok a := by
  unfold setting
  cases vars name with
  | none => simp
  | some value => cases h : read (Text.trimmed value) <;> simp [h]

/-- A refusal shows the variable and its whole value. -/
theorem setting_eq_error_iff
    {vars : Variables}
    {name : String}
    {read : String → Except SettingFault α}
    {e : SettingsError} :
    setting vars name read = .error e ↔
      ∃ value fault, vars name = some value ∧
        read (Text.trimmed value) = .error fault ∧ e = .badValue name value fault := by
  unfold setting
  cases vars name with
  | none => simp
  | some value => cases h : read (Text.trimmed value) <;> simp [h, eq_comm]

end Readers

section Launch

/-- Reads the parts of a launch that the variables force. -/
def LaunchComponents.ofVariables (vars : Variables) :
    Except SettingsError LaunchComponents := do
  let grid ← setting vars "GKR_GRID" readDimensionsSetting
  let overall ← setting vars "GKR_OVERALL_GRID" readDimensionsSetting
  let block ← setting vars "GKR_BLOCK" readDimensionsSetting
  let sharedMemory ← setting vars "GKR_DYNAMIC_SHMEM" (readNumeralSetting Text.readU32)
  return { grid, overall, block, sharedMemory }

end Launch

end KernelLaunch
