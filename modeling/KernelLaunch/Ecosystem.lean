import KernelLaunch.Text.Blank

/-!
# Execution ecosystems and their calling conventions

A run targets one of two GPU interfaces.  They differ in how a launch takes its
arguments: one wants an array of addresses closed by a null entry, the other
wants each address together with a size.

**Results.**
* `parse_name`: the name of an ecosystem reads as that ecosystem.
* `parse_eq_ok_iff`: exactly the trimmed lower-case names and their short forms
  are accepted.
-/

namespace KernelLaunch

/-- How a launch primitive expects its argument array. -/
inductive CallingConvention
  | nullTerminated
  | sizeAnnotated
  deriving DecidableEq, Repr

def CallingConvention.name : CallingConvention → String
  | .nullTerminated => "NullTerminated"
  | .sizeAnnotated => "SizeAnnotated"

/-- The GPU interface a run targets. -/
inductive Ecosystem
  | cuda
  | openCl
  deriving DecidableEq, Repr

/-- A text that names no ecosystem; it is kept as given. -/
structure EcosystemError where
  given : String
  deriving DecidableEq, Repr

def EcosystemError.message (e : EcosystemError) : String :=
  s!"unknown execution ecosystem '{e.given}' (expected 'cuda' or 'opencl')"

namespace Ecosystem

instance : Inhabited Ecosystem := ⟨.cuda⟩

def name : Ecosystem → String
  | .cuda => "cuda"
  | .openCl => "opencl"

/-- The convention of the ecosystem's launch primitive. -/
def convention : Ecosystem → CallingConvention
  | .cuda => .nullTerminated
  | .openCl => .sizeAnnotated

/-- Whether the launch primitive needs the size of every argument. -/
def needsArgumentSizes (e : Ecosystem) : Bool := e.convention = .sizeAnnotated

/-- Whether the argument array ends with a null entry. -/
def nullTerminatesArguments (e : Ecosystem) : Bool := e.convention = .nullTerminated

/-- The spellings of an ecosystem, in lower case. -/
def spellings : Ecosystem → List String
  | .cuda => ["cuda"]
  | .openCl => ["opencl", "ocl", "cl"]

/-- Reads a name without regard to ASCII case and to blanks at its ends. -/
def parse (s : String) : Except EcosystemError Ecosystem :=
  let lower := String.ofList ((Text.trim s.toList).map Char.toLower)
  if lower ∈ cuda.spellings then .ok .cuda
  else if lower ∈ openCl.spellings then .ok .openCl
  else .error ⟨s⟩

/-- Exactly the spellings are accepted. -/
theorem parse_eq_ok_iff {s : String} {e : Ecosystem} :
    parse s = .ok e ↔
      String.ofList ((Text.trim s.toList).map Char.toLower) ∈ e.spellings := by
  unfold parse
  generalize String.ofList ((Text.trim s.toList).map Char.toLower) = lower
  cases e with
  | cuda =>
      by_cases hc : lower ∈ cuda.spellings
      · simp [hc]
      · by_cases ho : lower ∈ openCl.spellings <;> simp [hc, ho]
  | openCl =>
      by_cases hc : lower ∈ cuda.spellings
      · have hlower : lower = "cuda" := by simpa [spellings] using hc
        subst hlower
        simp [spellings]
      · by_cases ho : lower ∈ openCl.spellings <;> simp [hc, ho]

/-- The name of an ecosystem reads as that ecosystem. -/
theorem parse_name (e : Ecosystem) : parse e.name = .ok e := by
  rw [parse_eq_ok_iff]
  cases e <;> decide

end Ecosystem

end KernelLaunch
