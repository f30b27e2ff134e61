import KernelLaunch.Adapter.Basic

/-!
# Command-line options of a kernel

Each buffer, scalar and definition in an adapter's tables is offered as a
command-line option, in that order.  The option of a buffer has the buffer's own
name as its default, which serves as the end of a file path.

**Results.**
* `options_names`: the options are the table entries, in order.
-/

namespace KernelLaunch

/-- The table an option comes from. -/
inductive OptionGroup
  | buffer
  | scalar
  | definition
  deriving DecidableEq, Repr

def OptionGroup.title : OptionGroup → String
  | .buffer => "buffers"
  | .scalar => "scalar arguments"
  | .definition => "preprocessor definitions"

/-- A command-line option of a kernel. -/
structure CommandLineOption where
  name : String
  description : String
  default? : Option String
  group : OptionGroup
  deriving DecidableEq, Repr

/-- The option as shown in a list of options. -/
def CommandLineOption.text (o : CommandLineOption) : String :=
  s!"--{o.name}: {o.description}"

namespace Adapter

def options (a : Adapter) : List CommandLineOption :=
  (a.buffers.map fun b => ⟨b.name, b.description, some b.name, .buffer⟩) ++
    (a.scalars.map fun s => ⟨s.name, s.description, none, .scalar⟩) ++
    (a.definitions.map fun d => ⟨d.name, d.description, none, .definition⟩)

/-- The options are the table entries, in order. -/
theorem options_names (a : Adapter) :
    a.options.map (fun o => o.name) =
      a.buffers.map (fun b => b.name) ++ a.scalars.map (fun s => s.name) ++
        a.definitions.map (fun d => d.name) := by
  simp [options, Function.comp_def]

end Adapter

end KernelLaunch
