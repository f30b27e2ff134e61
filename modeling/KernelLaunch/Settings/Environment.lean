import KernelLaunch.Settings.Basic

/-!
# The environment as a source of variables

The values in an environment are bytes.  Only a value that is well-formed UTF-8 is
a text; any other counts as not set.

**Results.**
* `toVariables_eq_none_iff`: a variable is not set exactly if it has no bytes or its
  bytes are not well-formed.
-/

namespace KernelLaunch

/-- The bytes that an environment holds by name. -/
abbrev Environment := String → Option ByteArray

/-- The variables whose bytes are well-formed text. -/
def Environment.toVariables (env : Environment) : Variables :=
  fun name => (env name).bind String.fromUTF8?

/-- A variable is not set exactly if it has no bytes or they are not well-formed. -/
theorem Environment.toVariables_eq_none_iff {env : Environment} {name : String} :
    env.toVariables name = none ↔
      ∀ bytes, env name = some bytes → String.fromUTF8? bytes = none := by
  unfold Environment.toVariables
  cases env name <;> simp

end KernelLaunch
