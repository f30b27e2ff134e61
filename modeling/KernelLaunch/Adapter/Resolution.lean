import KernelLaunch.Adapter.Basic
import KernelLaunch.Outcome

/-!
# Resolution of the launch

If the forced parts of a launch are sufficient they are the launch, and the adapter
is not asked.  Otherwise the launch is what the adapter deduces.  The two are never
mixed part by part.

**Results.**
* `resolve_of_sufficient`, `resolve_of_insufficient`: which of the two it is.
* `makeRealizedLaunch_eq_ok_iff`, `makeRealizedLaunch_eq_error_iff`: when a fully specified
  launch is there, and which, and why there is none.
-/

namespace KernelLaunch

/-- Where a resolved launch comes from. -/
inductive LaunchSource
  | forced
  | deduced
  deriving DecidableEq, Repr

def LaunchSource.name : LaunchSource → String
  | .forced => "forced"
  | .deduced => "deduced"

namespace Adapter

/-- The launch to use, with its source. -/
def resolve (a : Adapter) (c : Context) :
    Except AdapterError (LaunchComponents × LaunchSource) :=
  if c.forced.isSufficient then .ok (c.forced, .forced)
  else (a.deduceLaunch c).map fun components => (components, .deduced)

def makeLaunch (a : Adapter) (c : Context) : Except AdapterError LaunchComponents :=
  (a.resolve c).map Prod.fst

/-- The launch to use, fully specified. -/
def makeRealizedLaunch (a : Adapter) (c : Context) : Except AdapterError LaunchConfig :=
  match a.makeLaunch c with
  | .error e => .error e
  | .ok components => components.realize.mapError .unrealizable

/-- Sufficient forced parts are the launch. -/
theorem resolve_of_sufficient {a : Adapter} {c : Context}
    (h : c.forced.isSufficient = true) :
    a.resolve c = .ok (c.forced, .forced) := by
  simp [resolve, h]

/-- Otherwise the launch is what the adapter deduces. -/
theorem resolve_of_insufficient {a : Adapter} {c : Context}
    (h : c.forced.isSufficient = false) :
    a.resolve c = (a.deduceLaunch c).map fun components => (components, .deduced) := by
  simp [resolve, h]

theorem makeLaunch_of_sufficient {a : Adapter} {c : Context}
    (h : c.forced.isSufficient = true) :
    a.makeLaunch c = .ok c.forced := by
  rw [makeLaunch, resolve_of_sufficient h]
  rfl

theorem makeRealizedLaunch_of_sufficient {a : Adapter} {c : Context}
    (h : c.forced.isSufficient = true) :
    a.makeRealizedLaunch c = c.forced.realize.mapError .unrealizable := by
  rw [makeRealizedLaunch, makeLaunch_of_sufficient h]

theorem makeLaunch_of_insufficient {a : Adapter} {c : Context}
    (h : c.forced.isSufficient = false) :
    a.makeLaunch c = a.deduceLaunch c := by
  rw [makeLaunch, resolve_of_insufficient h]
  cases a.deduceLaunch c <;> rfl

/-- A fully specified launch is there exactly if a launch is and can be realized. -/
theorem makeRealizedLaunch_eq_ok_iff {a : Adapter} {c : Context} {l : LaunchConfig} :
    a.makeRealizedLaunch c = .ok l ↔
      ∃ components, a.makeLaunch c = .ok components ∧ components.realize = .ok l := by
  rw [makeRealizedLaunch]
  cases a.makeLaunch c with
  | error e => simp
  | ok components => simp [mapError_eq_ok_iff]

/-- There is none if no launch is made or the launch that is made cannot be realized. -/
theorem makeRealizedLaunch_eq_error_iff {a : Adapter} {c : Context} {e : AdapterError} :
    a.makeRealizedLaunch c = .error e ↔
      a.makeLaunch c = .error e ∨ ∃ components fault, a.makeLaunch c = .ok components ∧
        components.realize = .error fault ∧ e = .unrealizable fault := by
  rw [makeRealizedLaunch]
  cases a.makeLaunch c with
  | error e => simp
  | ok components => simp [mapError_eq_error_iff]

end Adapter

end KernelLaunch
