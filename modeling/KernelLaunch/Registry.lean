import KernelLaunch.Adapter.Basic
import KernelLaunch.Text.Quoted

/-!
# The registry of adapters

Adapters are registered under keys and found by them.  The first registration under
a key stays, whatever is registered later: a second one is either refused or passed
over, as its policy says.

**Results.**
* `register_eq_ok_iff`: what a registration does, if it is not refused.
* `register_eq_error_iff`: when a registration is refused.
* `find?_register`: a registration is seen under its own key, if that was new.
-/

namespace KernelLaunch

/-- What to do when a key is registered again. -/
inductive DuplicatePolicy
  | reject
  | keepFirst
  deriving DecidableEq, Repr

instance : Inhabited DuplicatePolicy := ⟨.reject⟩

/-- Adapters by key. -/
structure Registry where
  adapters : NameMap Adapter := .empty

namespace Registry

section Operations

def empty : Registry := {}

/-- Whether an adapter is registered under a key. -/
def canProduce (r : Registry) (key : String) : Bool :=
  r.adapters.contains key

/-- The adapter registered under a key, if there is one. -/
def find? (r : Registry) (key : String) : Option Adapter :=
  r.adapters.get? key

/-- The adapter registered under a key. -/
def produce (r : Registry) (key : String) : Except AdapterError Adapter :=
  match r.find? key with
  | some a => .ok a
  | none => .error (.unregisteredKey key)

def keys (r : Registry) : List String := r.adapters.names

def size (r : Registry) : Nat := r.adapters.size

def isEmpty (r : Registry) : Bool := r.adapters.isEmpty

/-- Registers an adapter under a key. -/
def register (r : Registry) (key : String) (a : Adapter) (policy : DuplicatePolicy) :
    Except AdapterError Registry :=
  if r.canProduce key then
    match policy with
    | .reject => .error (.duplicateKey key)
    | .keepFirst => .ok r
  else .ok { r with adapters := r.adapters.insert key a }

/-- Registers an adapter under its own key. -/
def registerOwn (r : Registry) (a : Adapter) (policy : DuplicatePolicy) :
    Except AdapterError Registry :=
  r.register a.key a policy

/-- Registers adapters under their own keys, up to the first that is refused. -/
def registerAll (r : Registry) : List Adapter → Except AdapterError Unit × Registry
  | [] => (.ok (), r)
  | a :: as =>
      match r.registerOwn a .reject with
      | .error e => (.error e, r)
      | .ok r' => r'.registerAll as

/-- The registry as shown to a developer: its quoted keys. -/
def text (r : Registry) : String :=
  let keys := r.keys.map fun k => String.ofList (Text.quoted k.toList)
  "AdapterRegistry \x7b keys: [" ++ String.intercalate ", " keys ++ "] \x7d"

end Operations

section Lemmas

/-- A registration is refused exactly if the key is taken and the policy is to refuse. -/
theorem register_eq_error_iff
    {r : Registry} {key : String} {a : Adapter} {policy : DuplicatePolicy}
    {e : AdapterError} :
    r.register key a policy = .error e ↔
      r.canProduce key = true ∧ policy = .reject ∧ e = .duplicateKey key := by
  unfold register
  by_cases hk : r.canProduce key = true
  · cases policy <;> simp [hk, eq_comm]
  · simp [hk]

/-- A registration that is not refused adds its adapter if the key is new. -/
theorem register_eq_ok_iff
    {r s : Registry} {key : String} {a : Adapter} {policy : DuplicatePolicy} :
    r.register key a policy = .ok s ↔
      (r.canProduce key = true ∧ policy = .keepFirst ∧ s = r) ∨
        (r.canProduce key = false ∧ s = ⟨r.adapters.insert key a⟩) := by
  unfold register
  by_cases hk : r.canProduce key = true
  · cases policy <;> simp [hk, eq_comm]
  · simp [hk, eq_comm]

/-- A registration is seen under its own key, if that was new. -/
theorem find?_register
    {r s : Registry} {key : String} {a : Adapter} {policy : DuplicatePolicy}
    (h : r.register key a policy = .ok s)
    (other : String) :
    s.find? other = (r.find? other).or (if key = other then some a else none) := by
  rcases register_eq_ok_iff.1 h with ⟨hk, _, rfl⟩ | ⟨hk, rfl⟩
  · by_cases ho : key = other
    · subst ho
      obtain ⟨b, hb⟩ := NameMap.contains_eq_true_iff.1 hk
      simp [find?, hb]
    · simp [ho]
  · by_cases ho : key = other
    · subst ho
      have hnone : r.adapters.get? key = none := by
        simpa [canProduce, NameMap.contains] using hk
      simp [find?, hnone]
    · simp [find?, ho]

end Lemmas

end Registry

end KernelLaunch
