import KernelLaunch.Adapter.Basic

/-!
# Validation of a context for a kernel

A context is checked before any device memory exists.  First its structure: every
required definition, every required scalar and every input buffer is there.  Then
the adapter's own checks, which answer only yes or no.  The first failure in that
order is reported.

Preparing a run merges the scalars that the adapter generates, validates the
context, and answers the sizes of the outputs to allocate.

**Results.**
* `validate_eq_ok_iff`: a context passes exactly if nothing is missing and both
  checks answer yes.
* `validate_congr`: what the outcome follows from.
* `prepare_eq_ok_iff`: preparing succeeds exactly if its three parts do.
* `inputSizesValid_of_prepare`, `hostSizes_of_prepare`: what holds of a prepared context.
-/

namespace KernelLaunch
namespace Adapter

section Validate

/-- The first required definition that is not there. -/
def missingDefinition? (a : Adapter) (c : Context) : Option String :=
  a.requiredDefinitions.names.find? fun n => !c.definitions.isDefined n

/-- The first required scalar that is not there. -/
def missingScalar? (a : Adapter) (c : Context) : Option String :=
  a.requiredScalars.names.find? fun n => !c.scalars.contains n

/-- The first buffer of the table that is read and has no host copy. -/
def missingInput? (a : Adapter) (c : Context) : Option String :=
  (a.buffers.find? fun b => b.direction.isInput && !c.hostSizes.contains b.name).map
    fun b => b.name

/-- The first of the adapter's own checks that fails. -/
def failedCheck? (a : Adapter) (c : Context) : Option Check :=
  if a.extraChecks c then
    if a.inputSizesValid c then none else some .inputSizes
  else some .extraValidity

/-- The first failure of a context, if there is one. -/
def fault? (a : Adapter) (c : Context) : Option AdapterError :=
  ((a.missingDefinition? c).map .missingDefinition).or <|
    ((a.missingScalar? c).map .missingScalar).or <|
      ((a.missingInput? c).map .missingInput).or <|
        (a.failedCheck? c).map (.validationFailed a.key)

/-- Whether a context can be used to run the kernel. -/
def validate (a : Adapter) (c : Context) : Except AdapterError Unit :=
  match a.fault? c with
  | none => .ok ()
  | some e => .error e

/-- A context passes exactly if nothing is missing and both checks answer yes. -/
theorem validate_eq_ok_iff (a : Adapter) (c : Context) :
    a.validate c = .ok () ↔
      (∀ n, a.requiredDefinitions.contains n = true → c.definitions.isDefined n = true) ∧
        (∀ n, a.requiredScalars.contains n = true → c.scalars.contains n = true) ∧
          (∀ b ∈ a.buffers,
            b.direction.isInput = true → c.hostSizes.contains b.name = true) ∧
            a.extraChecks c = true ∧ a.inputSizesValid c = true := by
  have hok : a.validate c = .ok () ↔ a.fault? c = none := by
    unfold validate
    split <;> simp_all
  have hcheck : a.failedCheck? c = none ↔
      a.extraChecks c = true ∧ a.inputSizesValid c = true := by
    unfold failedCheck?
    cases a.extraChecks c <;> cases a.inputSizesValid c <;> simp
  rw [hok, fault?]
  simp only [Option.or_eq_none_iff, Option.map_eq_none_iff, hcheck, missingDefinition?,
    missingScalar?, missingInput?, List.find?_eq_none, NameMap.mem_names_iff,
    Bool.not_eq_true', Bool.not_eq_false, Bool.and_eq_true, not_and]

/-- Besides what its own checks answer, the adapter looks at the names of the definitions, the
scalars and the host sizes. -/
theorem validate_congr {a : Adapter} {c d : Context}
    (hdefinition : a.missingDefinition? c = a.missingDefinition? d)
    (hscalars : c.scalars = d.scalars)
    (hsizes : c.hostSizes = d.hostSizes)
    (hextra : a.extraChecks c = a.extraChecks d)
    (hvalid : a.inputSizesValid c = a.inputSizesValid d) :
    a.validate c = a.validate d := by
  have hscalar : a.missingScalar? c = a.missingScalar? d := by
    rw [missingScalar?, missingScalar?, hscalars]
  have hinput : a.missingInput? c = a.missingInput? d := by
    rw [missingInput?, missingInput?, hsizes]
  have hcheck : a.failedCheck? c = a.failedCheck? d := by
    rw [failedCheck?, failedCheck?, hextra, hvalid]
  rw [validate, validate, fault?, fault?, hdefinition, hscalar, hinput, hcheck]

end Validate

section Prepare

/-- Prepares a run.  The context that is returned holds the generated scalars, also
when the context fails its validation. -/
def prepare (a : Adapter) (c : Context) : Except AdapterError (NameMap Nat) × Context :=
  match a.generateScalars c with
  | .error e => (.error e, c)
  | .ok generated =>
      let merged := c.mergeScalars generated
      match a.validate merged with
      | .error e => (.error e, merged)
      | .ok () =>
          (a.outputSizes merged.hostSizes merged.scalars merged.definitions, merged)

/-- Preparing succeeds exactly if its three parts do. -/
theorem prepare_eq_ok_iff {a : Adapter} {c d : Context} {sizes : NameMap Nat} :
    a.prepare c = (.ok sizes, d) ↔
      ∃ generated, a.generateScalars c = .ok generated ∧ d = c.mergeScalars generated ∧
        a.validate d = .ok () ∧
          a.outputSizes d.hostSizes d.scalars d.definitions = .ok sizes := by
  unfold prepare
  cases a.generateScalars c with
  | error e => simp
  | ok generated =>
      simp only [Except.ok.injEq, exists_eq_left']
      cases hv : a.validate (c.mergeScalars generated) with
      | error e =>
          simp only [Prod.mk.injEq, reduceCtorEq, false_and, false_iff, not_and]
          rintro rfl hd
          rw [hv] at hd
          cases hd
      | ok u =>
          simp only [Prod.mk.injEq]
          constructor
          · rintro ⟨hsizes, rfl⟩
            exact ⟨rfl, hv, hsizes⟩
          · rintro ⟨rfl, _, hsizes⟩
            exact ⟨hsizes, rfl⟩

/-- A context that comes out of a successful preparation passes the size check. -/
theorem inputSizesValid_of_prepare
    {a : Adapter} {c d : Context} {sizes : NameMap Nat}
    (h : a.prepare c = (.ok sizes, d)) :
    a.inputSizesValid d = true := by
  obtain ⟨_, _, _, hvalid, _⟩ := prepare_eq_ok_iff.1 h
  exact ((validate_eq_ok_iff a d).1 hvalid).2.2.2.2

/-- Preparing leaves the host sizes as they are. -/
theorem hostSizes_of_prepare
    {a : Adapter} {c d : Context} {sizes : NameMap Nat}
    (h : a.prepare c = (.ok sizes, d)) :
    d.hostSizes = c.hostSizes := by
  obtain ⟨_, _, rfl, _⟩ := prepare_eq_ok_iff.1 h
  rfl

end Prepare

end Adapter
end KernelLaunch
