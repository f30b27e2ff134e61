import KernelLaunch.Adapter.Validation
import KernelLaunch.Text.ByteOrder

/-!
# The first fault of a context

A kernel needs definitions, scalars and host copies of the buffers that it reads.  Of what a
context lacks, one thing is reported: definitions come before scalars, and scalars before
buffers; of several names that of the least bytes, and of several buffers the first in the
kernel's table.  The kernel's own checks are made only of contexts that lack nothing.

**Results.**
* `Context.extends_addAll`: additions take no name away.
* `complete_iff_not_lacks`, `Lacks.of_extends`: what is complete lacks nothing, and a context
  that has more lacks less.
* `fault?_eq_some_iff`: the fault that is found comes before all others.
* `Adapter.reportsFirst`: which contexts pass, and the one fault of those that do not.
-/

namespace KernelLaunch

namespace Context

section Presence

/-- The name is defined as a flag or with a value. -/
def HasDefinition (c : Context) (name : String) : Prop :=
  c.definitions.flags.contains name = true ∨ ∃ value, c.definitions.value? name = some value

def HasScalar (c : Context) (name : String) : Prop :=
  ∃ value, c.scalars.get? name = some value

/-- There is a host copy of the buffer. -/
def HasInput (c : Context) (name : String) : Prop :=
  ∃ size, c.hostSizes.get? name = some size

/-- If the kernel reads the buffer, there is a host copy of it. -/
def Supplies (c : Context) (b : BufferDescriptor) : Prop :=
  b.direction = .input ∨ b.direction = .inout → c.HasInput b.name

variable {c : Context} {name : String}

theorem hasDefinition_iff : c.HasDefinition name ↔ c.definitions.isDefined name = true :=
  Definitions.isDefined_eq_true_iff.symm

theorem hasScalar_iff : c.HasScalar name ↔ c.scalars.contains name = true :=
  NameMap.contains_eq_true_iff.symm

theorem hasInput_iff : c.HasInput name ↔ c.hostSizes.contains name = true :=
  NameMap.contains_eq_true_iff.symm

theorem supplies_iff {b : BufferDescriptor} :
    c.Supplies b ↔ (b.direction.isInput = true → c.hostSizes.contains b.name = true) := by
  rw [Supplies, hasInput_iff]
  cases b.direction <;> simp [Direction.isInput]

instance (c : Context) (name : String) : Decidable (c.HasDefinition name) :=
  decidable_of_iff _ hasDefinition_iff.symm

instance (c : Context) (name : String) : Decidable (c.HasScalar name) :=
  decidable_of_iff _ hasScalar_iff.symm

instance (c : Context) (b : BufferDescriptor) : Decidable (c.Supplies b) :=
  decidable_of_iff _ supplies_iff.symm

end Presence

section Additions

/-- The context has the names of another one, and may have more. -/
structure Extends (d c : Context) : Prop where
  definitions : ∀ name, c.HasDefinition name → d.HasDefinition name
  scalars : ∀ name, c.HasScalar name → d.HasScalar name
  inputs : ∀ name, c.HasInput name → d.HasInput name

/-- What can be added to a context. -/
inductive Addition
  | flag (name : String)
  | value (name value : String)
  | scalar (name : String) (value : ScalarValue)
  | input (name : String) (size : Nat)

/-- Adds to a context; an earlier value of the same name is replaced. -/
def add (c : Context) : Addition → Context
  | .flag name => { c with definitions := c.definitions.withFlag name }
  | .value name value => { c with definitions := c.definitions.withValue name value }
  | .scalar name value => { c with scalars := c.scalars.insert name value }
  | .input name size => { c with hostSizes := c.hostSizes.insert name size }

def addAll (c : Context) (xs : List Addition) : Context :=
  xs.foldl add c

theorem Extends.trans {b c d : Context} (h : d.Extends c) (h' : c.Extends b) : d.Extends b :=
  ⟨fun name hb => h.definitions name (h'.definitions name hb),
    fun name hb => h.scalars name (h'.scalars name hb),
    fun name hb => h.inputs name (h'.inputs name hb)⟩

theorem Extends.refl (c : Context) : c.Extends c :=
  ⟨fun _ h => h, fun _ h => h, fun _ h => h⟩

/-- An insertion leaves a value of every name that has one. -/
theorem exists_get?_insert {α : Type} {m : NameMap α} {name other : String} {a : α}
    (h : ∃ b, m.get? other = some b) :
    ∃ b, (m.insert name a).get? other = some b := by
  rw [NameMap.get?_insert]
  split
  · exact ⟨a, rfl⟩
  · exact h

theorem extends_add (c : Context) (x : Addition) : (c.add x).Extends c := by
  cases x with
  | flag name =>
      refine ⟨fun other h => ?_, fun _ h => h, fun _ h => h⟩
      rcases h with h | h
      · exact .inl (NameMap.contains_eq_true_iff.2
          (exists_get?_insert (NameMap.contains_eq_true_iff.1 h)))
      · exact .inr h
  | value name value =>
      refine ⟨fun other h => ?_, fun _ h => h, fun _ h => h⟩
      rcases h with h | h
      · exact .inl h
      · exact .inr (exists_get?_insert h)
  | scalar name value =>
      exact ⟨fun _ h => h, fun _ h => exists_get?_insert h, fun _ h => h⟩
  | input name size =>
      exact ⟨fun _ h => h, fun _ h => h, fun _ h => exists_get?_insert h⟩

/-- Additions take no name away. -/
theorem extends_addAll (c : Context) (xs : List Addition) : (c.addAll xs).Extends c := by
  induction xs generalizing c with
  | nil => exact .refl c
  | cons x xs ih => exact (ih (c.add x)).trans (extends_add c x)

end Additions

end Context

namespace Adapter

section Faults

/-- Something that the kernel needs is not in the context. -/
inductive Lacks (a : Adapter) (c : Context) : AdapterError → Prop
  | definition {name : String}
      (required : a.requiredDefinitions.contains name = true)
      (absent : ¬c.HasDefinition name) :
      Lacks a c (.missingDefinition name)
  | scalar {name : String}
      (required : a.requiredScalars.contains name = true)
      (absent : ¬c.HasScalar name) :
      Lacks a c (.missingScalar name)
  | input {b : BufferDescriptor}
      (listed : b ∈ a.buffers)
      (absent : ¬c.Supplies b) :
      Lacks a c (.missingInput b.name)

/-- Everything that the kernel needs is in the context. -/
structure Complete (a : Adapter) (c : Context) : Prop where
  definitions : ∀ name, a.requiredDefinitions.contains name = true → c.HasDefinition name
  scalars : ∀ name, a.requiredScalars.contains name = true → c.HasScalar name
  inputs : ∀ b ∈ a.buffers, c.Supplies b

/-- Of the names with a property, the one with the least bytes. -/
structure LeastName (p : String → Prop) (name : String) : Prop where
  holds : p name
  least : ∀ other, p other → other = name ∨ Text.bytes name < Text.bytes other

/-- The fault of a context that comes before all its others. -/
inductive FirstFault (a : Adapter) (c : Context) : AdapterError → Prop
  | definition {name : String}
      (first : LeastName (fun n => Lacks a c (.missingDefinition n)) name) :
      FirstFault a c (.missingDefinition name)
  | scalar {name : String}
      (definitions : ∀ n, ¬Lacks a c (.missingDefinition n))
      (first : LeastName (fun n => Lacks a c (.missingScalar n)) name) :
      FirstFault a c (.missingScalar name)
  | input {before after : List BufferDescriptor} {b : BufferDescriptor}
      (definitions : ∀ n, ¬Lacks a c (.missingDefinition n))
      (scalars : ∀ n, ¬Lacks a c (.missingScalar n))
      (table : a.buffers = before ++ b :: after)
      (absent : ¬c.Supplies b)
      (earlier : ∀ e ∈ before, c.Supplies e) :
      FirstFault a c (.missingInput b.name)
  | extraValidity
      (complete : Complete a c)
      (answer : a.extraChecks c = false) :
      FirstFault a c (.validationFailed a.key .extraValidity)
  | inputSizes
      (complete : Complete a c)
      (passed : a.extraChecks c = true)
      (answer : a.inputSizesValid c = false) :
      FirstFault a c (.validationFailed a.key .inputSizes)

variable {a : Adapter} {c d : Context} {e : AdapterError}

/-- What is complete lacks nothing. -/
theorem complete_iff_not_lacks : Complete a c ↔ ∀ e, ¬Lacks a c e := by
  constructor
  · intro h e hlacks
    cases hlacks with
    | definition required absent => exact absent (h.definitions _ required)
    | scalar required absent => exact absent (h.scalars _ required)
    | input listed absent => exact absent (h.inputs _ listed)
  · intro h
    refine ⟨fun name required => ?_, fun name required => ?_, fun b listed => ?_⟩
    · exact Decidable.not_not.1 fun absent => h _ (.definition required absent)
    · exact Decidable.not_not.1 fun absent => h _ (.scalar required absent)
    · exact Decidable.not_not.1 fun absent => h _ (.input listed absent)

/-- A context that has more lacks less. -/
theorem Lacks.of_extends (hextends : d.Extends c) (h : Lacks a d e) : Lacks a c e := by
  cases h with
  | definition required absent =>
      exact .definition required fun hc => absent (hextends.definitions _ hc)
  | scalar required absent => exact .scalar required fun hc => absent (hextends.scalars _ hc)
  | input listed absent =>
      exact .input listed fun hc => absent fun hread => hextends.inputs _ (hc hread)

end Faults

section Search

variable {a : Adapter} {c : Context} {name : String} {e : AdapterError}

section Required

variable {s : NameSet} {here : String → Bool} {p : String → Prop}

/-- The first of the required names that is not there has the least bytes of them. -/
theorem find?_absent_eq_some_iff
    (hp : ∀ n, p n ↔ s.contains n = true ∧ ¬here n = true) :
    s.names.find? (fun n => !here n) = some name ↔ LeastName p name := by
  have hneed : ∀ n, (!here n) = true ↔ ¬here n = true := by simp
  simp only [NameMap.find?_names_eq_some_iff, hneed]
  constructor
  · rintro ⟨hname, hleast⟩
    refine ⟨(hp name).2 hname, fun other hother => ?_⟩
    obtain ⟨hmem, habsent⟩ := (hp other).1 hother
    exact (hleast other hmem habsent).imp_right Text.bytes_lt_iff.2
  · intro h
    refine ⟨(hp name).1 h.holds, fun other hmem habsent => ?_⟩
    exact (h.least other ((hp other).2 ⟨hmem, habsent⟩)).imp_right Text.bytes_lt_iff.1

theorem find?_absent_eq_none_iff
    (hp : ∀ n, p n ↔ s.contains n = true ∧ ¬here n = true) :
    s.names.find? (fun n => !here n) = none ↔ ∀ n, ¬p n := by
  simp [List.find?_eq_none, NameMap.mem_names_iff, hp]

end Required

theorem lacks_definition_iff :
    Lacks a c (.missingDefinition name) ↔
      a.requiredDefinitions.contains name = true ∧ ¬c.definitions.isDefined name = true := by
  rw [← Context.hasDefinition_iff]
  exact ⟨fun | .definition required absent => ⟨required, absent⟩, fun h => .definition h.1 h.2⟩

theorem lacks_scalar_iff :
    Lacks a c (.missingScalar name) ↔
      a.requiredScalars.contains name = true ∧ ¬c.scalars.contains name = true := by
  rw [← Context.hasScalar_iff]
  exact ⟨fun | .scalar required absent => ⟨required, absent⟩, fun h => .scalar h.1 h.2⟩

theorem missingDefinition?_eq_some_iff :
    a.missingDefinition? c = some name ↔
      LeastName (fun n => Lacks a c (.missingDefinition n)) name :=
  find?_absent_eq_some_iff fun _ => lacks_definition_iff

theorem missingDefinition?_eq_none_iff :
    a.missingDefinition? c = none ↔ ∀ n, ¬Lacks a c (.missingDefinition n) :=
  find?_absent_eq_none_iff fun _ => lacks_definition_iff

theorem missingScalar?_eq_some_iff :
    a.missingScalar? c = some name ↔
      LeastName (fun n => Lacks a c (.missingScalar n)) name :=
  find?_absent_eq_some_iff fun _ => lacks_scalar_iff

theorem missingScalar?_eq_none_iff :
    a.missingScalar? c = none ↔ ∀ n, ¬Lacks a c (.missingScalar n) :=
  find?_absent_eq_none_iff fun _ => lacks_scalar_iff

theorem unsupplied_iff {b : BufferDescriptor} :
    (b.direction.isInput && !c.hostSizes.contains b.name) = true ↔ ¬c.Supplies b := by
  simp [Context.supplies_iff]

/-- The buffer that is found is the first of the table without a host copy that it needs. -/
theorem missingInput?_eq_some_iff :
    a.missingInput? c = some name ↔
      ∃ before b after, a.buffers = before ++ b :: after ∧ ¬c.Supplies b ∧
        (∀ e ∈ before, c.Supplies e) ∧ b.name = name := by
  rw [missingInput?, Option.map_eq_some_iff]
  constructor
  · rintro ⟨b, hfound, hname⟩
    obtain ⟨hb, before, after, htable, hbefore⟩ := List.find?_eq_some_iff_append.1 hfound
    refine ⟨before, b, after, htable, unsupplied_iff.1 hb, fun e he => ?_, hname⟩
    refine Decidable.not_not.1 fun habsent => ?_
    have hnot := hbefore e he
    rw [unsupplied_iff.2 habsent] at hnot
    cases hnot
  · rintro ⟨before, b, after, htable, habsent, hearlier, hname⟩
    refine ⟨b, List.find?_eq_some_iff_append.2 ⟨unsupplied_iff.2 habsent, before, after, htable,
      fun e he => ?_⟩, hname⟩
    rw [Bool.not_eq_true', ← Bool.not_eq_true, unsupplied_iff]
    exact not_not_intro (hearlier e he)

theorem missingInput?_eq_none_iff :
    a.missingInput? c = none ↔ ∀ b ∈ a.buffers, c.Supplies b := by
  simp only [missingInput?, Option.map_eq_none_iff, List.find?_eq_none, unsupplied_iff,
    Decidable.not_not]

theorem complete_iff :
    Complete a c ↔
      (∀ n, ¬Lacks a c (.missingDefinition n)) ∧ (∀ n, ¬Lacks a c (.missingScalar n)) ∧
        ∀ b ∈ a.buffers, c.Supplies b := by
  constructor
  · intro h
    have hnone := complete_iff_not_lacks.1 h
    exact ⟨fun _ => hnone _, fun _ => hnone _, h.inputs⟩
  · rintro ⟨hdefinitions, hscalars, hinputs⟩
    refine complete_iff_not_lacks.2 fun e hlacks => ?_
    cases hlacks with
    | definition required absent => exact hdefinitions _ (.definition required absent)
    | scalar required absent => exact hscalars _ (.scalar required absent)
    | input listed absent => exact absent (hinputs _ listed)

theorem failedCheck?_eq_some_iff {check : Check} :
    a.failedCheck? c = some check ↔
      check = .extraValidity ∧ a.extraChecks c = false ∨
        check = .inputSizes ∧ a.extraChecks c = true ∧ a.inputSizesValid c = false := by
  unfold failedCheck?
  cases a.extraChecks c <;> cases a.inputSizesValid c <;> simp [eq_comm]

/-- The fault that is found comes before all others. -/
theorem fault?_eq_some_iff : a.fault? c = some e ↔ FirstFault a c e := by
  simp only [fault?, Option.or_eq_some_iff, Option.map_eq_some_iff, Option.map_eq_none_iff,
    missingDefinition?_eq_some_iff, missingDefinition?_eq_none_iff,
    missingScalar?_eq_some_iff, missingScalar?_eq_none_iff,
    missingInput?_eq_some_iff, missingInput?_eq_none_iff, failedCheck?_eq_some_iff]
  constructor
  · rintro (⟨name, hfirst, rfl⟩ | ⟨hdefinitions, hrest⟩)
    · exact .definition hfirst
    rcases hrest with ⟨name, hfirst, rfl⟩ | ⟨hscalars, hrest⟩
    · exact .scalar hdefinitions hfirst
    rcases hrest with ⟨_, ⟨before, b, after, htable, habsent, hearlier, rfl⟩, rfl⟩ |
      ⟨hinputs, check, hcheck, rfl⟩
    · exact .input hdefinitions hscalars htable habsent hearlier
    · have hcomplete := complete_iff.2 ⟨hdefinitions, hscalars, hinputs⟩
      rcases hcheck with ⟨rfl, hextra⟩ | ⟨rfl, hextra, hsizes⟩
      · exact .extraValidity hcomplete hextra
      · exact .inputSizes hcomplete hextra hsizes
  · intro h
    cases h with
    | definition first => exact .inl ⟨_, first, rfl⟩
    | scalar definitions first => exact .inr ⟨definitions, .inl ⟨_, first, rfl⟩⟩
    | input definitions scalars table absent earlier =>
        exact .inr ⟨definitions, .inr ⟨scalars,
          .inl ⟨_, ⟨_, _, _, table, absent, earlier, rfl⟩, rfl⟩⟩⟩
    | extraValidity complete answer =>
        obtain ⟨hdefinitions, hscalars, hinputs⟩ := complete_iff.1 complete
        exact .inr ⟨hdefinitions, .inr ⟨hscalars, .inr ⟨hinputs, _, .inl ⟨rfl, answer⟩, rfl⟩⟩⟩
    | inputSizes complete passed answer =>
        obtain ⟨hdefinitions, hscalars, hinputs⟩ := complete_iff.1 complete
        exact .inr ⟨hdefinitions, .inr ⟨hscalars,
          .inr ⟨hinputs, _, .inr ⟨rfl, passed, answer⟩, rfl⟩⟩⟩

end Search

section Reports

variable {a : Adapter} {c : Context} {e : AdapterError}

theorem validate_eq_error_iff : a.validate c = .error e ↔ FirstFault a c e := by
  rw [← fault?_eq_some_iff, validate]
  cases a.fault? c <;> simp

theorem complete_iff_contains :
    Complete a c ↔
      (∀ n, a.requiredDefinitions.contains n = true → c.definitions.isDefined n = true) ∧
        (∀ n, a.requiredScalars.contains n = true → c.scalars.contains n = true) ∧
          ∀ b ∈ a.buffers, b.direction.isInput = true → c.hostSizes.contains b.name = true := by
  simp only [← Context.hasDefinition_iff, ← Context.hasScalar_iff, ← Context.supplies_iff]
  exact ⟨fun h => ⟨h.definitions, h.scalars, h.inputs⟩, fun h => ⟨h.1, h.2.1, h.2.2⟩⟩

/-- A context with a fault lacks something, or its fault is one of the kernel's own checks. -/
theorem FirstFault.lacks_or_complete (h : FirstFault a c e) : Lacks a c e ∨ Complete a c := by
  cases h with
  | definition first => exact .inl first.holds
  | scalar _ first => exact .inl first.holds
  | input _ _ table absent _ => exact .inl (.input (by simp [table]) absent)
  | extraValidity complete _ => exact .inr complete
  | inputSizes complete _ _ => exact .inr complete

/-- How a context is validated for a kernel. -/
structure ReportsFirst (a : Adapter) (c : Context) : Prop where
  passes : a.validate c = .ok () ↔
    Complete a c ∧ a.extraChecks c = true ∧ a.inputSizesValid c = true
  reports : ∀ e, a.validate c = .error e ↔ FirstFault a c e
  /-- A context that has more lacks nothing new, and has no other new fault than of the
  kernel's own checks. -/
  extended : ∀ d, d.Extends c →
    (∀ e, Lacks a d e → Lacks a c e) ∧
      ∀ e, a.validate d = .error e → Lacks a c e ∨ Complete a d
  added : ∀ xs, (c.addAll xs).Extends c

/-- A context passes exactly if it lacks nothing and both checks answer yes; of any other, the
first fault in the fixed order is reported. -/
theorem reportsFirst (a : Adapter) (c : Context) : ReportsFirst a c where
  passes := by
    rw [validate_eq_ok_iff, complete_iff_contains, and_assoc, and_assoc]
  reports := fun _ => validate_eq_error_iff
  extended := fun _ hextends =>
    ⟨fun _ hlacks => hlacks.of_extends hextends, fun _ hvalidate =>
      (validate_eq_error_iff.1 hvalidate).lacks_or_complete.imp_left
        fun hlacks => hlacks.of_extends hextends⟩
  added := Context.extends_addAll c

/-- The table decides between two buffers, not their names. -/
example :
    let a : Adapter := {
      key := "copy"
      functionName := "copy"
      buffers := [⟨"to", .output, ""⟩, ⟨"from", .input, ""⟩, ⟨"count", .inout, ""⟩]
      outputSizes := fun _ _ _ => .ok .empty }
    a.validate {} = .error (.missingInput "from") := by
  rfl

end Reports

end Adapter

end KernelLaunch
