import KernelLaunch.Adapter.Error
import KernelLaunch.Context

/-!
# Kernel adapters

An adapter holds what must be known about one kernel to configure and launch it;
everything else treats all kernels alike.  An adapter is a value: tables that
describe the kernel's buffers, scalars and definitions, and functions that answer
questions about a context.  It changes nothing itself.

**Results.**
* `contains_bufferNamesAny`: the buffers of some directions are those whose table
  entry has one of them.
* `readScalar_eq_ok_iff`, `readScalar_eq_unknown_iff`: texts are read by the kind in
  the table, and only for names in the table.
-/

namespace KernelLaunch

section Descriptors

/-- A buffer parameter. -/
structure BufferDescriptor where
  name : String
  direction : Direction
  description : String
  deriving DecidableEq, Repr

/-- A scalar parameter. -/
structure ScalarDescriptor where
  name : String
  description : String
  deriving DecidableEq, Repr

/-- A preprocessor definition that the kernel source reacts to. -/
structure DefinitionDescriptor where
  name : String
  required : Bool
  description : String
  deriving DecidableEq, Repr

/-- One kernel parameter in the order of declaration. -/
inductive Parameter
  | buffer (name : String) (direction : Direction)
  | scalar (name : String) (kind : ScalarKind)
  deriving DecidableEq, Repr

def Parameter.name : Parameter → String
  | .buffer n _ => n
  | .scalar n _ => n

/-- The parameter that a buffer is passed as. -/
def BufferDescriptor.parameter (b : BufferDescriptor) : Parameter :=
  .buffer b.name b.direction

/-- The names of the definitions a kernel cannot be compiled without. -/
def requiredNames (ds : List DefinitionDescriptor) : NameSet :=
  NameSet.ofNames ((ds.filter fun d => d.required).map fun d => d.name)

end Descriptors

/-- What is known about one kernel. -/
structure Adapter where
  key : String
  functionName : String
  buffers : List BufferDescriptor := []
  scalars : List ScalarDescriptor := []
  /-- The kinds that the texts of scalar arguments are read as, by name. -/
  scalarKinds : List (String × ScalarKind) := []
  definitions : List DefinitionDescriptor := []
  /-- The scalars that the user must supply. -/
  requiredScalars : NameSet := .empty
  /-- The definitions that the user must supply. -/
  requiredDefinitions : NameSet := requiredNames definitions
  /-- The scalars that follow from the context. -/
  generateScalars : Context → Except AdapterError ScalarArguments := fun _ => .ok .empty
  /-- Bytes to allocate for each buffer that is written. -/
  outputSizes : HostSizes → ScalarArguments → Definitions → Except AdapterError (NameMap Nat)
  /-- The adapter's own check of the context. -/
  extraChecks : Context → Bool := fun _ => true
  /-- Whether the sizes of the inputs fit together. -/
  inputSizesValid : Context → Bool := fun _ => true
  /-- The kernel's parameters in the order of declaration. -/
  parameters : Context → List Parameter := fun _ => buffers.map BufferDescriptor.parameter
  /-- The launch to use when the user did not force a sufficient one. -/
  deduceLaunch : Context → Except AdapterError LaunchComponents :=
    fun _ => .error (.launchUndeducible key)

namespace Adapter

section Names

/-- The names of the buffers that have one of the directions. -/
def bufferNamesAny (a : Adapter) (ds : List Direction) : NameSet :=
  NameSet.ofNames ((a.buffers.filter fun b => b.direction ∈ ds).map fun b => b.name)

def bufferNames (a : Adapter) (d : Direction) : NameSet :=
  a.bufferNamesAny [d]

def scalarNames (a : Adapter) : NameSet :=
  NameSet.ofNames (a.scalars.map fun s => s.name)

/-- The buffers of some directions are those whose entry has one of them. -/
theorem contains_bufferNamesAny {a : Adapter} {ds : List Direction} {name : String} :
    (a.bufferNamesAny ds).contains name = true ↔
      ∃ b ∈ a.buffers, b.direction ∈ ds ∧ b.name = name := by
  rw [bufferNamesAny, NameSet.contains_ofNames]
  simp only [List.mem_map, List.mem_filter, decide_eq_true_eq]
  constructor
  · rintro ⟨b, ⟨hb, hd⟩, hn⟩
    exact ⟨b, hb, hd, hn⟩
  · rintro ⟨b, hb, hd, hn⟩
    exact ⟨b, ⟨hb, hd⟩, hn⟩

end Names

end Adapter

section Scalars

/-- Reads the text of a scalar argument as a value of the kind. -/
def parseScalar (name raw : String) (kind : ScalarKind) : Except AdapterError ScalarValue :=
  match kind.parse raw with
  | .ok v => .ok v
  | .error fault => .error (.badScalar name fault)

namespace Adapter

/-- The kind that texts for a name are read as, by the first entry for it. -/
def scalarKind? (a : Adapter) (name : String) : Option ScalarKind :=
  (a.scalarKinds.find? fun s => s.1 = name).map Prod.snd

/-- Reads the text of a scalar argument as the kind that the kernel expects. -/
def readScalar (a : Adapter) (name raw : String) : Except AdapterError ScalarValue :=
  match a.scalarKind? name with
  | some kind => parseScalar name raw kind
  | none => .error (.unknownScalar a.key name)

/-- A text is read by the kind in the table of kinds. -/
theorem readScalar_eq_ok_iff {a : Adapter} {name raw : String} {v : ScalarValue} :
    a.readScalar name raw = .ok v ↔
      ∃ kind, a.scalarKind? name = some kind ∧ kind.parse raw = .ok v := by
  unfold readScalar parseScalar
  cases a.scalarKind? name with
  | none => simp
  | some kind => cases h : kind.parse raw <;> simp [h]

theorem scalarKind?_of_readScalar
    {a : Adapter} {name raw : String} {v : ScalarValue}
    (h : a.readScalar name raw = .ok v) :
    a.scalarKind? name = some v.kind := by
  obtain ⟨kind, hkind, hparse⟩ := readScalar_eq_ok_iff.1 h
  rw [ScalarKind.kind_of_read (ScalarKind.parse_eq_ok_iff.1 hparse), hkind]

/-- A name is unknown exactly if the table of kinds has no entry for it. -/
theorem readScalar_eq_unknown_iff {a : Adapter} {name raw key other : String} :
    a.readScalar name raw = .error (.unknownScalar key other) ↔
      (∀ s ∈ a.scalarKinds, s.1 ≠ name) ∧ key = a.key ∧ other = name := by
  have hnone : a.scalarKind? name = none ↔ ∀ s ∈ a.scalarKinds, s.1 ≠ name := by
    simp [scalarKind?, List.find?_eq_none]
  rw [← hnone]
  unfold readScalar parseScalar
  cases a.scalarKind? name with
  | none => simp [eq_comm]
  | some kind => cases h : kind.parse raw <;> simp [h]

end Adapter

end Scalars

end KernelLaunch
