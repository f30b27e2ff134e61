import KernelLaunch.Floating.Format

/-!
# Kinds of scalar kernel arguments

A kernel takes truth values, whole numbers of eight kinds and floating-point
numbers of two kinds by value.  A kind fixes the size of the value in the
kernel's argument area, its range and its name.

**Results.**
* `ofName?_name`, `name_of_ofName?`: names and kinds determine each other.
* `mem_all`: the list of all kinds is complete.
-/

namespace KernelLaunch

section Kinds

/-- Whether whole numbers of a kind can be negative. -/
inductive Signedness
  | signed
  | unsigned
  deriving DecidableEq, Repr

/-- The widths of whole numbers. -/
inductive Width
  | w8
  | w16
  | w32
  | w64
  deriving DecidableEq, Repr

/-- Size in bytes. -/
def Width.bytes : Width → Nat
  | .w8 => 1
  | .w16 => 2
  | .w32 => 4
  | .w64 => 8

def Width.bits (w : Width) : Nat := 8 * w.bytes

/-- Number of words of the width. -/
def Width.count : Width → Nat
  | .w8 => UInt8.size
  | .w16 => UInt16.size
  | .w32 => UInt32.size
  | .w64 => UInt64.size

/-- Number of words of the width that have no sign bit. -/
def Width.half (w : Width) : Nat := w.count / 2

theorem Width.count_eq_shift (w : Width) : w.count = 1 <<< w.bits := by
  cases w <;> rfl

theorem Width.two_mul_half (w : Width) : 2 * w.half = w.count := by
  cases w <;> rfl

/-- A kind of whole numbers. -/
structure IntKind where
  signedness : Signedness
  width : Width
  deriving DecidableEq, Repr

namespace IntKind

/-- The kind of 32-bit element counts. -/
def u32 : IntKind := ⟨.unsigned, .w32⟩

/-- The least number of the kind. -/
def least (k : IntKind) : Int :=
  match k.signedness with
  | .signed => -(k.width.half : Int)
  | .unsigned => 0

/-- The first number past the kind. -/
def limit (k : IntKind) : Int :=
  match k.signedness with
  | .signed => k.width.half
  | .unsigned => k.width.count

/-- The numbers of the kind. -/
def Contains (k : IntKind) (n : Int) : Prop :=
  k.least ≤ n ∧ n < k.limit

instance (k : IntKind) (n : Int) : Decidable (k.Contains n) :=
  inferInstanceAs (Decidable (_ ∧ _))

theorem contains_signed {w : Width} {n : Int} :
    (⟨.signed, w⟩ : IntKind).Contains n ↔ -(w.half : Int) ≤ n ∧ n < w.half := Iff.rfl

theorem contains_unsigned {w : Width} {n : Int} :
    (⟨.unsigned, w⟩ : IntKind).Contains n ↔ 0 ≤ n ∧ n < w.count := Iff.rfl

end IntKind

/-- A kind of floating-point numbers. -/
inductive FloatKind
  | single
  | double
  deriving DecidableEq, Repr

/-- The binary format of the kind. -/
def FloatKind.format : FloatKind → Floating.Format
  | .single => .single
  | .double => .double

/-- The type tag of a scalar kernel argument. -/
inductive ScalarKind
  | bool
  | int (kind : IntKind)
  | float (kind : FloatKind)
  deriving DecidableEq, Repr

end Kinds

namespace ScalarKind

section Names

def all : List ScalarKind :=
  .bool ::
    ([Signedness.signed, .unsigned].flatMap fun s =>
      [Width.w8, .w16, .w32, .w64].map fun w => .int ⟨s, w⟩) ++
    [.float .single, .float .double]

/-- The list of all kinds is complete. -/
theorem mem_all (k : ScalarKind) : k ∈ all := by
  rcases k with _ | ⟨s, w⟩ | k
  · simp [all]
  · cases s <;> cases w <;> simp [all]
  · cases k <;> simp [all]

def name : ScalarKind → String
  | .bool => "bool"
  | .int ⟨.signed, .w8⟩ => "i8"
  | .int ⟨.signed, .w16⟩ => "i16"
  | .int ⟨.signed, .w32⟩ => "i32"
  | .int ⟨.signed, .w64⟩ => "i64"
  | .int ⟨.unsigned, .w8⟩ => "u8"
  | .int ⟨.unsigned, .w16⟩ => "u16"
  | .int ⟨.unsigned, .w32⟩ => "u32"
  | .int ⟨.unsigned, .w64⟩ => "u64"
  | .float .single => "f32"
  | .float .double => "f64"

/-- The name of the corresponding type in kernel source. -/
def kernelTypeName : ScalarKind → String
  | .bool => "bool"
  | .int ⟨.signed, .w8⟩ => "signed char"
  | .int ⟨.signed, .w16⟩ => "short"
  | .int ⟨.signed, .w32⟩ => "int"
  | .int ⟨.signed, .w64⟩ => "long long"
  | .int ⟨.unsigned, .w8⟩ => "unsigned char"
  | .int ⟨.unsigned, .w16⟩ => "unsigned short"
  | .int ⟨.unsigned, .w32⟩ => "unsigned int"
  | .int ⟨.unsigned, .w64⟩ => "unsigned long long"
  | .float .single => "float"
  | .float .double => "double"

/-- The kind with the given name, which is not trimmed and is case-sensitive. -/
def ofName? (s : String) : Option ScalarKind :=
  all.find? fun k => k.name == s

/-- A kind is found by its name. -/
theorem ofName?_name (k : ScalarKind) : ofName? k.name = some k := by
  rcases k with _ | ⟨s, w⟩ | k
  · rfl
  · cases s <;> cases w <;> rfl
  · cases k <;> rfl

/-- Only its own name finds a kind. -/
theorem name_of_ofName? {s : String} {k : ScalarKind} (h : ofName? s = some k) :
    k.name = s := by
  have hk := List.find?_some h
  simpa using hk

end Names

section Properties

/-- Size of a value in the kernel's argument area. -/
def bytes : ScalarKind → Nat
  | .bool => 1
  | .int k => k.width.bytes
  | .float k => k.format.width / 8

def isInt : ScalarKind → Bool
  | .int _ => true
  | _ => false

def isFloat : ScalarKind → Bool
  | .float _ => true
  | _ => false

def isSignedInt : ScalarKind → Bool
  | .int ⟨.signed, _⟩ => true
  | _ => false

def isUnsignedInt : ScalarKind → Bool
  | .int ⟨.unsigned, _⟩ => true
  | _ => false

/-- The place of a kind among all kinds. -/
def rank : ScalarKind → Nat
  | .bool => 0
  | .int ⟨.signed, w⟩ => w.bytes.log2 + 1
  | .int ⟨.unsigned, w⟩ => w.bytes.log2 + 5
  | .float .single => 9
  | .float .double => 10

instance : Ord ScalarKind := ⟨fun a b => compare a.rank b.rank⟩

end Properties

end ScalarKind

end KernelLaunch
