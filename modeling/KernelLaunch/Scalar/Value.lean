import KernelLaunch.Floating.Shortest
import KernelLaunch.Scalar.Kind

/-!
# Scalar kernel arguments

A scalar value carries its kind.  A whole number is stored together with the fact
that it lies in the range of its kind; a floating-point number is stored as the
word of its format, so two NaNs with different words are different values here
even though neither compares equal to anything.

**Results.**
* `kind_ofU32`, `asU32?_ofU32`: an element count is stored as a 32-bit number and
  read back.
* `asU32?_isSome_iff`: a value yields an element count exactly if its kind is right.
* `asU32?_eq_some_iff`: the value that yields an element count is that count.
* `compare?_of_kind_ne`: values of different kinds compare as their kinds.
-/

namespace KernelLaunch

/-- A scalar kernel argument. -/
inductive ScalarValue
  | bool (value : Bool)
  | int (kind : IntKind) (value : Int) (inRange : kind.Contains value)
  | float (kind : FloatKind) (word : BitVec kind.format.width)
  deriving DecidableEq

/-- The number as a value of the kind, if it is in range. -/
def IntKind.value? (k : IntKind) (n : Int) : Option ScalarValue :=
  if h : k.Contains n then some (.int k n h) else none

namespace ScalarValue

section Basic

def kind : ScalarValue → ScalarKind
  | .bool _ => .bool
  | .int k _ _ => .int k
  | .float k _ => .float k

/-- Size of the value in the kernel's argument area. -/
def bytes (v : ScalarValue) : Nat := v.kind.bytes

/-- The kinds a value can be read as: its own. -/
def kinds (v : ScalarValue) : List ScalarKind :=
  ScalarKind.all.filter fun k => k = v.kind

/-- The decimal text of the value. -/
def text : ScalarValue → String
  | .bool true => "true"
  | .bool false => "false"
  | .int _ n _ => String.ofList (Text.decimalInt n)
  | .float _ w => String.ofList (Floating.wordText w)

/-- Whether the value stands for no number. -/
def isNaN : ScalarValue → Bool
  | .float _ w => Floating.isNaN w
  | _ => false

end Basic

section Counts

/-- A 32-bit count as a scalar value. -/
def ofU32 (n : UInt32) : ScalarValue :=
  .int .u32 n.toNat ⟨Int.natCast_nonneg _, by
    exact Int.ofNat_lt.2 n.toNat_lt⟩

/-- The 32-bit count stored in a value of that kind. -/
def asU32? : ScalarValue → Option UInt32
  | .int ⟨.unsigned, .w32⟩ n _ => some (UInt32.ofNat n.toNat)
  | _ => none

/-- The number stored in a whole-number value, if it is not negative. -/
def asNat? : ScalarValue → Option Nat
  | .int _ n _ => if 0 ≤ n then some n.toNat else none
  | _ => none

@[simp] theorem kind_ofU32 (n : UInt32) : (ofU32 n).kind = .int .u32 := rfl

@[simp] theorem asU32?_ofU32 (n : UInt32) : (ofU32 n).asU32? = some n := by
  simp [ofU32, asU32?, IntKind.u32]

theorem ofU32_inj {m n : UInt32} : ofU32 m = ofU32 n ↔ m = n := by
  constructor
  · intro h
    have hcount := congrArg asU32? h
    simpa using hcount
  · rintro rfl
    rfl

/-- A value yields a 32-bit count exactly if it is of that kind. -/
theorem asU32?_isSome_iff (v : ScalarValue) :
    v.asU32?.isSome = true ↔ v.kind = .int .u32 := by
  cases v with
  | bool b => simp [asU32?, kind]
  | int k n h => rcases k with ⟨_ | _, _ | _ | _ | _⟩ <;> simp [asU32?, kind, IntKind.u32]
  | float k w => simp [asU32?, kind]

/-- The value that yields a 32-bit count is that count. -/
theorem asU32?_eq_some_iff {v : ScalarValue} {n : UInt32} :
    v.asU32? = some n ↔ v = ofU32 n := by
  constructor
  · intro h
    have hkind : v.kind = .int .u32 := by
      rw [← asU32?_isSome_iff, h]
      rfl
    cases v with
    | bool b => cases hkind
    | float k w => cases hkind
    | int k m hm =>
        cases hkind
        have hpos : 0 ≤ m := hm.1
        have hlt : m.toNat < UInt32.size := (Int.toNat_lt hpos).2 hm.2
        obtain rfl : UInt32.ofNat m.toNat = n := Option.some.inj h
        have hval : ((UInt32.ofNat m.toNat).toNat : Int) = m := by
          rw [UInt32.toNat_ofNat_of_lt' hlt, Int.toNat_of_nonneg hpos]
        simp only [ofU32, hval]
  · rintro rfl
    exact asU32?_ofU32 n

end Counts

section Order

/-- The order of two values: by kind, then by number.  A NaN has no place. -/
def compare? : ScalarValue → ScalarValue → Option Ordering
  | .bool a, .bool b => some (compare a b)
  | .int k m hm, .int l n hn =>
      if k = l then some (compare m n)
      else some (compare (kind (.int k m hm)) (kind (.int l n hn)))
  | .float .single v, .float .single w => Floating.compare? v w
  | .float .double v, .float .double w => Floating.compare? v w
  | a, b => some (compare a.kind b.kind)

/-- Whether two values are equal as numbers of the same kind. -/
def agrees (a b : ScalarValue) : Bool :=
  compare? a b == some .eq

/-- Values of different kinds compare as their kinds. -/
theorem compare?_of_kind_ne {a b : ScalarValue} (h : a.kind ≠ b.kind) :
    compare? a b = some (compare a.kind b.kind) := by
  unfold compare?
  split
  · exact absurd rfl h
  · rename_i k m hm l n hn
    rw [if_neg]
    rintro rfl
    exact h rfl
  · exact absurd rfl h
  · exact absurd rfl h
  · rfl

end Order

end ScalarValue

end KernelLaunch
