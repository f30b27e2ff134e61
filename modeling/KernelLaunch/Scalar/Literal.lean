import KernelLaunch.Floating.Reading
import KernelLaunch.Scalar.Value
import KernelLaunch.Text.Blank

/-!
# Literals of scalar values

A literal is read for a given kind, after blanks at its ends are dropped:

* truth values are `true`, `1`, `false` and `0`, in any ASCII case;
* whole numbers are decimal with an optional sign, or hexadecimal after `0x` or
  `0X` with an optional sign behind that mark; they are read into 128 bits and
  then narrowed to the kind;
* floating-point numbers are as in `Floating.readWord`.

A number outside the range of its kind is refused like any other bad literal.

**Results.**
* `kind_of_read`: what is read has the kind that was asked for.
* `parse_eq_error_iff`: a refusal always names the kind and the whole text.
* `read_int_eq_some_iff`: whole numbers are read exactly or not at all.
-/

namespace KernelLaunch

/-- A text that is no literal of the kind; it is kept as given. -/
structure LiteralError where
  kind : ScalarKind
  literal : String
  deriving DecidableEq, Repr

def LiteralError.message (e : LiteralError) : String :=
  s!"cannot parse '{e.literal}' as {e.kind.name}"

namespace ScalarKind

section Readers

def readBool (cs : List Char) : Option Bool :=
  let lower := cs.map Char.toLower
  if lower = "true".toList ∨ lower = "1".toList then some true
  else if lower = "false".toList ∨ lower = "0".toList then some false
  else none

/-- Reads a number in base 16 after the mark `0x`, and in base 10 without it. -/
def readMarked (read : Nat → List Char → Option Int) : List Char → Option Int
  | '0' :: 'x' :: cs => read 16 cs
  | '0' :: 'X' :: cs => read 16 cs
  | cs => read 10 cs

/-- Reads a whole number that fits in 128 bits. -/
def readWhole (cs : List Char) : Option Int :=
  readMarked Text.readInt128 cs

/-- Reads a trimmed literal of the kind. -/
def read : ScalarKind → List Char → Option ScalarValue
  | .bool, cs => (readBool cs).map .bool
  | .int k, cs => (readWhole cs).bind k.value?
  | .float k, cs => (Floating.readWord k.format cs).map (.float k)

/-- Reads a literal of the kind. -/
def parse (k : ScalarKind) (literal : String) : Except LiteralError ScalarValue :=
  match k.read (Text.trim literal.toList) with
  | some v => .ok v
  | none => .error ⟨k, literal⟩

end Readers

section Lemmas

/-- Whole numbers are read exactly or not at all. -/
theorem read_int_eq_some_iff {k : IntKind} {cs : List Char} {v : ScalarValue} :
    (ScalarKind.int k).read cs = some v ↔
      ∃ n, readWhole cs = some n ∧ ∃ h : k.Contains n, v = .int k n h := by
  simp only [read, Option.bind_eq_some_iff, IntKind.value?]
  constructor
  · rintro ⟨n, hn, hv⟩
    split at hv
    · rename_i h
      cases hv
      exact ⟨n, hn, h, rfl⟩
    · cases hv
  · rintro ⟨n, hn, h, rfl⟩
    exact ⟨n, hn, by rw [dif_pos h]⟩

/-- What is read has the kind that was asked for. -/
theorem kind_of_read {k : ScalarKind} {cs : List Char} {v : ScalarValue}
    (h : k.read cs = some v) :
    v.kind = k := by
  cases k with
  | bool =>
      obtain ⟨b, _, rfl⟩ := Option.map_eq_some_iff.1 h
      rfl
  | int k =>
      obtain ⟨n, _, hn, rfl⟩ := read_int_eq_some_iff.1 h
      rfl
  | float k =>
      obtain ⟨w, _, rfl⟩ := Option.map_eq_some_iff.1 h
      rfl

theorem parse_eq_ok_iff {k : ScalarKind} {s : String} {v : ScalarValue} :
    k.parse s = .ok v ↔ k.read (Text.trim s.toList) = some v := by
  unfold parse
  split <;> simp_all

/-- Every kind has a literal. -/
theorem exists_parse (k : ScalarKind) : ∃ v, k.parse "0" = .ok v := by
  have hsome : ∀ k ∈ all, (k.read ['0']).isSome = true := by decide +kernel
  obtain ⟨v, hv⟩ := Option.isSome_iff_exists.1 (hsome k (mem_all k))
  exact ⟨v, parse_eq_ok_iff.2 hv⟩

/-- A refusal names the kind and the whole text. -/
theorem parse_eq_error_iff {k : ScalarKind} {s : String} {e : LiteralError} :
    k.parse s = .error e ↔ k.read (Text.trim s.toList) = none ∧ e = ⟨k, s⟩ := by
  unfold parse
  cases k.read (Text.trim s.toList) with
  | some v => simp
  | none => simp [eq_comm]

end Lemmas

end ScalarKind

end KernelLaunch
