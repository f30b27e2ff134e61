/-!
# Directions of buffer parameters

A kernel reads a buffer, writes it, or does both.  On the device the buffers are
kept on two sides; a buffer that is written belongs to the output side, also when
it is read as well.

**Results.**
* `ofName?_name`: the name of a direction reads as that direction.
* `side_eq_output_iff`: the output side is the side of the buffers written.
-/

namespace KernelLaunch

/-- How a kernel accesses a buffer parameter. -/
inductive Direction
  | input
  | output
  | inout
  deriving DecidableEq, Repr

/-- The device-side map a buffer is bound from. -/
inductive Side
  | input
  | output
  deriving DecidableEq, Repr

def Side.name : Side → String
  | .input => "in"
  | .output => "out"

namespace Direction

def all : List Direction := [.input, .output, .inout]

def name : Direction → String
  | .input => "in"
  | .output => "out"
  | .inout => "inout"

/-- The direction with the given name, which is not trimmed and is case-sensitive. -/
def ofName? (s : String) : Option Direction :=
  all.find? fun d => d.name == s

/-- Whether the contents must be supplied before the launch. -/
def isInput : Direction → Bool
  | .input => true
  | .output => false
  | .inout => true

/-- Whether the kernel writes the buffer. -/
def isOutput : Direction → Bool
  | .input => false
  | .output => true
  | .inout => true

/-- The side a buffer of this direction is bound from. -/
def side : Direction → Side
  | .input => .input
  | .output => .output
  | .inout => .output

/-- The name of a direction reads as that direction. -/
theorem ofName?_name (d : Direction) : ofName? d.name = some d := by
  cases d <;> rfl

/-- The output side is the side of the buffers that are written. -/
theorem side_eq_output_iff (d : Direction) : d.side = .output ↔ d.isOutput = true := by
  cases d <;> simp [side, isOutput]

end Direction

end KernelLaunch
