import KernelLaunch.Adapter.Basic

/-!
# The argument array of a launch

A launch takes an array whose entries address what is stored in the context: the
handle of a device buffer or the payload of a scalar, never the contents of a
buffer.  One convention closes the array with a null entry and records no sizes;
the other records the size of each argument and closes the array with nothing.

    null-terminated   targets = [a, b, n, null]   sizes = []
    size-annotated    targets = [a, b, n]         sizes = [8, 8, 4]

An array is built by pushes.  A push answers whether it bound its parameter, and the
array is kept whatever it answers, so further pushes may follow one that failed.

**Results.**
* `locate_buffer_eq_ok_iff`, `locate_scalar_eq_ok_iff`: when a parameter can be bound.
* `step_of_locate_ok`, `step_of_locate_error`: a push appends what its parameter is bound
  to, or nothing.
* `run_eq`: a run of pushes answers for each of them and appends what can be bound.
* `marshal_eq_ok_iff`: an array is made exactly if every parameter can be bound, and
  then its entries are what the parameters are bound to, in order.
* `marshal_eq_error_iff`: the first parameter that cannot be bound decides the error.
* `marshal_congr`: what an array follows from.
-/

namespace KernelLaunch

section Entries

/-- What an entry of an argument array addresses. -/
inductive Target
  | null
  | handle (side : Side) (name : String) (handle : BufferHandle)
  | scalar (name : String) (value : ScalarValue)
  deriving DecidableEq

/-- An argument: what it addresses and the size recorded for it. -/
structure Argument where
  target : Target
  size : Nat
  deriving DecidableEq

/-- The argument that a parameter is bound to in a context. -/
def locate (c : Context) : Parameter → Except AdapterError Argument
  | .buffer name direction =>
      match c.deviceBuffers.get? name direction with
      | none => .error (.missingBuffer name direction)
      | some h =>
          if h.ecosystem = c.ecosystem then .ok ⟨.handle direction.side name h, h.size⟩
          else .error (.bufferEcosystemMismatch name c.ecosystem h.ecosystem)
  | .scalar name kind =>
      match c.scalars.get? name with
      | none => .error (.missingScalar name)
      | some v =>
          if v.kind = kind then .ok ⟨.scalar name v, kind.bytes⟩
          else .error (.scalarKindMismatch name kind v.kind)

/-- A buffer can be bound exactly if a handle of the right ecosystem is stored for it. -/
theorem locate_buffer_eq_ok_iff
    {c : Context} {name : String} {direction : Direction} {x : Argument} :
    locate c (.buffer name direction) = .ok x ↔
      ∃ h, c.deviceBuffers.get? name direction = some h ∧ h.ecosystem = c.ecosystem ∧
        x = ⟨.handle direction.side name h, h.size⟩ := by
  unfold locate
  cases hb : c.deviceBuffers.get? name direction with
  | none => simp [hb]
  | some h =>
      by_cases he : h.ecosystem = c.ecosystem
      · simp only [hb, he, if_true, Except.ok.injEq, Option.some.injEq]
        exact ⟨fun hx => ⟨h, rfl, he, hx.symm⟩, fun ⟨_, hh, _, hx⟩ => hh ▸ hx.symm⟩
      · simp [hb, he]

/-- A scalar can be bound exactly if a value of the right kind is stored for it. -/
theorem locate_scalar_eq_ok_iff
    {c : Context} {name : String} {kind : ScalarKind} {x : Argument} :
    locate c (.scalar name kind) = .ok x ↔
      ∃ v, c.scalars.get? name = some v ∧ v.kind = kind ∧
        x = ⟨.scalar name v, kind.bytes⟩ := by
  unfold locate
  cases hv : c.scalars.get? name with
  | none => simp [hv]
  | some v =>
      by_cases hk : v.kind = kind
      · simp only [hv, hk, if_true, Except.ok.injEq, Option.some.injEq]
        exact ⟨fun hx => ⟨v, rfl, hk, hx.symm⟩, fun ⟨_, hh, _, hx⟩ => hh ▸ hx.symm⟩
      · simp [hv, hk]

theorem target_ne_null_of_locate
    {c : Context} {p : Parameter} {x : Argument}
    (h : locate c p = .ok x) :
    x.target ≠ .null := by
  cases p with
  | buffer name direction =>
      obtain ⟨_, _, _, rfl⟩ := locate_buffer_eq_ok_iff.1 h
      simp
  | scalar name kind =>
      obtain ⟨_, _, _, rfl⟩ := locate_scalar_eq_ok_iff.1 h
      simp

end Entries

/-- An argument array, finished or under construction. -/
structure ArgumentArray where
  convention : CallingConvention
  targets : List Target := []
  sizes : List Nat := []
  deriving DecidableEq

/-- A request to bind one more argument: a buffer, a scalar that must have the type or the
kind given, or a parameter as it is declared. -/
inductive Push
  | buffer (name : String) (direction : Direction)
  | typed (type : ScalarKind) (name : String)
  | scalar (name : String) (kind : ScalarKind)
  | declared (parameter : Parameter)
  deriving DecidableEq, Repr

/-- The parameter that is to be bound. -/
def Push.parameter : Push → Parameter
  | .buffer n d => .buffer n d
  | .typed t n => .scalar n t
  | .scalar n k => .scalar n k
  | .declared p => p

namespace ArgumentArray

section Operations

/-- The array without arguments for a context. -/
def start (c : Context) : ArgumentArray := { convention := c.ecosystem.convention }

def append (a : ArgumentArray) (t : Target) : ArgumentArray :=
  { a with targets := a.targets ++ [t] }

/-- Records the size of an argument where the convention wants it. -/
def recordSize (a : ArgumentArray) (size : Nat) : ArgumentArray :=
  match a.convention with
  | .nullTerminated => a
  | .sizeAnnotated => { a with sizes := a.sizes ++ [size] }

/-- Closes the array as its convention wants. -/
def finish (a : ArgumentArray) : ArgumentArray :=
  match a.convention with
  | .nullTerminated => a.append .null
  | .sizeAnnotated => a

def pushBuffer (c : Context) (a : ArgumentArray) (name : String) (direction : Direction) :
    Except AdapterError Unit × ArgumentArray :=
  match c.deviceBuffers.get? name direction with
  | none => (.error (.missingBuffer name direction), a)
  | some h =>
      if h.ecosystem = c.ecosystem then
        (.ok (), (a.append (.handle direction.side name h)).recordSize h.size)
      else (.error (.bufferEcosystemMismatch name c.ecosystem h.ecosystem), a)

/-- Binds a scalar whose value must have the kind. -/
def pushScalar (c : Context) (a : ArgumentArray) (name : String) (kind : ScalarKind) :
    Except AdapterError Unit × ArgumentArray :=
  match c.scalars.get? name with
  | none => (.error (.missingScalar name), a)
  | some v =>
      if v.kind = kind then (.ok (), (a.append (.scalar name v)).recordSize kind.bytes)
      else (.error (.scalarKindMismatch name kind v.kind), a)

def pushDeclared (c : Context) (a : ArgumentArray) :
    Parameter → Except AdapterError Unit × ArgumentArray
  | .buffer name direction => a.pushBuffer c name direction
  | .scalar name kind => a.pushScalar c name kind

/-- The outcome of a push and the array after it. -/
def step (c : Context) (a : ArgumentArray) : Push → Except AdapterError Unit × ArgumentArray
  | .buffer name direction => a.pushBuffer c name direction
  | .typed type name => a.pushScalar c name type
  | .scalar name kind => a.pushScalar c name kind
  | .declared p => a.pushDeclared c p

/-- The outcomes of pushes, none of which stops the others, and the array after them. -/
def run (c : Context) : ArgumentArray → List Push → List (Except AdapterError Unit) × ArgumentArray
  | a, [] => ([], a)
  | a, q :: qs =>
      ((a.step c q).1 :: (run c (a.step c q).2 qs).1, (run c (a.step c q).2 qs).2)

/-- The array with one more parameter bound. -/
def pushParameter (c : Context) (a : ArgumentArray) (p : Parameter) :
    Except AdapterError ArgumentArray :=
  match a.pushDeclared c p with
  | (.ok (), b) => .ok b
  | (.error e, _) => .error e

/-- The array with several more parameters bound, up to the first that cannot be. -/
def pushAll (c : Context) : ArgumentArray → List Parameter → Except AdapterError ArgumentArray
  | a, [] => .ok a
  | a, p :: ps =>
      match a.pushParameter c p with
      | .error e => .error e
      | .ok b => pushAll c b ps

def argumentCount (a : ArgumentArray) : Nat :=
  match a.convention with
  | .nullTerminated => a.targets.length - 1
  | .sizeAnnotated => a.targets.length

/-- Each argument that has a size, with its index as a 32-bit number. -/
def sizedArguments (a : ArgumentArray) : List (UInt32 × Nat × Target) :=
  (a.sizes.zip a.targets).zipIdx.map fun ((size, target), index) =>
    (UInt32.ofNat index, size, target)

end Operations

section Pushes

/-- The array with one more argument. -/
def push (a : ArgumentArray) (x : Argument) : ArgumentArray :=
  (a.append x.target).recordSize x.size

@[simp] theorem convention_push (a : ArgumentArray) (x : Argument) :
    (a.push x).convention = a.convention := by
  unfold push recordSize
  split <;> rfl

@[simp] theorem targets_push (a : ArgumentArray) (x : Argument) :
    (a.push x).targets = a.targets ++ [x.target] := by
  unfold push recordSize
  split <;> rfl

theorem sizes_push_of_nullTerminated
    {a : ArgumentArray}
    (h : a.convention = .nullTerminated)
    (x : Argument) :
    (a.push x).sizes = a.sizes := by
  simp [push, append, recordSize, h]

theorem sizes_push_of_sizeAnnotated
    {a : ArgumentArray}
    (h : a.convention = .sizeAnnotated)
    (x : Argument) :
    (a.push x).sizes = a.sizes ++ [x.size] := by
  simp [push, append, recordSize, h]

variable {c : Context} {p : Parameter}

theorem pushDeclared_of_locate_ok
    {x : Argument}
    (h : locate c p = .ok x)
    (a : ArgumentArray) :
    a.pushDeclared c p = (.ok (), a.push x) := by
  cases p with
  | buffer name direction =>
      obtain ⟨b, hb, he, rfl⟩ := locate_buffer_eq_ok_iff.1 h
      simp [pushDeclared, pushBuffer, hb, he, push]
  | scalar name kind =>
      obtain ⟨v, hv, rfl, rfl⟩ := locate_scalar_eq_ok_iff.1 h
      simp [pushDeclared, pushScalar, hv, push]

theorem pushDeclared_of_locate_error
    {e : AdapterError}
    (h : locate c p = .error e)
    (a : ArgumentArray) :
    a.pushDeclared c p = (.error e, a) := by
  cases p with
  | buffer name direction =>
      simp only [locate] at h
      simp only [pushDeclared, pushBuffer]
      split at h
      · cases h
        rfl
      · split at h
        · cases h
        · rename_i hne
          cases h
          rw [if_neg hne]
  | scalar name kind =>
      simp only [locate] at h
      simp only [pushDeclared, pushScalar]
      split at h
      · cases h
        rfl
      · split at h
        · cases h
        · rename_i hne
          cases h
          rw [if_neg hne]

theorem step_eq_pushDeclared (c : Context) (a : ArgumentArray) (q : Push) :
    a.step c q = a.pushDeclared c q.parameter := by
  cases q <;> rfl

theorem step_of_locate_ok
    {q : Push} {x : Argument}
    (h : locate c q.parameter = .ok x)
    (a : ArgumentArray) :
    a.step c q = (.ok (), a.push x) := by
  rw [step_eq_pushDeclared]
  exact pushDeclared_of_locate_ok h a

theorem step_of_locate_error
    {q : Push} {e : AdapterError}
    (h : locate c q.parameter = .error e)
    (a : ArgumentArray) :
    a.step c q = (.error e, a) := by
  rw [step_eq_pushDeclared]
  exact pushDeclared_of_locate_error h a

theorem pushParameter_eq (c : Context) (a : ArgumentArray) (p : Parameter) :
    a.pushParameter c p = (locate c p).map a.push := by
  unfold pushParameter
  cases h : locate c p with
  | ok x =>
      rw [pushDeclared_of_locate_ok h]
      rfl
  | error e =>
      rw [pushDeclared_of_locate_error h]
      rfl

end Pushes

section Runs

/-- The arguments of those parameters that can be bound, in order. -/
def located (c : Context) (ps : List Parameter) : List Argument :=
  ps.filterMap fun p => (locate c p).toOption

theorem located_cons_of_ok
    {c : Context} {p : Parameter} {x : Argument}
    (h : locate c p = .ok x)
    (ps : List Parameter) :
    located c (p :: ps) = x :: located c ps := by
  simp [located, h, Except.toOption]

theorem located_cons_of_error
    {c : Context} {p : Parameter} {e : AdapterError}
    (h : locate c p = .error e)
    (ps : List Parameter) :
    located c (p :: ps) = located c ps := by
  simp [located, h, Except.toOption]

/-- A run answers for each push by what its parameter is bound to, and appends what can be
bound. -/
theorem run_eq (c : Context) (a : ArgumentArray) (qs : List Push) :
    a.run c qs =
      (qs.map fun q => (locate c q.parameter).map fun _ => (),
        (located c (qs.map Push.parameter)).foldl push a) := by
  induction qs generalizing a with
  | nil => rfl
  | cons q qs ih =>
      rw [List.map_cons, List.map_cons, run]
      cases h : locate c q.parameter with
      | ok x =>
          rw [step_of_locate_ok h, ih, located_cons_of_ok h]
          rfl
      | error e =>
          rw [step_of_locate_error h, ih, located_cons_of_error h]
          rfl

@[simp] theorem convention_foldl_push (xs : List Argument) (a : ArgumentArray) :
    (xs.foldl push a).convention = a.convention := by
  induction xs generalizing a with
  | nil => rfl
  | cons x xs ih => rw [List.foldl_cons, ih, convention_push]

@[simp] theorem targets_foldl_push (xs : List Argument) (a : ArgumentArray) :
    (xs.foldl push a).targets = a.targets ++ xs.map Argument.target := by
  induction xs generalizing a with
  | nil => simp
  | cons x xs ih => simp [ih]

theorem sizes_foldl_push_of_nullTerminated
    {a : ArgumentArray}
    (h : a.convention = .nullTerminated)
    (xs : List Argument) :
    (xs.foldl push a).sizes = a.sizes := by
  induction xs generalizing a with
  | nil => rfl
  | cons x xs ih =>
      rw [List.foldl_cons, ih (by simpa using h), sizes_push_of_nullTerminated h]

theorem sizes_foldl_push_of_sizeAnnotated
    {a : ArgumentArray}
    (h : a.convention = .sizeAnnotated)
    (xs : List Argument) :
    (xs.foldl push a).sizes = a.sizes ++ xs.map Argument.size := by
  induction xs generalizing a with
  | nil => simp
  | cons x xs ih =>
      rw [List.foldl_cons, ih (by simpa using h), sizes_push_of_sizeAnnotated h]
      simp

@[simp] theorem convention_finish (a : ArgumentArray) : a.finish.convention = a.convention := by
  unfold finish
  split <;> rfl

@[simp] theorem sizes_finish (a : ArgumentArray) : a.finish.sizes = a.sizes := by
  unfold finish
  split <;> rfl

end Runs

end ArgumentArray

/-- The argument array that binds parameters in a context. -/
def marshal (c : Context) (ps : List Parameter) : Except AdapterError ArgumentArray :=
  ((ArgumentArray.start c).pushAll c ps).map ArgumentArray.finish

/-- The argument array of a kernel in a context. -/
def Adapter.marshalArguments (a : Adapter) (c : Context) : Except AdapterError ArgumentArray :=
  marshal c (a.parameters c)

section Marshal

theorem ArgumentArray.pushAll_eq_ok_iff
    {c : Context} {a b : ArgumentArray} {ps : List Parameter} :
    a.pushAll c ps = .ok b ↔
      ∃ xs : List Argument, ps.map (locate c) = xs.map .ok ∧ b = xs.foldl push a := by
  induction ps generalizing a with
  | nil =>
      simp only [pushAll, Except.ok.injEq, List.map_nil, List.nil_eq, List.map_eq_nil_iff,
        exists_eq_left, List.foldl_nil]
      exact eq_comm
  | cons p ps ih =>
      simp only [pushAll, pushParameter_eq]
      cases hp : locate c p with
      | error e =>
          simp only [Except.map, reduceCtorEq, false_iff, not_exists, not_and]
          intro xs hxs
          cases xs with
          | nil => simp at hxs
          | cons x xs => simp [hp] at hxs
      | ok x =>
          simp only [Except.map, ih]
          constructor
          · rintro ⟨xs, hxs, rfl⟩
            exact ⟨x :: xs, by simp [hp, hxs], rfl⟩
          · rintro ⟨xs, hxs, rfl⟩
            cases xs with
            | nil => simp at hxs
            | cons y ys =>
                simp only [List.map_cons, hp, List.cons.injEq, Except.ok.injEq] at hxs
                obtain ⟨rfl, hys⟩ := hxs
                exact ⟨ys, hys, rfl⟩

theorem ArgumentArray.pushAll_eq_error_iff
    {c : Context} {a : ArgumentArray} {ps : List Parameter} {e : AdapterError} :
    a.pushAll c ps = .error e ↔
      ∃ before p after, ps = before ++ p :: after ∧
        (∀ q ∈ before, ∃ x, locate c q = .ok x) ∧ locate c p = .error e := by
  induction ps generalizing a with
  | nil => simp [pushAll]
  | cons p ps ih =>
      simp only [pushAll, pushParameter_eq]
      cases hp : locate c p with
      | error f =>
          simp only [Except.map, Except.error.injEq]
          constructor
          · rintro rfl
            exact ⟨[], p, ps, rfl, by simp, hp⟩
          · rintro ⟨before, q, after, heq, hbefore, hq⟩
            cases before with
            | nil =>
                obtain ⟨rfl, _⟩ := List.cons.inj heq
                rw [hp] at hq
                exact Except.error.inj hq
            | cons r before =>
                obtain ⟨rfl, _⟩ := List.cons.inj heq
                obtain ⟨x, hx⟩ := hbefore p (by simp)
                rw [hp] at hx
                cases hx
      | ok x =>
          simp only [Except.map, ih]
          constructor
          · rintro ⟨before, q, after, rfl, hbefore, hq⟩
            refine ⟨p :: before, q, after, rfl, ?_, hq⟩
            intro r hr
            rcases List.mem_cons.1 hr with rfl | hr
            · exact ⟨x, hp⟩
            · exact hbefore r hr
          -- The parameter that is refused is not the first, which is bound.
          · rintro ⟨before, q, after, heq, hbefore, hq⟩
            cases before with
            | nil =>
                obtain ⟨rfl, _⟩ := List.cons.inj heq
                rw [hp] at hq
                cases hq
            | cons r before =>
                obtain ⟨rfl, rfl⟩ := List.cons.inj heq
                exact ⟨before, q, after, rfl, fun s hs => hbefore s (by simp [hs]), hq⟩

/-- An array is made exactly if every parameter can be bound. -/
theorem marshal_eq_ok_iff {c : Context} {ps : List Parameter} {a : ArgumentArray} :
    marshal c ps = .ok a ↔
      ∃ xs : List Argument, ps.map (locate c) = xs.map .ok ∧
        a = (xs.foldl ArgumentArray.push (.start c)).finish := by
  unfold marshal
  constructor
  · intro h
    cases hb : (ArgumentArray.start c).pushAll c ps with
    | error e => simp [hb, Except.map] at h
    | ok b =>
        obtain ⟨xs, hxs, rfl⟩ := ArgumentArray.pushAll_eq_ok_iff.1 hb
        rw [hb] at h
        simp only [Except.map, Except.ok.injEq] at h
        exact ⟨xs, hxs, h.symm⟩
  · rintro ⟨xs, hxs, rfl⟩
    rw [ArgumentArray.pushAll_eq_ok_iff.2 ⟨xs, hxs, rfl⟩]
    rfl

/-- The first parameter that cannot be bound decides the error. -/
theorem marshal_eq_error_iff {c : Context} {ps : List Parameter} {e : AdapterError} :
    marshal c ps = .error e ↔
      ∃ before p after, ps = before ++ p :: after ∧
        (∀ q ∈ before, ∃ x, locate c q = .ok x) ∧ locate c p = .error e := by
  rw [← ArgumentArray.pushAll_eq_error_iff (a := .start c), marshal]
  cases (ArgumentArray.start c).pushAll c ps <;> simp [Except.map]

/-- An array depends on the ecosystem and on what the parameters are bound to. -/
theorem marshal_congr {c d : Context}
    (hecosystem : c.ecosystem = d.ecosystem)
    (hlocate : ∀ p, locate c p = locate d p)
    (ps : List Parameter) :
    marshal c ps = marshal d ps := by
  have hpushes : ∀ a : ArgumentArray, a.pushAll c ps = a.pushAll d ps := by
    induction ps with
    | nil => exact fun _ => rfl
    | cons p ps ih =>
        intro a
        simp only [ArgumentArray.pushAll, ArgumentArray.pushParameter_eq, hlocate p, ih]
  rw [marshal, marshal, ArgumentArray.start, ArgumentArray.start, hecosystem, hpushes]

end Marshal

end KernelLaunch
