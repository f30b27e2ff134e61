import KernelLaunch.Adapter.Arguments
import KernelLaunch.Scalar.Payload

/-!
# The two calling conventions side by side

The ecosystem of a context is looked at three times while an argument array is built: when
the handle of a buffer is checked, when the size of an argument is recorded, and when the
array is closed.  Two contexts that differ in their ecosystems and handles alone are run
side by side here, parameter by parameter.

    cuda       targets = [a, b, n, null]   sizes = []
    opencl     targets = [a', b', n]       sizes = [8, 8, 4]

An entry of one array and the entry of the other at its place need not hold the same
handle.  They lead to the same site: a named buffer on one side, or the bytes of a named
scalar.

**Results.**
* `agree_locate`: a parameter is bound to the same site in both contexts, or fails alike.
* `agree_pushParameter`: a push keeps two arrays in step, or fails alike on both.
* `agree_marshal`: two finished arrays pass the same arguments, or there is neither and the
  error is the same.
-/

namespace KernelLaunch

section Definitions

/-- What an entry leads to, whatever handle is stored there. -/
inductive Site
  | buffer (side : Side) (name : String)
  | scalar (name : String) (payload : List UInt8)
  deriving DecidableEq, Repr

/-- The site of an entry; the null entry has none. -/
def Target.site? : Target → Option Site
  | .null => none
  | .handle side name _ => some (.buffer side name)
  | .scalar name v => some (.scalar name v.payload)

/-- Every handle that is stored belongs to the ecosystem of the context. -/
def Context.OwnsBuffers (c : Context) : Prop :=
  ∀ side name h, (c.deviceBuffers.onSide side).get? name = some h → h.ecosystem = c.ecosystem

/-- A context of each ecosystem with the same scalars and the same names of buffers on each
side; the handles are whatever they are. -/
structure Counterparts (c o : Context) : Prop where
  cuda : c.ecosystem = .cuda
  openCl : o.ecosystem = .openCl
  scalars : c.scalars = o.scalars
  names : ∀ side name, (c.deviceBuffers.onSide side).contains name =
    (o.deviceBuffers.onSide side).contains name
  cudaOwns : c.OwnsBuffers
  openClOwns : o.OwnsBuffers

/-- Both succeed with related results, or both fail with the same error. -/
inductive Agree {ε α β : Type} (R : α → β → Prop) : Except ε α → Except ε β → Prop
  | ok {a : α} {b : β} (related : R a b) : Agree R (.ok a) (.ok b)
  | error (e : ε) : Agree R (.error e) (.error e)

/-- Two arguments that lead to the same site. -/
structure SameSite (x y : Argument) : Prop where
  site : x.target.site? = y.target.site?
  present : y.target ≠ .null

/-- Two arrays under construction whose arguments so far lead to the same sites. -/
structure InStep (a b : ArgumentArray) : Prop where
  cuda : a.convention = .nullTerminated
  openCl : b.convention = .sizeAnnotated
  sites : a.targets.map Target.site? = b.targets.map Target.site?
  present : Target.null ∉ b.targets
  noSizes : a.sizes = []
  allSizes : b.sizes.length = b.targets.length

/-- Two finished arrays that pass the same arguments, each in its own convention: the first
is the second followed by one null entry. -/
structure SameArguments (a b : ArgumentArray) : Prop where
  targets : ∃ ts, a.targets = ts ++ [.null] ∧
    ts.map Target.site? = b.targets.map Target.site? ∧ Target.null ∉ b.targets
  noSizes : a.sizes = []
  allSizes : b.sizes.length = b.targets.length
  count : a.argumentCount = b.argumentCount

end Definitions

theorem Agree.map
    {ε α β α' β' : Type}
    {R : α → β → Prop} {S : α' → β' → Prop}
    {r : Except ε α} {s : Except ε β}
    (h : Agree R r s)
    {f : α → α'} {g : β → β'}
    (hfg : ∀ a b, R a b → S (f a) (g b)) :
    Agree S (r.map f) (s.map g) := by
  cases h with
  | ok hab => exact .ok (hfg _ _ hab)
  | error e => exact .error e

section Counterparts

variable {c o : Context}

theorem counterparts_of_scalars (scalars : ScalarArguments) :
    Counterparts { ecosystem := .cuda, scalars := scalars }
      { ecosystem := .openCl, scalars := scalars } where
  cuda := rfl
  openCl := rfl
  scalars := rfl
  names := fun _ _ => rfl
  cudaOwns := by
    intro side name h hstored
    cases side <;> cases hstored
  openClOwns := by
    intro side name h hstored
    cases side <;> cases hstored

theorem Context.OwnsBuffers.bind
    (hc : c.OwnsBuffers)
    {h : BufferHandle}
    (hown : h.ecosystem = c.ecosystem)
    (name : String) (direction : Direction) :
    (c.bind name direction h).OwnsBuffers := by
  intro side other g hstored
  rw [Context.bind, DeviceBuffers.onSide_insert] at hstored
  -- Only under the new name on its side is the handle found the new one.
  split at hstored
  · rw [NameMap.get?_insert] at hstored
    split at hstored
    · cases hstored
      exact hown
    · exact hc side other g hstored
  · exact hc side other g hstored

theorem Counterparts.bind
    (h : Counterparts c o)
    {x y : BufferHandle}
    (hx : x.ecosystem = .cuda)
    (hy : y.ecosystem = .openCl)
    (name : String) (direction : Direction) :
    Counterparts (c.bind name direction x) (o.bind name direction y) where
  cuda := h.cuda
  openCl := h.openCl
  scalars := h.scalars
  names := by
    intro side other
    simp only [Context.bind, DeviceBuffers.onSide_insert]
    split
    · simp only [NameMap.contains, NameMap.get?_insert]
      split
      · rfl
      · exact h.names side other
    · exact h.names side other
  cudaOwns := h.cudaOwns.bind (hx.trans h.cuda.symm) name direction
  openClOwns := h.openClOwns.bind (hy.trans h.openCl.symm) name direction

/-- A buffer is in neither of two counterparts, or in both with a handle of each one's own. -/
theorem Counterparts.buffers
    (h : Counterparts c o)
    (name : String) (direction : Direction) :
    (c.deviceBuffers.get? name direction = none ∧
        o.deviceBuffers.get? name direction = none) ∨
      ∃ x y, (c.deviceBuffers.get? name direction = some x ∧ x.ecosystem = c.ecosystem) ∧
        (o.deviceBuffers.get? name direction = some y ∧ y.ecosystem = o.ecosystem) := by
  have hnames := h.names direction.side name
  unfold NameMap.contains at hnames
  unfold DeviceBuffers.get?
  cases hx : (c.deviceBuffers.onSide direction.side).get? name with
  | none =>
      rw [hx, Option.isSome_none] at hnames
      exact .inl ⟨rfl, Option.isSome_eq_false_iff.1 hnames.symm |> Option.isNone_iff_eq_none.1⟩
  | some x =>
      rw [hx, Option.isSome_some] at hnames
      obtain ⟨y, hy⟩ := Option.isSome_iff_exists.1 hnames.symm
      exact .inr ⟨x, y, ⟨rfl, h.cudaOwns _ _ x hx⟩, hy, h.openClOwns _ _ y hy⟩

/-- A parameter is bound to the same site in two counterparts, or fails alike in both. -/
theorem agree_locate
    (h : Counterparts c o)
    (p : Parameter) :
    Agree SameSite (locate c p) (locate o p) := by
  cases p with
  | buffer name direction =>
      rcases h.buffers name direction with ⟨hx, hy⟩ | ⟨x, y, ⟨hx, hcuda⟩, hy, hopenCl⟩
      · simp only [locate, hx, hy]
        exact .error _
      · simp only [locate, hx, hy, hcuda, hopenCl, if_true]
        refine .ok ⟨rfl, ?_⟩
        simp
  | scalar name kind =>
      simp only [locate, h.scalars]
      split
      · exact .error _
      · split
        · refine .ok ⟨rfl, ?_⟩
          simp
        · exact .error _

end Counterparts

section Pushes

variable {a b : ArgumentArray}

theorem inStep_start
    {c o : Context}
    (h : Counterparts c o) :
    InStep (.start c) (.start o) where
  cuda := by rw [ArgumentArray.start, h.cuda, Ecosystem.convention]
  openCl := by rw [ArgumentArray.start, h.openCl, Ecosystem.convention]
  sites := rfl
  present := by simp [ArgumentArray.start]
  noSizes := rfl
  allSizes := rfl

theorem InStep.push
    (h : InStep a b)
    {x y : Argument}
    (hxy : SameSite x y) :
    InStep (a.push x) (b.push y) where
  cuda := by rw [ArgumentArray.convention_push, h.cuda]
  openCl := by rw [ArgumentArray.convention_push, h.openCl]
  sites := by simp [h.sites, hxy.site]
  present := by
    rw [ArgumentArray.targets_push, List.mem_append, List.mem_singleton]
    rintro (hnull | hnull)
    · exact h.present hnull
    · exact hxy.present hnull.symm
  noSizes := by rw [ArgumentArray.sizes_push_of_nullTerminated h.cuda, h.noSizes]
  allSizes := by
    rw [ArgumentArray.sizes_push_of_sizeAnnotated h.openCl, ArgumentArray.targets_push]
    simp [h.allSizes]

/-- A push keeps two arrays in step, or fails alike on both. -/
theorem agree_pushParameter
    {c o : Context}
    (h : Counterparts c o)
    (hab : InStep a b)
    (p : Parameter) :
    Agree InStep (a.pushParameter c p) (b.pushParameter o p) := by
  rw [ArgumentArray.pushParameter_eq, ArgumentArray.pushParameter_eq]
  exact (agree_locate h p).map fun _ _ hxy => hab.push hxy

theorem agree_pushAll
    {c o : Context}
    (h : Counterparts c o)
    (hab : InStep a b)
    (ps : List Parameter) :
    Agree InStep (a.pushAll c ps) (b.pushAll o ps) := by
  -- The arrays vary: each push hands on a new pair that is in step.
  induction ps generalizing a b with
  | nil => exact .ok hab
  | cons p ps ih =>
      have hpush := agree_pushParameter h hab p
      unfold ArgumentArray.pushAll
      generalize a.pushParameter c p = r, b.pushParameter o p = s at hpush
      cases hpush with
      | ok hnext => exact ih hnext
      | error e => exact .error e

theorem InStep.finish
    (h : InStep a b) :
    SameArguments a.finish b.finish := by
  have hfinishCuda : a.finish = a.append .null := by
    rw [ArgumentArray.finish, h.cuda]
  have hfinishOpenCl : b.finish = b := by
    rw [ArgumentArray.finish, h.openCl]
  have hlength : a.targets.length = b.targets.length := by
    simpa using congrArg List.length h.sites
  rw [hfinishCuda, hfinishOpenCl]
  refine ⟨⟨a.targets, rfl, h.sites, h.present⟩, h.noSizes, h.allSizes, ?_⟩
  simp [ArgumentArray.argumentCount, ArgumentArray.append, h.cuda, h.openCl, hlength]

end Pushes

section Marshal

/-- The conventions simulate each other: on counterparts, parameters are bound to arrays
that pass the same arguments, or fail with the same error. -/
theorem agree_marshal
    {c o : Context}
    (h : Counterparts c o)
    (ps : List Parameter) :
    Agree SameArguments (marshal c ps) (marshal o ps) := by
  have hpushes : Agree InStep ((ArgumentArray.start c).pushAll c ps)
      ((ArgumentArray.start o).pushAll o ps) :=
    agree_pushAll h (inStep_start h) ps
  exact hpushes.map fun _ _ hab => hab.finish

/-- The scalars of a scaled sum of five elements. -/
def sumScalars : ScalarArguments :=
  .ofList [("a", .float .single 0x40000000#32), ("length", .ofU32 5)]

/-- A scaled sum with its vectors on the device of one ecosystem. -/
def cudaSum : Context :=
  (({ ecosystem := .cuda, scalars := sumScalars } : Context).bind "x" .input
    ⟨.cuda, 0x7f0010⟩).bind "y" .inout ⟨.cuda, 0x7f0020⟩

/-- The same scaled sum with its vectors on the device of the other. -/
def openClSum : Context :=
  (({ ecosystem := .openCl, scalars := sumScalars } : Context).bind "x" .input
    ⟨.openCl, 9⟩).bind "y" .inout ⟨.openCl, 11⟩

/-- The parameters of a scaled sum. -/
def sumParameters : List Parameter :=
  [.scalar "a" (.float .single), .buffer "x" .input, .buffer "y" .inout,
    .scalar "length" (.int .u32)]

/-- The sites of the four arguments of a scaled sum. -/
def sumSites : List (Option Site) :=
  [some (.scalar "a" [0, 0, 0, 64]), some (.buffer .input "x"), some (.buffer .output "y"),
    some (.scalar "length" [5, 0, 0, 0])]

theorem agree_marshal_sum :
    Counterparts cudaSum openClSum ∧
      (marshal cudaSum sumParameters).map (fun a => a.targets.map Target.site?) =
          .ok (sumSites ++ [none]) ∧
        (marshal openClSum sumParameters).map (fun a => a.targets.map Target.site?) =
            .ok sumSites ∧
          Agree SameArguments (marshal cudaSum sumParameters)
            (marshal openClSum sumParameters) := by
  have hsum : Counterparts cudaSum openClSum :=
    ((counterparts_of_scalars sumScalars).bind rfl rfl "x" .input).bind rfl rfl "y" .inout
  exact ⟨hsum, by rfl, by rfl, agree_marshal hsum sumParameters⟩

end Marshal

end KernelLaunch
