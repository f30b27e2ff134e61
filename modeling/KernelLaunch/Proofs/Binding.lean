import KernelLaunch.Proofs.ArgumentRuns
import KernelLaunch.Proofs.Preparation
import Mathlib.Data.List.Nodup

/-!
# Binding what was prepared

An adapter lists the parameters of its kernel four times: as buffers, as scalars, as the
kinds that texts for scalars are read as, and as the sequence in which they are bound.
Where these tables agree, and where each scalar is one that the user must supply or one that
is generated, a run that was prepared and whose buffers were stored lacks nothing.  What can
still be wrong is the kind of a value that the user supplied, since nothing checks it before
the argument array is made.

The device may hold other buffers from before, on either side and of either ecosystem.
Those of the adapter replace them where they are in the way.

**Results.**
* `tablesAgree_builtin`: the tables of the built-in adapters agree.
* `TablesAgree.exists_scalar`: a prepared context has a value for each declared scalar, from
  the user or of the kind that is expected.
* `TablesAgree.locate_buffer`: a stored buffer is what its parameter is bound to.
* `bindsDeclared_of_prepare`: making the argument array fails exactly on a value of another
  kind, and otherwise binds each declared parameter once.
-/

namespace KernelLaunch

section Slots

/-- What an argument stands for: the buffer of a name on one side, or the scalar of a name. -/
inductive Slot
  | buffer (side : Side) (name : String)
  | scalar (name : String)
  deriving DecidableEq

/-- What an entry of an argument array stands for, unless it only closes the array. -/
def Target.slot? : Target → Option Slot
  | .null => none
  | .handle side name _ => some (.buffer side name)
  | .scalar name _ => some (.scalar name)

def Parameter.slot : Parameter → Slot
  | .buffer name direction => .buffer direction.side name
  | .scalar name _ => .scalar name

/-- The parameters that an adapter declares in its tables of buffers and scalars. -/
def Adapter.slots (a : Adapter) : List Slot :=
  (a.buffers.map fun b => .buffer b.direction.side b.name) ++
    a.scalars.map fun s => .scalar s.name

variable {c : Context} {ps : List Parameter} {array : ArgumentArray}

theorem slot?_of_locate
    {p : Parameter} {x : Argument}
    (h : locate c p = .ok x) :
    x.target.slot? = some p.slot := by
  cases p with
  | buffer name direction =>
      obtain ⟨_, _, _, rfl⟩ := locate_buffer_eq_ok_iff.1 h
      rfl
  | scalar name kind =>
      obtain ⟨_, _, _, rfl⟩ := locate_scalar_eq_ok_iff.1 h
      rfl

theorem slots_of_forall₂_locate
    {xs : List Argument}
    (h : List.Forall₂ (fun p x => locate c p = .ok x) ps xs) :
    (xs.map Argument.target).filterMap Target.slot? = ps.map Parameter.slot := by
  induction h with
  | nil => rfl
  | cons hp _ ih =>
      rw [List.map_cons, List.filterMap_cons_some (slot?_of_locate hp), ih, List.map_cons]

/-- An argument array has one entry for each parameter, in order. -/
theorem slots_of_marshal
    (h : marshal c ps = .ok array) :
    array.targets.filterMap Target.slot? = ps.map Parameter.slot := by
  obtain ⟨xs, hxs, rfl⟩ := marshal_eq_ok_iff.1 h
  have hclosing : (closing c.ecosystem).filterMap Target.slot? = [] := by
    cases c.ecosystem <;> rfl
  rw [targets_finish_foldl_push, List.filterMap_append, hclosing, List.append_nil,
    slots_of_forall₂_locate (forall₂_of_map_locate c hxs)]

theorem mem_targets_of_marshal
    (h : marshal c ps = .ok array)
    {p : Parameter}
    (hp : p ∈ ps) :
    ∃ x, locate c p = .ok x ∧ x.target ∈ array.targets := by
  obtain ⟨xs, hxs, rfl⟩ := marshal_eq_ok_iff.1 h
  have hmem : locate c p ∈ xs.map Except.ok := hxs ▸ List.mem_map_of_mem hp
  obtain ⟨x, hx, hlocate⟩ := List.mem_map.1 hmem
  refine ⟨x, hlocate.symm, ?_⟩
  rw [targets_finish_foldl_push]
  exact List.mem_append_left _ (List.mem_map_of_mem hx)

end Slots

namespace Kernels

section Definitions

/-- The user supplied a value whose kind is not the one that texts for its name are
read as. -/
structure Misfit (a : Adapter) (c : Context) (name : String) (expected actual : ScalarKind) :
    Prop where
  declared : a.scalarNames.contains name = true
  supplied : ∃ v, c.scalars.get? name = some v ∧ v.kind = actual
  read : ∃ raw v, a.readScalar name raw = .ok v ∧ v.kind = expected
  other : actual ≠ expected

/-- Each declared scalar that the user supplied came from a text. -/
def AllRead (a : Adapter) (c : Context) : Prop :=
  ∀ name v, a.scalarNames.contains name = true → c.scalars.get? name = some v →
    ∃ raw, a.readScalar name raw = .ok v

/-- Insertions of one handle of an ecosystem for each buffer of an adapter, in any order. -/
structure HandlesFor (a : Adapter) (e : Ecosystem) (handle : BufferDescriptor → BufferHandle)
    (es : List (String × Direction × BufferHandle)) : Prop where
  own : ∀ b ∈ a.buffers, (handle b).ecosystem = e
  entries : es.Perm (a.buffers.map fun b => (b.name, b.direction, handle b))

/-- The entries of the array that are not null are one for each declared parameter: the
handle of a buffer, the value of a scalar in the context. -/
structure BindsOnce (a : Adapter) (c : Context) (handle : BufferDescriptor → BufferHandle)
    (array : ArgumentArray) : Prop where
  distinct : a.slots.Nodup
  once : (array.targets.filterMap Target.slot?).Perm a.slots
  handles : ∀ b ∈ a.buffers,
    Target.handle b.direction.side b.name (handle b) ∈ array.targets
  values : ∀ s ∈ a.scalars, ∃ v, c.scalars.get? s.name = some v ∧
    Target.scalar s.name v ∈ array.targets

/-- How the argument array of a kernel is made in the context `bound`, which was `c` before
it was prepared. -/
structure BindsDeclared (a : Adapter) (c bound : Context)
    (handle : BufferDescriptor → BufferHandle) : Prop where
  fails : (∃ e, a.marshalArguments bound = .error e) ↔
    ∃ name expected actual, Misfit a c name expected actual
  error : ∀ e, a.marshalArguments bound = .error e →
    ∃ name expected actual, Misfit a c name expected actual ∧
      e = .scalarKindMismatch name expected actual
  binds : ∀ array, a.marshalArguments bound = .ok array → BindsOnce a bound handle array
  read : AllRead a c → ∃ array, a.marshalArguments bound = .ok array ∧
    BindsOnce a bound handle array

/-- The tables of an adapter agree: its argument sequence has the declared buffers and the
scalars by their kinds, each once, and each scalar is required from the user or generated. -/
structure TablesAgree (a : Adapter) : Prop where
  distinct : a.slots.Nodup
  declared : a.scalarKinds.map Prod.fst = a.scalars.map fun s => s.name
  sequence : ∀ c, (a.parameters c).Perm
    (a.buffers.map BufferDescriptor.parameter ++ a.scalarKinds.map fun s => .scalar s.1 s.2)
  length : ∀ kind, (lengthName, kind) ∈ a.scalarKinds → kind = .int .u32
  supplied : ∀ s ∈ a.scalarKinds, a.requiredScalars.contains s.1 = true ∨
    s.1 = lengthName ∧
      ∃ buffer size, a.generateScalars = fun c => generateLength c buffer size

end Definitions

/-- The tables agree for a kernel whose only scalar is the generated length, bound last. -/
theorem tablesAgree_of_length
    {a : Adapter} {buffer : String} {elementSize : Nat}
    (hdistinct : a.slots.Nodup)
    (hscalars : (a.scalars.map fun s => s.name) = [lengthName])
    (hkinds : a.scalarKinds = [(lengthName, .int .u32)])
    (hgenerate : a.generateScalars = fun c => generateLength c buffer elementSize)
    (hsequence : ∀ c, a.parameters c =
      a.buffers.map BufferDescriptor.parameter ++ [.scalar lengthName (.int .u32)]) :
    TablesAgree a where
  distinct := hdistinct
  declared := by rw [hscalars, hkinds, List.map_singleton]
  sequence := fun c => by rw [hsequence, hkinds, List.map_singleton]
  length := by
    intro kind h
    rw [hkinds] at h
    simpa using h
  supplied := by
    intro s hs
    rw [hkinds] at hs
    obtain rfl := List.mem_singleton.1 hs
    exact .inr ⟨rfl, buffer, elementSize, hgenerate⟩

/-- The tables of the built-in adapters agree. -/
theorem tablesAgree_builtin : ∀ a ∈ builtinAdapters, TablesAgree a := by
  have haddition : vectorAdd.slots.Nodup := by decide
  have hsaxpy : (saxpy.parameters {}).Perm
      (saxpy.buffers.map BufferDescriptor.parameter ++
        saxpy.scalarKinds.map fun s => .scalar s.1 s.2) := by decide
  refine forall_builtin (fun key => ?_) ?_ ?_ ?_
  · exact tablesAgree_of_length haddition rfl rfl rfl fun _ => rfl
  -- Here the arguments are not in the order of the tables, and the factor is required.
  · refine ⟨by decide, rfl, fun _ => hsaxpy, fun kind h => ?_, fun s hs => ?_⟩
    · simpa [saxpy, Saxpy.scalarKinds, lengthName] using h
    · rcases List.mem_cons.1 hs with rfl | hs
      · exact .inl (by decide)
      · obtain rfl := List.mem_singleton.1 hs
        exact .inr ⟨rfl, _, _, rfl⟩
  · exact tablesAgree_of_length (by decide) rfl rfl rfl fun _ => rfl
  -- Scaling has no length at all.
  · refine ⟨by decide, rfl, fun _ => .refl _, fun kind h => ?_, fun s hs => .inl ?_⟩
    · exact absurd h (by simp [scaleInPlace, Scale.scalarKinds, lengthName])
    · obtain rfl := List.mem_singleton.1 hs
      decide

section Tables

variable {a : Adapter} (ha : TablesAgree a)
include ha

theorem TablesAgree.nodup_kinds : (a.scalarKinds.map Prod.fst).Nodup := by
  rw [ha.declared]
  have hslots := (List.nodup_append.1 ha.distinct).2.1
  exact List.Nodup.of_map Slot.scalar (by simpa [Function.comp_def] using hslots)

theorem TablesAgree.nodup_places :
    (a.buffers.map fun b => (b.direction.side, b.name)).Nodup := by
  have hslots := (List.nodup_append.1 ha.distinct).1
  refine List.Nodup.of_map (fun place => Slot.buffer place.1 place.2) ?_
  simpa [Function.comp_def] using hslots

theorem TablesAgree.contains_scalarNames_iff {name : String} :
    a.scalarNames.contains name = true ↔ ∃ kind, (name, kind) ∈ a.scalarKinds := by
  rw [Adapter.scalarNames, NameSet.contains_ofNames, ← ha.declared]
  simp

theorem TablesAgree.scalarKind?_eq_some_iff {name : String} {kind : ScalarKind} :
    a.scalarKind? name = some kind ↔ (name, kind) ∈ a.scalarKinds := by
  unfold Adapter.scalarKind?
  constructor
  · intro h
    obtain ⟨s, hs, rfl⟩ := Option.map_eq_some_iff.1 h
    obtain rfl : s.1 = name := by simpa using List.find?_some hs
    exact List.mem_of_find?_eq_some hs
  · intro h
    cases hs : a.scalarKinds.find? fun s => s.1 = name with
    | none => simpa using List.find?_eq_none.1 hs _ h
    -- The entry that is found has the same name, hence is the same.
    | some s =>
        have hname : s.1 = name := by simpa using List.find?_some hs
        have hsame : s = (name, kind) :=
          List.inj_on_of_nodup_map ha.nodup_kinds (List.mem_of_find?_eq_some hs) h hname
        rw [hsame]
        rfl

/-- A text is unknown exactly if its name is not declared. -/
theorem TablesAgree.readScalar_eq_unknown_iff {name raw key other : String} :
    a.readScalar name raw = .error (.unknownScalar key other) ↔
      a.scalarNames.contains name = false ∧ key = a.key ∧ other = name := by
  have hunknown : a.scalarNames.contains name = false ↔ ∀ s ∈ a.scalarKinds, s.1 ≠ name := by
    rw [← Bool.not_eq_true, ha.contains_scalarNames_iff]
    constructor
    · rintro h s hs rfl
      exact h ⟨s.2, hs⟩
    · rintro h ⟨kind, hs⟩
      exact h _ hs rfl
  rw [hunknown, Adapter.readScalar_eq_unknown_iff]

theorem TablesAgree.misfit_iff
    {c : Context} {name : String} {expected actual : ScalarKind} :
    Misfit a c name expected actual ↔
      (name, expected) ∈ a.scalarKinds ∧
        (∃ v, c.scalars.get? name = some v ∧ v.kind = actual) ∧ actual ≠ expected := by
  constructor
  · rintro ⟨_, hsupplied, ⟨_, v, hread, rfl⟩, hother⟩
    exact ⟨ha.scalarKind?_eq_some_iff.1 (Adapter.scalarKind?_of_readScalar hread), hsupplied,
      hother⟩
  · rintro ⟨hmem, hsupplied, hother⟩
    obtain ⟨v, hv⟩ := expected.exists_parse
    have hread : a.readScalar name "0" = .ok v :=
      Adapter.readScalar_eq_ok_iff.2 ⟨expected, ha.scalarKind?_eq_some_iff.2 hmem, hv⟩
    have hkind : v.kind = expected :=
      ScalarKind.kind_of_read (ScalarKind.parse_eq_ok_iff.1 hv)
    exact ⟨ha.contains_scalarNames_iff.2 ⟨_, hmem⟩, hsupplied, ⟨_, v, hread, hkind⟩, hother⟩

theorem TablesAgree.mem_parameters_iff {c : Context} {p : Parameter} :
    p ∈ a.parameters c ↔
      (∃ b ∈ a.buffers, b.parameter = p) ∨ ∃ s ∈ a.scalarKinds, .scalar s.1 s.2 = p := by
  rw [(ha.sequence c).mem_iff, List.mem_append, List.mem_map, List.mem_map]

theorem TablesAgree.perm_slots (c : Context) :
    ((a.parameters c).map Parameter.slot).Perm a.slots := by
  have hscalars : (a.scalarKinds.map Prod.fst).map Slot.scalar =
      (a.scalars.map fun s => s.name).map Slot.scalar := by rw [ha.declared]
  refine ((ha.sequence c).map Parameter.slot).trans (.of_eq ?_)
  simp only [List.map_append, List.map_map, Adapter.slots] at hscalars ⊢
  exact congrArg _ hscalars

end Tables

section Prepared

variable {a : Adapter} {c d : Context} {sizes : NameMap Nat}

/-- A prepared context has a value for each declared scalar.  If it is not the user's it is
of the kind that is expected. -/
theorem TablesAgree.exists_scalar
    (ha : TablesAgree a)
    (heffect : BoundedEffect a c)
    (hprepare : a.prepare c = (.ok sizes, d))
    {name : String} {kind : ScalarKind}
    (hmem : (name, kind) ∈ a.scalarKinds) :
    ∃ v, d.scalars.get? name = some v ∧ (c.scalars.get? name = some v ∨ v.kind = kind) := by
  obtain ⟨g, hg, hd, hvalid, _⟩ := Adapter.prepare_eq_ok_iff.1 hprepare
  have hafter : (a.prepare c).2 = d := by rw [hprepare]
  have hstored : ∃ v, d.scalars.get? name = some v := by
    rcases ha.supplied _ hmem with hrequired | ⟨hname, buffer, size, hgenerate⟩
    · have hpresent := ((Adapter.validate_eq_ok_iff a d).1 hvalid).2.1 name hrequired
      exact NameMap.contains_eq_true_iff.1 hpresent
    · obtain rfl : name = lengthName := hname
      rw [hgenerate] at hg
      rw [hd]
      exact exists_length_of_generateLength hg
  obtain ⟨v, hv⟩ := hstored
  refine ⟨v, hv, ?_⟩
  cases hc : c.scalars.get? name with
  | some w =>
      have hkept := heffect.kept name w hc
      rw [hafter, hv] at hkept
      exact .inl hkept.symm
  | none =>
      obtain ⟨rfl, hkind⟩ := heffect.added name v hc (hafter ▸ hv)
      exact .inr (hkind.trans (ha.length kind hmem).symm)

end Prepared

section Bound

variable {a : Adapter} {c d : Context} {sizes : NameMap Nat}
variable {handle : BufferDescriptor → BufferHandle}
variable {es : List (String × Direction × BufferHandle)}

/-- A buffer is bound to the handle that was stored for it, whatever was there before. -/
theorem TablesAgree.locate_buffer
    (ha : TablesAgree a)
    (hes : HandlesFor a d.ecosystem handle es)
    {b : BufferDescriptor}
    (hb : b ∈ a.buffers) :
    locate (d.bindAll es) b.parameter =
      .ok ⟨.handle b.direction.side b.name (handle b), (handle b).size⟩ := by
  have hdistinct : (es.map DeviceBuffers.place).Nodup := by
    rw [(hes.entries.map DeviceBuffers.place).nodup_iff]
    simpa [Function.comp_def, DeviceBuffers.place] using ha.nodup_places
  have hentry : (b.name, b.direction, handle b) ∈ es :=
    hes.entries.mem_iff.2 (List.mem_map_of_mem hb)
  exact locate_buffer_eq_ok_iff.2
    ⟨handle b, DeviceBuffers.get?_insertAll_of_mem hdistinct hentry _, hes.own b hb, rfl⟩

/-- A parameter of the kernel cannot be bound only if it is a scalar whose value the user
supplied with another kind. -/
theorem TablesAgree.locate_eq_error_iff
    (ha : TablesAgree a)
    (heffect : BoundedEffect a c)
    (hprepare : a.prepare c = (.ok sizes, d))
    (hes : HandlesFor a d.ecosystem handle es)
    {p : Parameter}
    (hp : p ∈ a.parameters (d.bindAll es))
    {e : AdapterError} :
    locate (d.bindAll es) p = .error e ↔
      ∃ name expected actual, p = .scalar name expected ∧ Misfit a c name expected actual ∧
        e = .scalarKindMismatch name expected actual := by
  rcases ha.mem_parameters_iff.1 hp with ⟨b, hb, rfl⟩ | ⟨⟨name, kind⟩, hmem, rfl⟩
  · rw [ha.locate_buffer hes hb]
    simp [BufferDescriptor.parameter]
  · obtain ⟨v, hv, horigin⟩ := ha.exists_scalar heffect hprepare hmem
    have hbound : (d.bindAll es).scalars.get? name = some v := hv
    constructor
    · intro h
      simp only [locate, hbound] at h
      split at h
      · cases h
      · rename_i hkind
        have hsupplied := horigin.resolve_right hkind
        refine ⟨name, kind, v.kind, rfl, ?_, (Except.error.inj h).symm⟩
        exact ha.misfit_iff.2 ⟨hmem, ⟨v, hsupplied, rfl⟩, hkind⟩
    · rintro ⟨_, _, _, ⟨rfl, rfl⟩, hmisfit, rfl⟩
      obtain ⟨_, ⟨w, hsupplied, rfl⟩, hkind⟩ := ha.misfit_iff.1 hmisfit
      have hkept := heffect.kept name w hsupplied
      rw [hprepare, hv] at hkept
      obtain rfl := Option.some.inj hkept
      simp only [locate, hbound, if_neg hkind]

/-- An array that is made binds each declared parameter once. -/
theorem TablesAgree.bindsOnce
    (ha : TablesAgree a)
    (hes : HandlesFor a d.ecosystem handle es)
    {array : ArgumentArray}
    (h : a.marshalArguments (d.bindAll es) = .ok array) :
    BindsOnce a (d.bindAll es) handle array where
  distinct := ha.distinct
  once := by
    rw [slots_of_marshal h]
    exact ha.perm_slots _
  handles := by
    intro b hb
    obtain ⟨x, hx, hmem⟩ := mem_targets_of_marshal h (ha.mem_parameters_iff.2 (.inl ⟨b, hb, rfl⟩))
    rw [ha.locate_buffer hes hb] at hx
    cases hx
    exact hmem
  values := by
    intro s hs
    have hname : s.name ∈ a.scalarKinds.map Prod.fst := by
      rw [ha.declared]
      exact List.mem_map_of_mem hs
    obtain ⟨⟨name, kind⟩, hkind, hname⟩ := List.mem_map.1 hname
    obtain ⟨x, hx, hmem⟩ :=
      mem_targets_of_marshal h (ha.mem_parameters_iff.2 (.inr ⟨_, hkind, rfl⟩))
    obtain ⟨v, hv, _, rfl⟩ := locate_scalar_eq_ok_iff.1 hx
    obtain rfl : name = s.name := hname
    exact ⟨v, hv, hmem⟩

theorem TablesAgree.not_misfit
    (ha : TablesAgree a)
    (hread : AllRead a c)
    {name : String} {expected actual : ScalarKind} :
    ¬Misfit a c name expected actual := by
  intro hmisfit
  obtain ⟨hmem, ⟨v, hsupplied, rfl⟩, hkind⟩ := ha.misfit_iff.1 hmisfit
  obtain ⟨raw, hraw⟩ := hread name v hmisfit.declared hsupplied
  have hexpected := ha.scalarKind?_eq_some_iff.2 hmem
  rw [Adapter.scalarKind?_of_readScalar hraw] at hexpected
  exact hkind (Option.some.inj hexpected)

theorem TablesAgree.bindsDeclared
    (ha : TablesAgree a)
    (heffect : BoundedEffect a c)
    (hprepare : a.prepare c = (.ok sizes, d))
    (hes : HandlesFor a d.ecosystem handle es) :
    BindsDeclared a c (d.bindAll es) handle := by
  have herror : ∀ e, a.marshalArguments (d.bindAll es) = .error e →
      ∃ name expected actual, Misfit a c name expected actual ∧
        e = .scalarKindMismatch name expected actual := by
    intro e he
    obtain ⟨before, p, after, hsplit, _, hp⟩ := marshal_eq_error_iff.1 he
    have hmem : p ∈ a.parameters (d.bindAll es) := by simp [hsplit]
    obtain ⟨name, expected, actual, _, hmisfit, rfl⟩ :=
      (ha.locate_eq_error_iff heffect hprepare hes hmem).1 hp
    exact ⟨name, expected, actual, hmisfit, rfl⟩
  refine ⟨⟨?_, ?_⟩, herror, fun array => ha.bindsOnce hes, fun hread => ?_⟩
  · rintro ⟨e, he⟩
    obtain ⟨name, expected, actual, hmisfit, _⟩ := herror e he
    exact ⟨name, expected, actual, hmisfit⟩
  · rintro ⟨name, expected, actual, hmisfit⟩
    cases hm : a.marshalArguments (d.bindAll es) with
    | error e => exact ⟨e, rfl⟩
    | ok array =>
        have hmem : Parameter.scalar name expected ∈ a.parameters (d.bindAll es) :=
          ha.mem_parameters_iff.2 (.inr ⟨_, (ha.misfit_iff.1 hmisfit).1, rfl⟩)
        obtain ⟨x, hx, _⟩ := mem_targets_of_marshal hm hmem
        rw [(ha.locate_eq_error_iff heffect hprepare hes hmem).2
          ⟨name, expected, actual, rfl, hmisfit, rfl⟩] at hx
        cases hx
  · cases hm : a.marshalArguments (d.bindAll es) with
    | ok array => exact ⟨array, rfl, ha.bindsOnce hes hm⟩
    | error e =>
        obtain ⟨_, _, _, hmisfit, _⟩ := herror e hm
        exact absurd hmisfit (ha.not_misfit hread)

/-- After a built-in kernel was prepared and a handle of the right ecosystem was stored for
each of its buffers, its argument array is made unless the user supplied a declared scalar
with a kind that is not the expected one, and it binds each declared parameter once.  A text
for a scalar is refused as unknown exactly if the scalar is not declared. -/
theorem bindsDeclared_of_prepare
    (ha : a ∈ builtinAdapters) :
    (∀ name raw key other, a.readScalar name raw = .error (.unknownScalar key other) ↔
      a.scalarNames.contains name = false ∧ key = a.key ∧ other = name) ∧
      ∀ c d sizes, a.prepare c = (.ok sizes, d) →
        ∀ handle es, HandlesFor a c.ecosystem handle es →
          BindsDeclared a c (d.bindAll es) handle := by
  have hagree := tablesAgree_builtin a ha
  refine ⟨fun _ _ _ _ => hagree.readScalar_eq_unknown_iff, ?_⟩
  intro c d sizes hprepare handle es hes
  have heffect := (atMostLength_builtin a ha).boundedEffect c
  have hecosystem : d.ecosystem = c.ecosystem := by
    obtain ⟨_, _, rfl, _⟩ := Adapter.prepare_eq_ok_iff.1 hprepare
    rfl
  exact hagree.bindsDeclared heffect hprepare (hecosystem ▸ hes)

/-- An OpenCL run that finds handles of CUDA under the names of the vectors, on both
sides. -/
def staleHandles : Context :=
  { ecosystem := .openCl
    hostSizes := .ofList [("x", 16), ("y", 16)]
    deviceBuffers :=
      { inputs := .ofList [("x", ⟨.cuda, 1⟩), ("y", ⟨.cuda, 2⟩)]
        outputs := .ofList [("x", ⟨.cuda, 3⟩), ("y", ⟨.cuda, 4⟩)] }
    scalars := .single "a" (.float .single 0x40000000#32) }

/-- The handles that are stored for the vectors. -/
def freshHandle (b : BufferDescriptor) : BufferHandle :=
  ⟨.openCl, if b.name = "x" then 5 else 6⟩

/-- The vectors are stored from the last to the first. -/
def freshEntries : List (String × Direction × BufferHandle) :=
  (saxpy.buffers.map fun b => (b.name, b.direction, freshHandle b)).reverse

/-- The same run with a length that is no 32-bit number. -/
def otherLength : Context :=
  staleHandles.mergeScalars (.single lengthName (.float .single 0x40000000#32))

/-- A factor that was read is bound with the generated length, and the fresh handles replace
those of CUDA.  With a length of another kind no array is made. -/
theorem bindsDeclared_staleHandles :
    saxpy ∈ builtinAdapters ∧
      HandlesFor saxpy .openCl freshHandle freshEntries ∧
        (∃ array, saxpy.marshalArguments ((saxpy.prepare staleHandles).2.bindAll freshEntries) =
          .ok array ∧
            BindsOnce saxpy ((saxpy.prepare staleHandles).2.bindAll freshEntries) freshHandle
              array) ∧
          ∃ e, saxpy.marshalArguments ((saxpy.prepare otherLength).2.bindAll freshEntries) =
            .error e := by
  have hsaxpy : saxpy ∈ builtinAdapters := by simp [builtinAdapters]
  have hhandles : HandlesFor saxpy .openCl freshHandle freshEntries :=
    ⟨fun _ _ => rfl, List.reverse_perm _⟩
  have hread : AllRead saxpy staleHandles := by
    intro name v _ hv
    obtain ⟨rfl, rfl⟩ : "a" = name ∧ ScalarValue.float .single 0x40000000#32 = v := by
      simpa [staleHandles] using hv
    exact ⟨"2", by decide +kernel⟩
  have hmisfit : Misfit saxpy otherLength lengthName (.int .u32) (.float .single) :=
    ⟨by decide, ⟨_, rfl, rfl⟩, ⟨"4", .ofU32 4, by decide +kernel, rfl⟩, by decide⟩
  obtain ⟨_, hbinds⟩ := bindsDeclared_of_prepare hsaxpy
  exact ⟨hsaxpy, hhandles, (hbinds staleHandles _ _ rfl _ _ hhandles).read hread,
    (hbinds otherLength _ _ rfl _ _ hhandles).fails.2 ⟨_, _, _, hmisfit⟩⟩

end Bound

end Kernels
end KernelLaunch
