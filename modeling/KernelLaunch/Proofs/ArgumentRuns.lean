import KernelLaunch.Adapter.Arguments
import Mathlib.Data.List.Forall2

/-!
# Runs of pushes

An argument array is built push by push, and a push that fails does not end the run.
What a push comes to is stated here apart from the array: it is the stored object that
its parameter addresses, or one of four errors, and the context and the parameter alone
decide which.  A run then does nothing but collect what its pushes come to.

**Results.**
* `comesTo_iff`: a push comes to exactly one thing.
* `recordsRun`: the outcomes and the entries of a run are what its pushes come to.
* `recordsMarshal`: binding a list of parameters is a run that stops at its first error.
-/

namespace KernelLaunch

/-- The map that buffers of a direction are bound from. -/
def boundFrom (b : DeviceBuffers) : Direction → NameMap BufferHandle
  | .input => b.inputs
  | .output => b.outputs
  | .inout => b.outputs

/-- What pushing a parameter comes to in a context: the stored object that it addresses, or
the error. -/
inductive ComesTo (c : Context) : Parameter → Except AdapterError Target → Prop
  | handle {name : String} {direction : Direction} {h : BufferHandle}
      (stored : (boundFrom c.deviceBuffers direction).get? name = some h)
      (own : h.ecosystem = c.ecosystem) :
      ComesTo c (.buffer name direction) (.ok (.handle direction.side name h))
  | missingBuffer {name : String} {direction : Direction}
      (absent : (boundFrom c.deviceBuffers direction).get? name = none) :
      ComesTo c (.buffer name direction) (.error (.missingBuffer name direction))
  | foreignBuffer {name : String} {direction : Direction} {h : BufferHandle}
      (stored : (boundFrom c.deviceBuffers direction).get? name = some h)
      (foreign : h.ecosystem ≠ c.ecosystem) :
      ComesTo c (.buffer name direction)
        (.error (.bufferEcosystemMismatch name c.ecosystem h.ecosystem))
  | scalar {name : String} {kind : ScalarKind} {v : ScalarValue}
      (stored : c.scalars.get? name = some v)
      (same : v.kind = kind) :
      ComesTo c (.scalar name kind) (.ok (.scalar name v))
  | missingScalar {name : String} {kind : ScalarKind}
      (absent : c.scalars.get? name = none) :
      ComesTo c (.scalar name kind) (.error (.missingScalar name))
  | otherKind {name : String} {kind : ScalarKind} {v : ScalarValue}
      (stored : c.scalars.get? name = some v)
      (other : v.kind ≠ kind) :
      ComesTo c (.scalar name kind) (.error (.scalarKindMismatch name kind v.kind))

/-- The entries that close an array. -/
def closing : Ecosystem → List Target
  | .cuda => [.null]
  | .openCl => []

section Definitions

variable (c : Context)

/-- The outcomes of a run of pushes from the start. -/
def outcomes (qs : List Push) : List (Except AdapterError Unit) :=
  ((ArgumentArray.start c).run c qs).1

/-- The array that a run of pushes from the start is finished to. -/
def finished (qs : List Push) : ArgumentArray :=
  ((ArgumentArray.start c).run c qs).2.finish

/-- A run collects what its pushes come to: its outcomes are theirs, and its entries are the
stored objects of those that succeed, in order, before the entries that close the array. -/
structure RecordsRun (qs : List Push) : Prop where
  collected : ∃ rs : List (Except AdapterError Target),
    List.Forall₂ (ComesTo c) (qs.map Push.parameter) rs ∧
      outcomes c qs = rs.map (fun r => r.map fun _ => ()) ∧
        (finished c qs).targets = rs.filterMap Except.toOption ++ closing c.ecosystem ∧
          Target.null ∉ rs.filterMap Except.toOption
  count : (finished c qs).argumentCount = (outcomes c qs).countP Except.isOk
  sizes : (finished c qs).sizes.length =
    if c.ecosystem.needsArgumentSizes then (outcomes c qs).countP Except.isOk else 0

/-- Binding a list of parameters succeeds exactly if each push would, and is then the run of
all of them; otherwise it fails as the first push that would fail. -/
structure RecordsMarshal (ps : List Parameter) : Prop where
  succeeds : (∃ a, marshal c ps = .ok a) ↔ ∀ p ∈ ps, ∃ t, ComesTo c p (.ok t)
  run : ∀ a, marshal c ps = .ok a → a = finished c (ps.map Push.declared)
  fails : ∀ e, marshal c ps = .error e ↔
    ∃ before p after, ps = before ++ p :: after ∧
      (∀ q ∈ before, ∃ t, ComesTo c q (.ok t)) ∧ ComesTo c p (.error e)

end Definitions

section Outcomes

variable {c : Context} {p : Parameter}

theorem boundFrom_get? (b : DeviceBuffers) (direction : Direction) (name : String) :
    (boundFrom b direction).get? name = b.get? name direction := by
  cases direction <;> rfl

theorem comesTo_locate (c : Context) (p : Parameter) :
    ComesTo c p ((locate c p).map Argument.target) := by
  cases p with
  | buffer name direction =>
      simp only [locate]
      split
      · rename_i habsent
        exact .missingBuffer ((boundFrom_get? _ _ _).trans habsent)
      · rename_i h hstored
        have hstored' := (boundFrom_get? _ _ _).trans hstored
        split
        · rename_i hown
          exact .handle hstored' hown
        · rename_i hforeign
          exact .foreignBuffer hstored' hforeign
  | scalar name kind =>
      simp only [locate]
      split
      · rename_i habsent
        exact .missingScalar habsent
      · rename_i v hstored
        split
        · rename_i hsame
          exact .scalar hstored hsame
        · rename_i hother
          exact .otherKind hstored hother

/-- A push comes to one thing only. -/
theorem comesTo_iff {r : Except AdapterError Target} :
    ComesTo c p r ↔ (locate c p).map Argument.target = r := by
  constructor
  · intro h
    cases h with
    | handle hstored hown =>
        rw [boundFrom_get?] at hstored
        simp [locate, hstored, hown, Except.map]
    | missingBuffer habsent =>
        rw [boundFrom_get?] at habsent
        simp [locate, habsent, Except.map]
    | foreignBuffer hstored hforeign =>
        rw [boundFrom_get?] at hstored
        simp [locate, hstored, hforeign, Except.map]
    | scalar hstored hsame => simp [locate, hstored, hsame, Except.map]
    | missingScalar habsent => simp [locate, habsent, Except.map]
    | otherKind hstored hother => simp [locate, hstored, hother, Except.map]
  · rintro rfl
    exact comesTo_locate c p

theorem exists_comesTo_ok_iff : (∃ t, ComesTo c p (.ok t)) ↔ ∃ x, locate c p = .ok x := by
  simp only [comesTo_iff]
  cases locate c p <;> simp [Except.map]

theorem comesTo_error_iff {e : AdapterError} :
    ComesTo c p (.error e) ↔ locate c p = .error e := by
  rw [comesTo_iff]
  cases locate c p <;> simp [Except.map]

end Outcomes

section Arrays

theorem targets_finish_foldl_push (c : Context) (xs : List Argument) :
    ((xs.foldl ArgumentArray.push (.start c)).finish).targets =
      xs.map Argument.target ++ closing c.ecosystem := by
  unfold ArgumentArray.finish
  rw [ArgumentArray.convention_foldl_push]
  cases h : c.ecosystem <;>
    simp [ArgumentArray.start, ArgumentArray.append, Ecosystem.convention, closing, h]

theorem argumentCount_finish_foldl_push (c : Context) (xs : List Argument) :
    ((xs.foldl ArgumentArray.push (.start c)).finish).argumentCount = xs.length := by
  have htargets := congrArg List.length (targets_finish_foldl_push c xs)
  have hconvention :
      ((xs.foldl ArgumentArray.push (.start c)).finish).convention = c.ecosystem.convention := by
    rw [ArgumentArray.convention_finish, ArgumentArray.convention_foldl_push]
    rfl
  unfold ArgumentArray.argumentCount
  rw [hconvention, htargets]
  cases c.ecosystem <;> simp [Ecosystem.convention, closing]

theorem length_sizes_finish_foldl_push (c : Context) (xs : List Argument) :
    ((xs.foldl ArgumentArray.push (.start c)).finish).sizes.length =
      if c.ecosystem.needsArgumentSizes then xs.length else 0 := by
  rw [ArgumentArray.sizes_finish]
  cases h : c.ecosystem with
  | cuda =>
      have hstart : (ArgumentArray.start c).convention = .nullTerminated := by
        rw [ArgumentArray.start, h, Ecosystem.convention]
      rw [ArgumentArray.sizes_foldl_push_of_nullTerminated hstart]
      rfl
  | openCl =>
      have hstart : (ArgumentArray.start c).convention = .sizeAnnotated := by
        rw [ArgumentArray.start, h, Ecosystem.convention]
      rw [ArgumentArray.sizes_foldl_push_of_sizeAnnotated hstart]
      simp [ArgumentArray.start, Ecosystem.needsArgumentSizes, Ecosystem.convention]

end Arrays

section Runs

variable (c : Context)

theorem outcomes_eq (qs : List Push) :
    outcomes c qs = qs.map fun q => (locate c q.parameter).map fun _ => () := by
  rw [outcomes, ArgumentArray.run_eq]

theorem finished_eq (qs : List Push) :
    finished c qs =
      ((ArgumentArray.located c (qs.map Push.parameter)).foldl
        ArgumentArray.push (.start c)).finish := by
  rw [finished, ArgumentArray.run_eq]

theorem countP_isOk_outcomes (qs : List Push) :
    (outcomes c qs).countP Except.isOk =
      (ArgumentArray.located c (qs.map Push.parameter)).length := by
  rw [outcomes_eq]
  induction qs with
  | nil => rfl
  | cons q qs ih =>
      rw [List.map_cons, List.map_cons, List.countP_cons, ih]
      cases h : locate c q.parameter with
      | ok x =>
          rw [ArgumentArray.located_cons_of_ok h]
          rfl
      | error e =>
          rw [ArgumentArray.located_cons_of_error h]
          rfl

theorem map_target_located (ps : List Parameter) :
    (ArgumentArray.located c ps).map Argument.target =
      (ps.map fun p => (locate c p).map Argument.target).filterMap Except.toOption := by
  induction ps with
  | nil => rfl
  | cons p ps ih =>
      cases h : locate c p with
      | ok x =>
          rw [ArgumentArray.located_cons_of_ok h, List.map_cons, ih, List.map_cons, h]
          rfl
      | error e =>
          rw [ArgumentArray.located_cons_of_error h, ih, List.map_cons, h]
          rfl

theorem forall₂_comesTo (ps : List Parameter) :
    List.Forall₂ (ComesTo c) ps (ps.map fun p => (locate c p).map Argument.target) := by
  rw [List.forall₂_map_right_iff, List.forall₂_same]
  exact fun p _ => comesTo_locate c p

/-- Every run records what its pushes come to. -/
theorem recordsRun (qs : List Push) : RecordsRun c qs where
  collected := by
    refine ⟨_, forall₂_comesTo c (qs.map Push.parameter), ?_, ?_, ?_⟩
    · rw [outcomes_eq, List.map_map, List.map_map]
      apply List.map_congr_left
      intro q _
      simp only [Function.comp_apply]
      cases locate c q.parameter <;> rfl
    · rw [finished_eq, targets_finish_foldl_push, map_target_located]
    -- Every entry is the target of an argument that was located.
    · rw [← map_target_located]
      intro hnull
      obtain ⟨x, hx, hnull⟩ := List.mem_map.1 hnull
      obtain ⟨p, _, hp⟩ := List.mem_filterMap.1 hx
      have hlocate : locate c p = .ok x := by
        cases hp' : locate c p with
        | ok y => simpa [hp', Except.toOption] using hp
        | error e => simp [hp', Except.toOption] at hp
      exact target_ne_null_of_locate hlocate hnull
  count := by
    rw [finished_eq, argumentCount_finish_foldl_push, countP_isOk_outcomes]
  sizes := by
    rw [finished_eq, length_sizes_finish_foldl_push, countP_isOk_outcomes]

theorem forall₂_of_map_locate
    {ps : List Parameter} {xs : List Argument}
    (h : ps.map (locate c) = xs.map .ok) :
    List.Forall₂ (fun p x => locate c p = .ok x) ps xs := by
  have heq : List.Forall₂ Eq (ps.map (locate c)) (xs.map .ok) := by
    rw [h]
    exact List.forall₂_same.2 fun _ _ => rfl
  rwa [List.forall₂_map_left_iff, List.forall₂_map_right_iff] at heq

theorem located_of_forall₂_locate
    {ps : List Parameter} {xs : List Argument}
    (h : List.Forall₂ (fun p x => locate c p = .ok x) ps xs) :
    ArgumentArray.located c ps = xs := by
  induction h with
  | nil => rfl
  | cons hp _ ih => rw [ArgumentArray.located_cons_of_ok hp, ih]

/-- Every list of parameters is bound as a run that stops at its first error. -/
theorem recordsMarshal (ps : List Parameter) : RecordsMarshal c ps where
  succeeds := by
    constructor
    · rintro ⟨a, ha⟩ p hp
      obtain ⟨xs, hxs, _⟩ := marshal_eq_ok_iff.1 ha
      have hmem : locate c p ∈ xs.map Except.ok := hxs ▸ List.mem_map_of_mem hp
      obtain ⟨x, _, hx⟩ := List.mem_map.1 hmem
      exact exists_comesTo_ok_iff.2 ⟨x, hx.symm⟩
    · intro hall
      cases hm : marshal c ps with
      | ok a => exact ⟨a, rfl⟩
      | error e =>
          obtain ⟨before, p, after, rfl, _, hp⟩ := marshal_eq_error_iff.1 hm
          obtain ⟨x, hx⟩ := exists_comesTo_ok_iff.1 (hall p (by simp))
          rw [hp] at hx
          cases hx
  run := by
    intro a ha
    obtain ⟨xs, hxs, rfl⟩ := marshal_eq_ok_iff.1 ha
    have hparameters : (ps.map Push.declared).map Push.parameter = ps := by
      simp [Function.comp_def, Push.parameter]
    rw [finished_eq, hparameters, located_of_forall₂_locate c (forall₂_of_map_locate c hxs)]
  fails := by
    intro e
    simp only [exists_comesTo_ok_iff, comesTo_error_iff]
    exact marshal_eq_error_iff

/-- Building an argument array is exact over whole runs.  What a push comes to is settled by
the context and its parameter, whatever array it is made on; a push that fails leaves that
array as it is; and both a run of pushes and the binding of a list of parameters record
exactly what their pushes come to. -/
theorem marshalling_exact :
    (∀ (a : ArgumentArray) (q : Push),
      (∃! r, ComesTo c q.parameter r) ∧
        (∀ r, ComesTo c q.parameter r → (a.step c q).1 = r.map fun _ => ()) ∧
          ∀ e, (a.step c q).1 = .error e → (a.step c q).2 = a) ∧
      (∀ qs, RecordsRun c qs) ∧ ∀ ps, RecordsMarshal c ps := by
  refine ⟨?_, recordsRun c, recordsMarshal c⟩
  intro a q
  refine ⟨⟨_, comesTo_locate c q.parameter, fun r hr => (comesTo_iff.1 hr).symm⟩, ?_, ?_⟩
  · intro r hr
    rw [← comesTo_iff.1 hr]
    cases hq : locate c q.parameter with
    | ok x =>
        rw [ArgumentArray.step_of_locate_ok hq]
        rfl
    | error e =>
        rw [ArgumentArray.step_of_locate_error hq]
        rfl
  · intro e he
    cases hq : locate c q.parameter with
    | ok x =>
        rw [ArgumentArray.step_of_locate_ok hq] at he
        cases he
    | error f => rw [ArgumentArray.step_of_locate_error hq]

end Runs

end KernelLaunch
