import KernelLaunch.Proofs.ArgumentRuns
import KernelLaunch.Scalar.Payload

/-!
# The sizes of arguments

An entry of an argument array addresses a stored object, a handle or the value of a scalar,
and where the convention wants sizes the array records one beside each entry.  The size of a
scalar comes from the kind that its parameter declares, not from the value that is stored;
the value has that kind whenever the push succeeds.

    targets = [a, b, n]    sizes = [8, 8, 4]    triples = [(0, 8, a), (1, 8, b), (2, 4, n)]

**Results.**
* `spans_of_locate`: the size recorded for an argument is the length of what it addresses.
* `SizesExact.step`, `SizesExact.run`: a push, and a run of pushes, keep the sizes exact.
* `listsOnce_of_length_eq`: the indexed list of an array with as many sizes as entries has
  each argument once.
* `measuresRun`: what the sizes are at every point of every run, and after it.
-/

namespace KernelLaunch

section Specification

/-- The length in bytes of the stored object that an entry addresses. -/
inductive Spans (c : Context) : Target → Nat → Prop
  | handle {side : Side} {name : String} {h : BufferHandle}
      (stored : (c.deviceBuffers.onSide side).get? name = some h) :
      Spans c (.handle side name h) 8
  | scalar {name : String} {v : ScalarValue}
      (stored : c.scalars.get? name = some v) :
      Spans c (.scalar name v) v.payload.length

/-- The sizes of an array are as its convention wants them: one for each entry, and the length
of what that entry addresses, or none at all. -/
structure SizesExact (c : Context) (a : ArgumentArray) : Prop where
  annotated : a.convention = .sizeAnnotated → List.Forall₂ (Spans c) a.targets a.sizes
  bare : a.convention = .nullTerminated → a.sizes = []

/-- The indexed list of an array has each argument once, at the place of its index. -/
structure ListsOnce (a : ArgumentArray) : Prop where
  indices : a.sizedArguments.map (fun x => x.1.toNat) = List.range a.argumentCount
  sizes : a.sizedArguments.map (fun x => x.2.1) = a.sizes
  targets : a.sizedArguments.map (fun x => x.2.2) = a.targets

variable (c : Context)

/-- The array after the pushes of a run so far. -/
def reached (qs : List Push) : ArgumentArray :=
  ((ArgumentArray.start c).run c qs).2

/-- What the sizes are after the pushes so far, and once the array is finished. -/
structure MeasuresRun (qs : List Push) : Prop where
  /-- Every push that succeeds adds one entry, and no other does. -/
  entries : (reached c qs).targets.length = (outcomes c qs).countP Except.isOk
  /-- The entry that may close the array is no argument. -/
  arguments : (finished c qs).argumentCount = (outcomes c qs).countP Except.isOk
  building : c.ecosystem = .openCl →
    List.Forall₂ (Spans c) (reached c qs).targets (reached c qs).sizes
  closed : c.ecosystem = .openCl →
    List.Forall₂ (Spans c) (finished c qs).targets (finished c qs).sizes
  /-- An index has 32 bits. -/
  listed : c.ecosystem = .openCl → (finished c qs).argumentCount ≤ UInt32.size →
    ListsOnce (finished c qs)
  bare : c.ecosystem = .cuda →
    (reached c qs).sizes = [] ∧ (finished c qs).sizes = [] ∧
      (reached c qs).sizedArguments = [] ∧ (finished c qs).sizedArguments = []

end Specification

section Pushes

variable {c : Context} {a : ArgumentArray}

/-- The size recorded for an argument is the length of what it addresses. -/
theorem spans_of_locate {p : Parameter} {x : Argument} (h : locate c p = .ok x) :
    Spans c x.target x.size := by
  cases p with
  | buffer name direction =>
      obtain ⟨b, hstored, _, rfl⟩ := locate_buffer_eq_ok_iff.1 h
      exact .handle hstored
  | scalar name kind =>
      obtain ⟨v, hstored, rfl, rfl⟩ := locate_scalar_eq_ok_iff.1 h
      have hspans : Spans c (.scalar name v) v.payload.length := .scalar hstored
      rwa [ScalarValue.length_payload] at hspans

theorem sizesExact_start (c : Context) : SizesExact c (.start c) where
  annotated := fun _ => .nil
  bare := fun _ => rfl

theorem SizesExact.push (ha : SizesExact c a) {x : Argument} (hx : Spans c x.target x.size) :
    SizesExact c (a.push x) where
  annotated := by
    intro h
    rw [ArgumentArray.convention_push] at h
    rw [ArgumentArray.targets_push, ArgumentArray.sizes_push_of_sizeAnnotated h]
    exact List.rel_append (ha.annotated h) (.cons hx .nil)
  bare := by
    intro h
    rw [ArgumentArray.convention_push] at h
    rw [ArgumentArray.sizes_push_of_nullTerminated h, ha.bare h]

/-- A push keeps the sizes exact, also one that fails. -/
theorem SizesExact.step (ha : SizesExact c a) (q : Push) : SizesExact c (a.step c q).2 := by
  cases hq : locate c q.parameter with
  | ok x =>
      rw [ArgumentArray.step_of_locate_ok hq]
      exact ha.push (spans_of_locate hq)
  | error e =>
      rw [ArgumentArray.step_of_locate_error hq]
      exact ha

theorem SizesExact.run (ha : SizesExact c a) (qs : List Push) :
    SizesExact c (a.run c qs).2 := by
  induction qs generalizing a with
  | nil => exact ha
  | cons q qs ih => exact ih (ha.step q)

/-- Closing an array adds no entry that would need a size. -/
theorem SizesExact.finish (ha : SizesExact c a) : SizesExact c a.finish where
  annotated := by
    intro h
    rw [ArgumentArray.convention_finish] at h
    have hfinish : a.finish = a := by simp only [ArgumentArray.finish, h]
    rw [hfinish]
    exact ha.annotated h
  bare := by
    intro h
    rw [ArgumentArray.convention_finish] at h
    rw [ArgumentArray.sizes_finish, ha.bare h]

end Pushes

section Listing

variable {a : ArgumentArray}

theorem sizedArguments_eq_nil (h : a.sizes = []) : a.sizedArguments = [] := by
  simp [ArgumentArray.sizedArguments, h]

/-- With as many sizes as entries the indexed list has each argument once, as long as the
indices fit. -/
theorem listsOnce_of_length_eq
    (hlength : a.targets.length = a.sizes.length)
    (hcount : a.argumentCount = a.targets.length)
    (hfits : a.argumentCount ≤ UInt32.size) :
    ListsOnce a where
  indices := by
    have hindices : a.sizedArguments.map (fun x => x.1.toNat) =
        (a.sizes.zip a.targets).zipIdx.map Prod.snd := by
      rw [ArgumentArray.sizedArguments, List.map_map]
      apply List.map_congr_left
      intro x hx
      have hlt := List.snd_lt_of_mem_zipIdx hx
      rw [List.length_zip] at hlt
      exact UInt32.toNat_ofNat_of_lt' (by omega)
    rw [hindices, List.zipIdx_map_snd, List.length_zip, ← hlength, Nat.min_self, hcount,
      List.range_eq_range']
  sizes := by
    have hsizes : a.sizedArguments.map (fun x => x.2.1) =
        ((a.sizes.zip a.targets).zipIdx.map Prod.fst).map Prod.fst := by
      rw [ArgumentArray.sizedArguments, List.map_map, List.map_map]
      rfl
    rw [hsizes, List.zipIdx_map_fst, List.map_fst_zip (Nat.le_of_eq hlength.symm)]
  targets := by
    have htargets : a.sizedArguments.map (fun x => x.2.2) =
        ((a.sizes.zip a.targets).zipIdx.map Prod.fst).map Prod.snd := by
      rw [ArgumentArray.sizedArguments, List.map_map, List.map_map]
      rfl
    rw [htargets, List.zipIdx_map_fst, List.map_snd_zip (Nat.le_of_eq hlength)]

end Listing

section Runs

variable (c : Context) (qs : List Push)

theorem sizesExact_reached : SizesExact c (reached c qs) :=
  (sizesExact_start c).run qs

theorem sizesExact_finished : SizesExact c (finished c qs) :=
  (sizesExact_reached c qs).finish

theorem convention_finished : (finished c qs).convention = c.ecosystem.convention := by
  rw [finished_eq, ArgumentArray.convention_finish, ArgumentArray.convention_foldl_push]
  rfl

theorem convention_reached : (reached c qs).convention = c.ecosystem.convention := by
  rw [← convention_finished c qs]
  exact (ArgumentArray.convention_finish (reached c qs)).symm

theorem length_targets_reached :
    (reached c qs).targets.length = (outcomes c qs).countP Except.isOk := by
  rw [reached, ArgumentArray.run_eq, ArgumentArray.targets_foldl_push, countP_isOk_outcomes]
  simp [ArgumentArray.start]

/-- The sizes describe exactly what is addressed.  With sizes wanted, there is at every point
of every run one for each entry, of which there are as many as pushes have succeeded, and it
is the length of the object that the entry addresses;
the indexed list of the finished array has each argument once.  Otherwise there are no sizes
at any point and nothing is listed. -/
theorem measuresRun : MeasuresRun c qs where
  entries := length_targets_reached c qs
  arguments := (recordsRun c qs).count
  building := by
    intro h
    exact (sizesExact_reached c qs).annotated (by rw [convention_reached, h]; rfl)
  closed := by
    intro h
    exact (sizesExact_finished c qs).annotated (by rw [convention_finished, h]; rfl)
  listed := by
    intro h hfits
    have hconvention : (finished c qs).convention = .sizeAnnotated := by
      rw [convention_finished, h]
      rfl
    have hcount : (finished c qs).argumentCount = (finished c qs).targets.length := by
      rw [ArgumentArray.argumentCount, hconvention]
    have hspans := (sizesExact_finished c qs).annotated hconvention
    exact listsOnce_of_length_eq hspans.length_eq hcount hfits
  bare := by
    intro h
    have hreached : (reached c qs).sizes = [] :=
      (sizesExact_reached c qs).bare (by rw [convention_reached, h]; rfl)
    have hfinished : (finished c qs).sizes = [] :=
      (sizesExact_finished c qs).bare (by rw [convention_finished, h]; rfl)
    exact ⟨hreached, hfinished, sizedArguments_eq_nil hreached, sizedArguments_eq_nil hfinished⟩

/-- Pushes that fail leave no gap. -/
example :
    let c : Context := { ecosystem := .openCl, scalars := .single "n" (.ofU32 7) }
    (finished c [.scalar "n" .bool, .buffer "x" .input, .scalar "n" (.int .u32)]).sizedArguments =
      [(0, 4, .scalar "n" (.ofU32 7))] := by
  rfl

end Runs

end KernelLaunch
