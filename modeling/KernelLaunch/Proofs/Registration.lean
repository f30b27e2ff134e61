import KernelLaunch.Kernels.Builtin
import KernelLaunch.Text.ByteOrder
import Mathlib.Data.List.Dedup
import Mathlib.Data.List.TakeWhile

/-!
# Runs of registrations

A registry is filled step by step, and a step that is refused does not end the run.  What
a run asks for is written down here as a list of requests, apart from any registry: one
request for each single registration and, for the built-in adapters, one for each of them
up to the first whose key was asked for before.

    steps      register "saxpy" f, builtins, register "x" g
    requests   saxpy ↦ f, vector_add ↦ _, opencl_vector_add ↦ _, x ↦ g

The registry after a run answers by the first request for each key.

**Results.**
* `step_builtins_of_firstTaken`: registering the built-in adapters stops at the first whose
  key is taken, with those before it added.
* `reflects_step`, `reflects_run`: a step, and a run, keep a registry that answers by the
  first requests.
* `registrations_kept`: the registry after a run answers by the first request for each key,
  and what one more step does to a registry.
-/

namespace KernelLaunch
namespace Registry

/-- A key and the adapter that is to be registered under it. -/
abbrev Request := String × Adapter

section Definitions

/-- The requests for adapters under their own keys. -/
def ownRequests (as : List Adapter) : List Request := as.map fun a => (a.key, a)

/-- What a step asks for after the requests of the steps before it. -/
def Step.requests (log : List Request) : Step → List Request
  | .register key a _ => [(key, a)]
  | .registerOwn a _ => [(a.key, a)]
  | .builtins =>
      ownRequests (builtinAdapters.takeWhile fun a => !log.any fun q => q.1 == a.key)

/-- What a run asks for, from the first request to the last. -/
def requests (ss : List Step) : List Request :=
  ss.foldl (fun log s => log ++ s.requests log) []

/-- Whether a step registers adapters under their own keys only. -/
def Step.OwnKeys : Step → Prop
  | .register key a _ => a.key = key
  | .registerOwn _ _ => True
  | .builtins => True

/-- A registry that answers by the first request for each key. -/
structure KeepsFirst (log : List Request) (r : Registry) : Prop where
  produces : ∀ key a, r.produce key = .ok a ↔
    ∃ earlier later, log = earlier ++ (key, a) :: later ∧ ∀ q ∈ earlier, q.1 ≠ key
  unregistered : ∀ key e, r.produce key = .error e ↔
    e = .unregisteredKey key ∧ ∀ q ∈ log, q.1 ≠ key
  canProduce : ∀ key, r.canProduce key = true ↔ ∃ q ∈ log, q.1 = key
  keys : ∀ key, key ∈ r.keys ↔ ∃ q ∈ log, q.1 = key
  ordered : r.keys.Pairwise fun k l => Text.bytes k < Text.bytes l
  size : r.size = (log.map Prod.fst).dedup.length

/-- `b` is the first of the built-in adapters whose key is taken, and `before` are those
before it. -/
structure FirstTaken (r : Registry) (before : List Adapter) (b : Adapter) : Prop where
  split : ∃ after, builtinAdapters = before ++ b :: after
  new : ∀ a ∈ before, r.canProduce a.key = false
  taken : r.canProduce b.key = true

/-- What one more step does to a registry. -/
structure Settles (r : Registry) : Prop where
  refused : ∀ key a policy e, (r.step (.register key a policy)).1 = .error e ↔
    r.canProduce key = true ∧ policy = .reject ∧ e = .duplicateKey key
  /-- A registration that is refused or passed over changes nothing. -/
  unchanged : ∀ key a policy, r.canProduce key = true →
    (r.step (.register key a policy)).2 = r
  own : ∀ a policy, r.step (.registerOwn a policy) = r.step (.register a.key a policy)
  builtinsFail : (∃ e, (r.step .builtins).1 = .error e) ↔
    ∃ b ∈ builtinAdapters, r.canProduce b.key = true
  builtinsRefused : ∀ e, (r.step .builtins).1 = .error e ↔
    ∃ before b, r.FirstTaken before b ∧ e = .duplicateKey b.key
  /-- What was registered stays, and the built-in adapters before the one refused are added. -/
  builtinsAdded : ∀ before b, r.FirstTaken before b → ∀ key,
    (r.step .builtins).2.find? key = (r.find? key).or (findEntry key (ownRequests before))

/-- A registry in which the adapter found under a key is the first one that a list of
requests has for it. -/
def Reflects (log : List Request) (r : Registry) : Prop :=
  ∀ key, r.find? key = findEntry key log

end Definitions

section Single

variable {r : Registry} {key : String} {a : Adapter} {policy : DuplicatePolicy}

theorem canProduce_eq_true_iff : r.canProduce key = true ↔ ∃ b, r.find? key = some b :=
  NameMap.contains_eq_true_iff

theorem canProduce_eq_false_iff : r.canProduce key = false ↔ r.find? key = none := by
  simp [canProduce, find?, NameMap.contains]

theorem step_register_of_taken
    (h : r.canProduce key = true) :
    (r.step (.register key a policy)).2 = r := by
  simp only [step, register, h, if_true]
  cases policy <;> rfl

theorem find?_step_register
    (policy : DuplicatePolicy)
    (other : String) :
    (r.step (.register key a policy)).2.find? other =
      (r.find? other).or (findEntry other [(key, a)]) := by
  rw [step]
  cases h : r.register key a policy with
  | ok s => exact find?_register h other
  | error e =>
      -- The key is taken, so the request adds nothing to what is found under it.
      obtain ⟨b, hb⟩ := canProduce_eq_true_iff.1 (register_eq_error_iff.1 h).1
      by_cases hk : key = other
      · subst hk
        simp [settle, hb]
      · simp [settle, findEntry, hk]

end Single

section Builtins

variable {r : Registry}

theorem registerAll_cons_of_taken
    {b : Adapter}
    (h : r.canProduce b.key = true)
    (as : List Adapter) :
    r.registerAll (b :: as) = (.error (.duplicateKey b.key), r) := by
  simp [registerAll, registerOwn, register, h]

/-- Adapters with new keys are all added before the registration goes on. -/
theorem registerAll_append_of_new
    {as : List Adapter}
    (hnew : ∀ a ∈ as, r.canProduce a.key = false)
    (hkeys : (as.map Adapter.key).Nodup)
    (bs : List Adapter) :
    ∃ s : Registry, r.registerAll (as ++ bs) = s.registerAll bs ∧
      ∀ key, s.find? key = (r.find? key).or (findEntry key (ownRequests as)) := by
  induction as generalizing r with
  | nil => exact ⟨r, rfl, fun key => by simp [ownRequests, findEntry]⟩
  | cons a as ih =>
      obtain ⟨ha, has⟩ := List.nodup_cons.1 hkeys
      have hnewa : r.canProduce a.key = false := hnew a (by simp)
      obtain ⟨s, hs⟩ : ∃ s, r.register a.key a .reject = .ok s :=
        ⟨_, register_eq_ok_iff.2 (.inr ⟨hnewa, rfl⟩)⟩
      have hfind := find?_register hs
      -- The other keys are still new, since no two of the adapters share one.
      have hnew' : ∀ b ∈ as, s.canProduce b.key = false := by
        intro b hb
        have hne : a.key ≠ b.key := fun h => ha (h ▸ List.mem_map_of_mem hb)
        have hr : r.find? b.key = none := canProduce_eq_false_iff.1 (hnew b (by simp [hb]))
        rw [canProduce_eq_false_iff, hfind, hr]
        simp [hne]
      obtain ⟨t, ht, hfindt⟩ := ih hnew' has
      refine ⟨t, ?_, ?_⟩
      · rw [List.cons_append, registerAll, registerOwn, hs]
        exact ht
      · intro key
        rw [hfindt, hfind, Option.or_assoc]
        by_cases hk : a.key = key <;> simp [ownRequests, findEntry, hk]

theorem nodup_builtin_keys : (builtinAdapters.map Adapter.key).Nodup := by
  decide

/-- Registering the built-in adapters stops at the first whose key is taken. -/
theorem step_builtins_of_firstTaken
    {before : List Adapter} {b : Adapter}
    (h : r.FirstTaken before b) :
    (r.step .builtins).1 = .error (.duplicateKey b.key) ∧
      ∀ key, (r.step .builtins).2.find? key =
        (r.find? key).or (findEntry key (ownRequests before)) := by
  obtain ⟨⟨after, hsplit⟩, hnew, htaken⟩ := h
  have hkeys : (before.map Adapter.key).Nodup := by
    have hall := nodup_builtin_keys
    rw [hsplit, List.map_append] at hall
    exact hall.of_append_left
  obtain ⟨s, hs, hfind⟩ := registerAll_append_of_new hnew hkeys (b :: after)
  have htaken' : s.canProduce b.key = true := by
    obtain ⟨c, hc⟩ := canProduce_eq_true_iff.1 htaken
    exact canProduce_eq_true_iff.2 ⟨c, by rw [hfind, hc, Option.some_or]⟩
  have hstep : r.step .builtins = (.error (.duplicateKey b.key), s) := by
    rw [step, registerBuiltins, hsplit, hs, registerAll_cons_of_taken htaken']
  rw [hstep]
  exact ⟨rfl, hfind⟩

/-- Without a taken key all the built-in adapters are registered. -/
theorem step_builtins_of_new
    (hnew : ∀ a ∈ builtinAdapters, r.canProduce a.key = false) :
    (r.step .builtins).1 = .ok () ∧
      ∀ key, (r.step .builtins).2.find? key =
        (r.find? key).or (findEntry key (ownRequests builtinAdapters)) := by
  obtain ⟨s, hs, hfind⟩ := registerAll_append_of_new hnew nodup_builtin_keys []
  have hstep : r.step .builtins = (.ok (), s) := by
    rw [step, registerBuiltins, ← List.append_nil builtinAdapters, hs, registerAll]
  rw [hstep]
  exact ⟨rfl, hfind⟩

theorem firstTaken_or_new (r : Registry) :
    (∃ before b, r.FirstTaken before b) ∨
      ∀ a ∈ builtinAdapters, r.canProduce a.key = false := by
  cases h : builtinAdapters.find? fun a => r.canProduce a.key with
  | none => exact .inr (by simpa [List.find?_eq_none] using h)
  | some b =>
      obtain ⟨htaken, before, after, hsplit, hnew⟩ := List.find?_eq_some_iff_append.1 h
      exact .inl ⟨before, b, ⟨after, hsplit⟩, by simpa using hnew, htaken⟩

end Builtins

section Runs

variable {log : List Request} {r : Registry}

theorem Reflects.canProduce_eq
    (h : Reflects log r)
    (key : String) :
    r.canProduce key = log.any fun q => q.1 == key := by
  cases hk : r.canProduce key with
  | true =>
      obtain ⟨b, hb⟩ := canProduce_eq_true_iff.1 hk
      obtain ⟨earlier, later, rfl, _⟩ := findEntry_eq_some_iff_first.1 ((h key).symm.trans hb)
      simp
  | false =>
      have hnone := findEntry_eq_none_iff.1 ((h key).symm.trans (canProduce_eq_false_iff.1 hk))
      symm
      simpa using hnone

/-- A step adds its requests to those that the registry answers by. -/
theorem reflects_step
    (h : Reflects log r)
    (s : Step) :
    Reflects (log ++ s.requests log) (r.step s).2 := by
  intro other
  rw [findEntry_append, ← h other]
  cases s with
  | register key a policy => exact find?_step_register policy other
  | registerOwn a policy => exact find?_step_register policy other
  | builtins =>
      rw [Step.requests]
      simp only [← h.canProduce_eq]
      rcases firstTaken_or_new r with ⟨before, b, hfirst⟩ | hnew
      · obtain ⟨⟨after, hsplit⟩, hnew, htaken⟩ := hfirst
        rw [hsplit, List.takeWhile_append_of_pos (by simpa using hnew),
          List.takeWhile_cons_of_neg (by simp [htaken]), List.append_nil]
        exact (step_builtins_of_firstTaken ⟨⟨after, hsplit⟩, hnew, htaken⟩).2 other
      · rw [List.takeWhile_eq_self_iff.2 (by simpa using hnew)]
        exact (step_builtins_of_new hnew).2 other

/-- The registry after a run answers by the requests of the run. -/
theorem reflects_run (ss : List Step) : Reflects (requests ss) (empty.run ss) := by
  have hfrom : ∀ (log : List Request) (r : Registry), Reflects log r →
      Reflects (ss.foldl (fun log s => log ++ s.requests log) log) (r.run ss) := by
    induction ss with
    | nil => exact fun _ _ h => h
    | cons s ss ih => exact fun _ _ h => ih _ _ (reflects_step h s)
  exact hfrom [] empty fun _ => rfl

theorem Reflects.keepsFirst
    (h : Reflects log r) :
    KeepsFirst log r := by
  have hcan : ∀ key, r.canProduce key = true ↔ ∃ q ∈ log, q.1 = key := by
    intro key
    rw [h.canProduce_eq]
    simp
  have hkeys : ∀ key, key ∈ r.keys ↔ ∃ q ∈ log, q.1 = key := fun key =>
    NameMap.mem_names_iff.trans (hcan key)
  refine ⟨?_, ?_, hcan, hkeys, ?_, ?_⟩
  · intro key a
    rw [← findEntry_eq_some_iff_first, ← h key, produce]
    cases r.find? key <;> simp
  · intro key e
    rw [← findEntry_eq_none_iff, ← h key, produce]
    cases r.find? key <;> simp [eq_comm]
  · exact r.adapters.names_pairwise.imp Text.bytes_lt_iff.2
  -- Both lists have every requested key once.
  · have hnodup : r.keys.Nodup := r.adapters.nodup_names
    have hperm : r.keys.Perm (log.map Prod.fst).dedup := by
      rw [List.perm_ext_iff_of_nodup hnodup (List.nodup_dedup _)]
      intro key
      rw [hkeys, List.mem_dedup, List.mem_map]
    rw [← hperm.length_eq, keys, NameMap.names, List.length_map]
    rfl

theorem settles (r : Registry) : Settles r := by
  refine ⟨?_, ?_, ?_, ?_, ?_, ?_⟩
  · intro key a policy e
    rw [← register_eq_error_iff (a := a), step]
    cases r.register key a policy <;> simp [settle]
  · exact fun key a policy => step_register_of_taken
  · exact fun a policy => rfl
  · rcases firstTaken_or_new r with ⟨before, b, hfirst⟩ | hnew
    · obtain ⟨after, hsplit⟩ := hfirst.split
      exact ⟨fun _ => ⟨b, by simp [hsplit], hfirst.taken⟩,
        fun _ => ⟨_, (step_builtins_of_firstTaken hfirst).1⟩⟩
    · rw [(step_builtins_of_new hnew).1]
      simpa using hnew
  · intro e
    constructor
    · intro he
      rcases firstTaken_or_new r with ⟨before, b, hfirst⟩ | hnew
      · rw [(step_builtins_of_firstTaken hfirst).1, Except.error.injEq] at he
        exact ⟨before, b, hfirst, he.symm⟩
      · rw [(step_builtins_of_new hnew).1] at he
        cases he
    · rintro ⟨before, b, hfirst, rfl⟩
      exact (step_builtins_of_firstTaken hfirst).1
  · exact fun before b hfirst => (step_builtins_of_firstTaken hfirst).2

theorem key_of_mem_requests
    {s : Step}
    (hs : s.OwnKeys)
    {q : Request}
    (hq : q ∈ s.requests log) :
    q.2.key = q.1 := by
  cases s with
  | register key a policy =>
      obtain rfl : q = (key, a) := by simpa [Step.requests] using hq
      exact hs
  | registerOwn a policy =>
      obtain rfl : q = (a.key, a) := by simpa [Step.requests] using hq
      rfl
  | builtins =>
      obtain ⟨a, _, rfl⟩ := List.mem_map.1 hq
      rfl

theorem key_of_mem_run
    {ss : List Step}
    (hss : ∀ s ∈ ss, s.OwnKeys) :
    ∀ q ∈ requests ss, q.2.key = q.1 := by
  have hfrom : ∀ log : List Request, (∀ q ∈ log, q.2.key = q.1) →
      ∀ q ∈ ss.foldl (fun log s => log ++ s.requests log) log, q.2.key = q.1 := by
    induction ss with
    | nil => exact fun _ hlog => hlog
    | cons s ss ih =>
        intro log hlog
        refine ih (fun t ht => hss t (by simp [ht])) _ fun q hq => ?_
        rcases List.mem_append.1 hq with hq | hq
        · exact hlog q hq
        · exact key_of_mem_requests (hss s (by simp)) hq
  exact hfrom [] (by simp)

/-- First registrations are kept over any run: the registry answers by the first request for
each key, and by an adapter of that key if adapters are registered under their own keys. -/
theorem registrations_kept :
    builtinAdapters.map Adapter.key =
        ["vector_add", "opencl_vector_add", "saxpy", "histogram", "scale_in_place"] ∧
      (∀ r, Settles r) ∧
        ∀ ss, KeepsFirst (requests ss) (empty.run ss) ∧
          ((∀ s ∈ ss, s.OwnKeys) →
            ∀ key a, (empty.run ss).produce key = .ok a → a.key = key) := by
  refine ⟨rfl, settles, fun ss => ?_⟩
  have hkeeps : KeepsFirst (requests ss) (empty.run ss) := (reflects_run ss).keepsFirst
  refine ⟨hkeeps, fun hss key a ha => ?_⟩
  obtain ⟨earlier, later, hsplit, _⟩ := (hkeeps.produces key a).1 ha
  exact key_of_mem_run hss (key, a) (by simp [hsplit])

/-- Scaled vector addition, then the built-in adapters up to it, then it once more. -/
def saxpyFirst : List Step :=
  [.registerOwn Kernels.saxpy .reject, .builtins,
    .register "saxpy" { Kernels.saxpy with functionName := "other" } .keepFirst]

theorem registrations_kept_saxpyFirst :
    (∀ s ∈ saxpyFirst, s.OwnKeys) ∧
      KeepsFirst (requests saxpyFirst) (empty.run saxpyFirst) ∧
        (empty.run saxpyFirst).produce "saxpy" = .ok Kernels.saxpy ∧
          Kernels.saxpy.key = "saxpy" := by
  have hown : ∀ s ∈ saxpyFirst, s.OwnKeys := by
    simp [saxpyFirst, Step.OwnKeys, Kernels.saxpy]
  have hsaxpy : (empty.run saxpyFirst).produce "saxpy" = .ok Kernels.saxpy := rfl
  have hkept := registrations_kept.2.2 saxpyFirst
  exact ⟨hown, hkept.1, hsaxpy, hkept.2 hown "saxpy" Kernels.saxpy hsaxpy⟩

end Runs

end Registry
end KernelLaunch
