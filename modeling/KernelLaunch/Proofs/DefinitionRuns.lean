import KernelLaunch.Proofs.DefinitionTerms

/-!
# Runs of definitions

Definitions are built up step by step.  A step gives a flag or a value directly, or it gives
a term, which is a flag, a value or no definition at all.  What a step adds is said here by
the grammar of terms; a step that adds nothing leaves the definitions as they are.

    steps    define "A=1", flag "A", define "B C", value "A" "2"
    flags    A
    values   A ↦ 2

**Results.**
* `contains_flags_step`, `value?_step`: what one step makes of a flag and of a value.
* `records_step`, `records_run`: a step, and a run, keep definitions that hold what was added.
* `step_comm`: two steps commute unless both give a value to the same name.
* `holdsAdded_run`: after every run the definitions are what its steps have added, and what
  one more step does to any definitions.
-/

namespace KernelLaunch
namespace Definitions

section Specification

/-- The definition that a step adds: its own, or the one that its term stands for. -/
inductive Step.Adds : Step → Definition → Prop
  | define {t : String} {x : Definition} (term : Definition.IsTerm t.toList x) :
      Step.Adds (.define t) x
  | flag (n : String) : Step.Adds (.flag n) (.flag n)
  | value (n v : String) : Step.Adds (.value n v) (.valued n v)

/-- The last of the steps that give a value to a name gives it this one. -/
def LastValue (ss : List Step) (n v : String) : Prop :=
  ∃ before s after, ss = before ++ s :: after ∧ s.Adds (.valued n v) ∧
    ∀ t ∈ after, ∀ w, ¬t.Adds (.valued n w)

/-- Both steps give a value to one name. -/
def BothValue (s t : Step) : Prop :=
  ∃ n v w, s.Adds (.valued n v) ∧ t.Adds (.valued n w)

/-- Definitions whose flags and values are what steps have added. -/
structure Records (ss : List Step) (d : Definitions) : Prop where
  flags : ∀ n, d.flags.contains n = true ↔ ∃ s ∈ ss, s.Adds (.flag n)
  value : ∀ n v, d.value? n = some v ↔ LastValue ss n v

/-- What definitions answer after the steps that built them up. -/
structure HoldsAdded (ss : List Step) (d : Definitions) : Prop extends Records ss d where
  valueless : ∀ n, d.value? n = none ↔ ∀ s ∈ ss, ∀ v, ¬s.Adds (.valued n v)
  defined : ∀ n, d.isDefined n = true ↔ ∃ s ∈ ss, ∃ x, s.Adds x ∧ x.name = n
  isEmpty : d.isEmpty = true ↔ ∀ s ∈ ss, ∀ x, ¬s.Adds x

/-- What further steps do to definitions. -/
structure Develops (d : Definitions) : Prop where
  answered : ∀ t, (∃ x, Definition.IsTerm t.toList x) → d.define t = .ok (d.step (.define t))
  /-- A text that is no term changes nothing. -/
  refused : ∀ t, (∀ x, ¬Definition.IsTerm t.toList x) →
    d.define t = .error ⟨t⟩ ∧ d.step (.define t) = d
  flag : ∀ s n, s.Adds (.flag n) → (d.step s).valued = d.valued
  valued : ∀ s n v, s.Adds (.valued n v) → (d.step s).flags = d.flags
  kept : ∀ ss n, d.isDefined n = true → (d.run ss).isDefined n = true
  swapped : ∀ before s t after, ¬BothValue s t →
    d.run (before ++ s :: t :: after) = d.run (before ++ t :: s :: after)

end Specification

section Steps

variable {d : Definitions} {s t : Step} {x : Definition} {n v : String}

theorem adds_iff : s.Adds x ↔ s.definition = .ok x := by
  cases s with
  | define t =>
      rw [Step.definition, Definition.parse_eq_ok_iff]
      constructor
      · rintro ⟨hterm⟩
        exact hterm
      · exact .define
  | flag m =>
      rw [Step.definition, Except.ok.injEq]
      constructor
      · rintro ⟨⟩
        rfl
      · rintro rfl
        exact .flag m
  | value m v =>
      rw [Step.definition, Except.ok.injEq]
      constructor
      · rintro ⟨⟩
        rfl
      · rintro rfl
        exact .value m v

theorem step_of_adds (h : s.Adds x) (d : Definitions) : d.step s = d.add x := by
  rw [step, adds_iff.1 h]

theorem step_of_not_adds (h : ∀ x, ¬s.Adds x) (d : Definitions) : d.step s = d := by
  rw [step]
  cases hs : s.definition with
  | ok x => exact absurd (adds_iff.2 hs) (h x)
  | error e => rfl

/-- A step adds one definition or none. -/
theorem adds_cases (s : Step) :
    (∃ x, s.Adds x ∧ ∀ y, s.Adds y ↔ x = y) ∨ ∀ x, ¬s.Adds x := by
  simp only [adds_iff]
  cases s.definition with
  | ok x => exact .inl ⟨x, rfl, by simp⟩
  | error e => exact .inr (by simp)

theorem contains_flags_step :
    (d.step s).flags.contains n = true ↔ d.flags.contains n = true ∨ s.Adds (.flag n) := by
  rcases adds_cases s with ⟨x, hx, honly⟩ | hnone
  · have hadd : d.add x = d.addAll [x] := rfl
    rw [step_of_adds hx, hadd, contains_flags_addAll, List.mem_singleton, honly, @eq_comm _ x]
  · simp [step_of_not_adds hnone, hnone]

theorem value?_step :
    (d.step s).value? n = some v ↔
      s.Adds (.valued n v) ∨ d.value? n = some v ∧ ∀ w, ¬s.Adds (.valued n w) := by
  rcases adds_cases s with ⟨x, hx, honly⟩ | hnone
  · rw [step_of_adds hx, value?_add]
    simp only [honly]
    cases x with
    | flag m => simp
    | valued m u => by_cases hm : m = n <;> simp [hm]
  · simp [step_of_not_adds hnone, hnone]

theorem isDefined_step (h : d.isDefined n = true) : (d.step s).isDefined n = true := by
  rcases adds_cases s with ⟨x, hx, _⟩ | hnone
  · rw [step_of_adds hx, isDefined_add, h, Bool.or_true]
  · rwa [step_of_not_adds hnone]

/-- Two steps commute unless both give a value to the same name. -/
theorem step_comm (h : ¬BothValue s t) (d : Definitions) :
    (d.step s).step t = (d.step t).step s := by
  have hst : ∀ {n v w}, s.Adds (.valued n v) → ¬t.Adds (.valued n w) :=
    fun hs ht => h ⟨_, _, _, hs, ht⟩
  apply ext_value?
  · intro n
    simp only [contains_flags_step, or_right_comm]
  · intro n
    apply Option.ext
    intro v
    simp only [value?_step]
    constructor
    · rintro (ht | ⟨hs | ⟨hd, hs⟩, ht⟩)
      · exact .inr ⟨.inl ht, fun w hs => hst hs ht⟩
      · exact .inl hs
      · exact .inr ⟨.inr ⟨hd, ht⟩, hs⟩
    · rintro (hs | ⟨ht | ⟨hd, ht⟩, hs⟩)
      · exact .inr ⟨.inl hs, fun w ht => hst hs ht⟩
      · exact .inl ht
      · exact .inr ⟨.inr ⟨hd, hs⟩, ht⟩

end Steps

section Runs

variable {d : Definitions} {before ss : List Step} {n v : String}

theorem run_append (d : Definitions) (ss ts : List Step) :
    d.run (ss ++ ts) = (d.run ss).run ts :=
  List.foldl_append

/-- After one more step the last value is that of the step, or else the one before. -/
theorem lastValue_append_singleton {s : Step} :
    LastValue (ss ++ [s]) n v ↔
      s.Adds (.valued n v) ∨ LastValue ss n v ∧ ∀ w, ¬s.Adds (.valued n w) := by
  constructor
  · rintro ⟨before, t, after, heq, hadds, hlater⟩
    rcases List.eq_nil_or_concat after with rfl | ⟨after, u, rfl⟩
    · obtain ⟨rfl, hst⟩ := List.append_inj' heq rfl
      obtain rfl : s = t := by simpa using hst
      exact .inl hadds
    · have hsplit : ss ++ [s] = (before ++ t :: after) ++ [u] := by simpa using heq
      obtain ⟨rfl, hsu⟩ := List.append_inj' hsplit rfl
      obtain rfl : s = u := by simpa using hsu
      exact .inr ⟨⟨before, t, after, rfl, hadds, fun q hq => hlater q (by simp [hq])⟩,
        hlater s (by simp)⟩
  · rintro (hadds | ⟨⟨before, t, after, rfl, hadds, hlater⟩, hnone⟩)
    · exact ⟨ss, s, [], rfl, hadds, by simp⟩
    · refine ⟨before, t, after ++ [s], by simp, hadds, fun q hq => ?_⟩
      rcases List.mem_append.1 hq with hq | hq
      · exact hlater q hq
      · obtain rfl := List.mem_singleton.1 hq
        exact hnone

/-- A name has a last value exactly if some step gives it one. -/
theorem exists_lastValue_iff :
    (∃ v, LastValue ss n v) ↔ ∃ s ∈ ss, ∃ v, s.Adds (.valued n v) := by
  constructor
  · rintro ⟨v, before, s, after, rfl, hadds, _⟩
    exact ⟨s, by simp, v, hadds⟩
  · intro h
    induction ss with
    | nil => simp at h
    | cons s ss ih =>
        by_cases hlater : ∃ t ∈ ss, ∃ v, t.Adds (.valued n v)
        · obtain ⟨v, before, t, after, rfl, hlast⟩ := ih hlater
          exact ⟨v, s :: before, t, after, rfl, hlast⟩
        · obtain ⟨t, ht, v, hadds⟩ := h
          rcases List.mem_cons.1 ht with rfl | ht
          · exact ⟨v, [], t, ss, rfl, hadds, fun u hu w hw => hlater ⟨u, hu, w, hw⟩⟩
          · exact absurd ⟨t, ht, v, hadds⟩ hlater

theorem records_empty : Records [] empty where
  flags := by simp [empty, NameMap.contains]
  value := by simp [empty, value?, LastValue]

/-- A step keeps definitions that hold what was added. -/
theorem records_step (h : Records ss d) (s : Step) : Records (ss ++ [s]) (d.step s) where
  flags := by
    intro n
    rw [contains_flags_step, h.flags]
    simp [or_and_right, exists_or]
  value := by
    intro n v
    rw [value?_step, lastValue_append_singleton, h.value]

theorem records_run (h : Records before d) (ss : List Step) :
    Records (before ++ ss) (d.run ss) := by
  induction ss generalizing before d with
  | nil => simpa [run] using h
  | cons s ss ih =>
      have hrest := ih (records_step h s)
      rwa [List.append_assoc] at hrest

theorem Records.exists_value_iff (h : Records ss d) :
    (∃ v, d.value? n = some v) ↔ ∃ s ∈ ss, ∃ v, s.Adds (.valued n v) := by
  simp only [h.value, exists_lastValue_iff]

theorem Records.isDefined_iff (h : Records ss d) :
    d.isDefined n = true ↔ ∃ s ∈ ss, ∃ x, s.Adds x ∧ x.name = n := by
  rw [isDefined_eq_true_iff, h.flags, h.exists_value_iff]
  constructor
  · rintro (⟨s, hs, hadds⟩ | ⟨s, hs, v, hadds⟩)
    · exact ⟨s, hs, .flag n, hadds, rfl⟩
    · exact ⟨s, hs, .valued n v, hadds, rfl⟩
  · rintro ⟨s, hs, x, hadds, rfl⟩
    cases x with
    | flag n => exact .inl ⟨s, hs, hadds⟩
    | valued n v => exact .inr ⟨s, hs, v, hadds⟩

theorem Records.holdsAdded (h : Records ss d) : HoldsAdded ss d where
  toRecords := h
  valueless := by
    intro n
    have hvalue := not_congr (h.exists_value_iff (n := n))
    rw [Option.eq_none_iff_forall_ne_some]
    simpa using hvalue
  defined := fun _ => h.isDefined_iff
  isEmpty := by
    simp only [isEmpty_eq_true_iff, ← Bool.not_eq_true, h.isDefined_iff]
    constructor
    · exact fun hnone s hs x hx => hnone x.name ⟨s, hs, x, hx, rfl⟩
    · rintro hnone n ⟨s, hs, x, hx, _⟩
      exact hnone s hs x hx

theorem develops (d : Definitions) : Develops d where
  answered := by
    rintro t ⟨x, hx⟩
    rw [define, Definition.parse_eq_ok_iff.2 hx, step_of_adds (.define hx)]
    rfl
  refused := by
    intro t hnone
    refine ⟨?_, step_of_not_adds (fun x => ?_) d⟩
    · rw [define, Definition.parse_eq_error_iff.2 ⟨rfl, hnone⟩]
      rfl
    · rintro ⟨hx⟩
      exact hnone x hx
  flag := by
    intro s n hs
    rw [step_of_adds hs]
    rfl
  valued := by
    intro s n v hs
    rw [step_of_adds hs]
    rfl
  kept := by
    intro ss n h
    induction ss generalizing d with
    | nil => exact h
    | cons s ss ih => exact ih _ (isDefined_step h)
  swapped := by
    intro before s t after h
    rw [run_append, run_append]
    exact congrArg (fun e => run e after) (step_comm h _)

/-- Building up definitions is exact over whole runs.  After any steps, and so at any point of
a run, the definitions are what the steps up to it have added: all flags, and of several
values for a name the last.  From any definitions on, a text that is no term changes nothing,
flags and values do not touch each other, a name that is defined stays so, and neighbouring
steps can change places unless both give a value to one name. -/
theorem holdsAdded_run :
    (∀ ss : List Step, HoldsAdded ss (empty.run ss)) ∧ ∀ d : Definitions, Develops d :=
  ⟨fun ss => (records_run records_empty ss).holdsAdded, develops⟩

/-- A flag and a value of one name stand side by side, and of two values the later counts. -/
example :
    let d := empty.run [.define "A=1", .flag "A", .define "B C", .value "A" "2"]
    d.flags.names = ["A"] ∧ d.value? "A" = some "2" ∧ d.isDefined "B" = false := by
  exact ⟨by rfl, by rfl, by rfl⟩

end Runs

end Definitions
end KernelLaunch
