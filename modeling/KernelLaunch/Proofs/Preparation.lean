import KernelLaunch.Adapter.Validation
import KernelLaunch.Kernels.Builtin

/-!
# The effect of preparing a run

Preparing merges the generated scalars into the context before it validates it, so a
context that fails its validation is left with them.  What is added is at most the length,
and a context that has a length gets nothing more: preparing once is preparing often.

Nothing that preparing looks at, the ecosystem, the device buffers and the forced parts of
the launch apart, may differ between two contexts if it is to do the same with both.

**Results.**
* `forall_builtin`: what holds of each kernel's adapter holds of every built-in one.
* `atMostLength_builtin`: the built-in adapters generate at most the length.
* `prepare_prepare`: preparing again changes nothing and answers the same.
* `boundedEffect_prepare`: what preparing leaves as it is, on every outcome.
-/

namespace KernelLaunch

/-- Contexts with the same host sizes, scalars and definitions.  Their ecosystems, device
buffers and forced parts of the launch may differ. -/
structure Context.Alike (c d : Context) : Prop where
  hostSizes : c.hostSizes = d.hostSizes
  scalars : c.scalars = d.scalars
  definitions : c.definitions = d.definitions

theorem Context.Alike.mergeScalars
    {c d : Context}
    (h : c.Alike d)
    (g : ScalarArguments) :
    (c.mergeScalars g).Alike (d.mergeScalars g) where
  hostSizes := h.hostSizes
  scalars := congrArg (NameMap.mergeNew · g) h.scalars
  definitions := h.definitions

namespace Adapter

section Answers

variable {a : Adapter} {c d : Context}

/-- What preparing answers once the generated scalars are merged. -/
def answer (a : Adapter) (c : Context) : Except AdapterError (NameMap Nat) :=
  match a.validate c with
  | .error e => .error e
  | .ok () => a.outputSizes c.hostSizes c.scalars c.definitions

theorem prepare_of_generate_error
    {e : AdapterError}
    (h : a.generateScalars c = .error e) :
    a.prepare c = (.error e, c) := by
  rw [prepare, h]

theorem prepare_of_generate_ok
    {g : ScalarArguments}
    (h : a.generateScalars c = .ok g) :
    a.prepare c = (a.answer (c.mergeScalars g), c.mergeScalars g) := by
  simp only [prepare, h, answer]
  cases a.validate (c.mergeScalars g) <;> rfl

theorem answer_eq_ok_iff {sizes : NameMap Nat} :
    a.answer c = .ok sizes ↔
      a.validate c = .ok () ∧ a.outputSizes c.hostSizes c.scalars c.definitions = .ok sizes := by
  unfold answer
  cases a.validate c <;> simp

theorem answer_congr
    (hvalid : a.validate c = a.validate d)
    (hsizes : a.outputSizes c.hostSizes c.scalars c.definitions =
      a.outputSizes d.hostSizes d.scalars d.definitions) :
    a.answer c = a.answer d := by
  rw [answer, answer, hvalid, hsizes]

/-- Validation looks at the two checks of the adapter and at the host sizes, the scalars and
the definitions alone. -/
theorem validate_alike
    (h : c.Alike d)
    (hextra : a.extraChecks c = a.extraChecks d)
    (hsizes : a.inputSizesValid c = a.inputSizesValid d) :
    a.validate c = a.validate d := by
  refine validate_congr ?_ h.scalars h.hostSizes hextra hsizes
  rw [missingDefinition?, missingDefinition?, h.definitions]

end Answers

end Adapter

namespace Kernels

section Builtins

/-- What holds of each kernel's adapter holds of every built-in one. -/
theorem forall_builtin
    {P : Adapter → Prop}
    (addition : ∀ key, P (VectorAdd.adapter key))
    (sum : P saxpy)
    (counts : P histogram)
    (scaling : P scaleInPlace) :
    ∀ a ∈ builtinAdapters, P a := by
  intro a ha
  simp only [builtinAdapters, List.mem_cons, List.not_mem_nil, or_false] at ha
  rcases ha with rfl | rfl | rfl | rfl | rfl
  · exact addition _
  · exact addition _
  · exact sum
  · exact counts
  · exact scaling

/-- An adapter that generates at most the length, and whose generation and checks look at the
host sizes, the scalars and the definitions alone. -/
structure AtMostLength (a : Adapter) : Prop where
  generated : ∀ c g, a.generateScalars c = .ok g →
    g = .empty ∨ c.scalars.get? lengthName = none ∧ ∃ n, g = .single lengthName (.ofU32 n)
  /-- Once the generated scalars are merged there is nothing more to generate. -/
  settled : ∀ c g, a.generateScalars c = .ok g →
    a.generateScalars (c.mergeScalars g) = .ok .empty
  generate_alike : ∀ c d : Context, c.Alike d → a.generateScalars c = a.generateScalars d
  extra_alike : ∀ c d : Context, c.Alike d → a.extraChecks c = a.extraChecks d
  sizes_alike : ∀ c d : Context, c.Alike d → a.inputSizesValid c = a.inputSizesValid d

theorem contains_eq_false_iff {c : Context} {name : String} :
    c.scalars.contains name = false ↔ c.scalars.get? name = none := by
  simp [NameMap.contains]

theorem generateLength_generated
    {c : Context} {buffer : String} {elementSize : Nat} {g : ScalarArguments}
    (h : generateLength c buffer elementSize = .ok g) :
    g = .empty ∨ c.scalars.get? lengthName = none ∧ ∃ n, g = .single lengthName (.ofU32 n) := by
  rcases generateLength_eq_ok_iff.1 h with ⟨_, rfl⟩ | ⟨hl, n, _, rfl⟩
  · exact .inl rfl
  · exact .inr ⟨contains_eq_false_iff.1 hl, n, rfl⟩

theorem generateLength_settled
    {c : Context} {buffer : String} {elementSize : Nat} {g : ScalarArguments}
    (h : generateLength c buffer elementSize = .ok g) :
    generateLength (c.mergeScalars g) buffer elementSize = .ok .empty := by
  have hlength := NameMap.contains_eq_true_iff.2 (exists_length_of_generateLength h)
  exact generateLength_eq_ok_iff.2 (.inl ⟨hlength, rfl⟩)

theorem generateLength_alike
    {c d : Context}
    (h : c.Alike d)
    (buffer : String) (elementSize : Nat) :
    generateLength c buffer elementSize = generateLength d buffer elementSize := by
  rw [generateLength, generateLength, h.scalars, h.hostSizes]

theorem atMostLength_of_generateLength
    {a : Adapter} {buffer : String} {elementSize : Nat}
    (hgenerate : a.generateScalars = fun c => generateLength c buffer elementSize)
    (hextra : ∀ c d : Context, c.Alike d → a.extraChecks c = a.extraChecks d)
    (hsizes : ∀ c d : Context, c.Alike d → a.inputSizesValid c = a.inputSizesValid d) :
    AtMostLength a where
  generated := by
    rw [hgenerate]
    exact fun _ _ => generateLength_generated
  settled := by
    rw [hgenerate]
    exact fun _ _ => generateLength_settled
  generate_alike := by
    rw [hgenerate]
    exact fun _ _ h => generateLength_alike h _ _
  extra_alike := hextra
  sizes_alike := hsizes

/-- The built-in adapters generate at most the length. -/
theorem atMostLength_builtin : ∀ a ∈ builtinAdapters, AtMostLength a := by
  refine forall_builtin ?_ ?_ ?_ ?_
  · intro key
    refine atMostLength_of_generateLength rfl (fun _ _ _ => rfl) fun c d h => ?_
    show VectorAdd.addendSizesMatch c = VectorAdd.addendSizesMatch d
    rw [VectorAdd.addendSizesMatch, VectorAdd.addendSizesMatch, h.hostSizes, h.scalars]
  · refine atMostLength_of_generateLength rfl (fun _ _ _ => rfl) fun c d h => ?_
    show Saxpy.inputSizesValid c = Saxpy.inputSizesValid d
    rw [Saxpy.inputSizesValid, Saxpy.inputSizesValid, h.hostSizes]
  · refine atMostLength_of_generateLength rfl (fun c d h => ?_) fun c d h => ?_
    · show Histogram.extraChecks c = Histogram.extraChecks d
      rw [Histogram.extraChecks, Histogram.extraChecks, h.definitions]
    · show Histogram.inputSizesValid c = Histogram.inputSizesValid d
      rw [Histogram.inputSizesValid, Histogram.inputSizesValid, h.hostSizes]
  -- Scaling generates nothing at all.
  · refine ⟨?_, fun _ _ _ => rfl, fun _ _ _ => rfl, fun _ _ _ => rfl, fun c d h => ?_⟩
    · rintro c g ⟨⟩
      exact .inl rfl
    · show Scale.inputSizesValid c = Scale.inputSizesValid d
      rw [Scale.inputSizesValid, Scale.inputSizesValid, h.hostSizes]

end Builtins

section Effect

variable {a : Adapter}

/-- What preparing leaves of a context as it is, and what it does again. -/
structure BoundedEffect (a : Adapter) (c : Context) : Prop where
  kept : ∀ name v, c.scalars.get? name = some v → (a.prepare c).2.scalars.get? name = some v
  added : ∀ name v, c.scalars.get? name = none →
    (a.prepare c).2.scalars.get? name = some v → name = lengthName ∧ v.kind = .int .u32
  /-- All but the scalars is as it was, which for the host buffers says their names and sizes. -/
  frame : (a.prepare c).2 = { c with scalars := (a.prepare c).2.scalars }
  ungenerated : ∀ e, a.generateScalars c = .error e → (a.prepare c).2 = c
  again : a.prepare (a.prepare c).2 = a.prepare c
  alike : ∀ d, c.Alike d → (a.prepare d).1 = (a.prepare c).1 ∧
    (a.prepare d).2.scalars = (a.prepare c).2.scalars

theorem exists_merged (a : Adapter) (c : Context) :
    (∃ e, a.generateScalars c = .error e ∧ (a.prepare c).2 = c) ∨
      ∃ g, a.generateScalars c = .ok g ∧ (a.prepare c).2 = c.mergeScalars g := by
  cases h : a.generateScalars c with
  | error e => exact .inl ⟨e, rfl, by rw [Adapter.prepare_of_generate_error h]⟩
  | ok g => exact .inr ⟨g, rfl, by rw [Adapter.prepare_of_generate_ok h]⟩

/-- Preparing again changes nothing and answers the same. -/
theorem AtMostLength.prepare_prepare
    (ha : AtMostLength a)
    (c : Context) :
    a.prepare (a.prepare c).2 = a.prepare c := by
  cases h : a.generateScalars c with
  | error e => rw [Adapter.prepare_of_generate_error h, Adapter.prepare_of_generate_error h]
  | ok g =>
      rw [Adapter.prepare_of_generate_ok h, Adapter.prepare_of_generate_ok (ha.settled c g h),
        Context.mergeScalars_empty]

/-- Preparing does the same with contexts that are alike. -/
theorem AtMostLength.prepare_alike
    (ha : AtMostLength a)
    {c d : Context}
    (h : c.Alike d) :
    (a.prepare d).1 = (a.prepare c).1 ∧
      (a.prepare d).2.scalars = (a.prepare c).2.scalars := by
  have hgenerate := ha.generate_alike c d h
  cases hc : a.generateScalars c with
  | error e =>
      rw [Adapter.prepare_of_generate_error hc,
        Adapter.prepare_of_generate_error (hgenerate.symm.trans hc)]
      exact ⟨rfl, h.scalars.symm⟩
  | ok g =>
      have hmerged := h.mergeScalars g
      have hvalid := Adapter.validate_alike hmerged (ha.extra_alike _ _ hmerged)
        (ha.sizes_alike _ _ hmerged)
      have hanswer : a.answer (c.mergeScalars g) = a.answer (d.mergeScalars g) := by
        refine Adapter.answer_congr hvalid ?_
        rw [hmerged.hostSizes, hmerged.scalars, hmerged.definitions]
      rw [Adapter.prepare_of_generate_ok hc,
        Adapter.prepare_of_generate_ok (hgenerate.symm.trans hc), hanswer, hmerged.scalars]
      exact ⟨rfl, rfl⟩

theorem AtMostLength.boundedEffect
    (ha : AtMostLength a)
    (c : Context) :
    BoundedEffect a c := by
  refine ⟨?_, ?_, ?_, ?_, ha.prepare_prepare c, fun d => ha.prepare_alike⟩
  · intro name v hv
    rcases exists_merged a c with ⟨_, _, hd⟩ | ⟨g, _, hd⟩
    · rw [hd, hv]
    · rw [hd, Context.get?_mergeScalars, hv, Option.some_or]
  · intro name v hnone hv
    rcases exists_merged a c with ⟨_, _, hd⟩ | ⟨g, hg, hd⟩
    · rw [hd, hnone] at hv
      cases hv
    · rw [hd, Context.get?_mergeScalars, hnone, Option.none_or] at hv
      rcases ha.generated c g hg with rfl | ⟨_, n, rfl⟩
      · cases hv
      · rw [NameMap.get?_single] at hv
        split at hv
        · rename_i hname
          cases hv
          exact ⟨hname.symm, rfl⟩
        · cases hv
  · rcases exists_merged a c with ⟨_, _, hd⟩ | ⟨g, _, hd⟩
    · rw [hd]
    · rw [hd, Context.mergeScalars]
  · intro e he
    rw [Adapter.prepare_of_generate_error he]

/-- Preparing a built-in kernel adds at most the length, leaves all else as it is and does
nothing the second time, whether it succeeds or fails; and it looks at the host sizes, the
scalars and the definitions alone. -/
theorem boundedEffect_prepare
    (ha : a ∈ builtinAdapters)
    (c : Context) :
    BoundedEffect a c :=
  (atMostLength_builtin a ha).boundedEffect c

/-- Vectors of four and of five elements. -/
def unequalVectors : Context :=
  { hostSizes := .ofList [("x", 16), ("y", 20)]
    scalars := .single "a" (.float .single 0x40000000#32) }

/-- The vectors do not fit together, and the generated length is left behind. -/
theorem boundedEffect_unequalVectors :
    saxpy ∈ builtinAdapters ∧
      (saxpy.prepare unequalVectors).1 = .error (.validationFailed "saxpy" .inputSizes) ∧
        (saxpy.prepare unequalVectors).2.scalars.get? lengthName = some (.ofU32 4) ∧
          BoundedEffect saxpy unequalVectors := by
  have hsaxpy : saxpy ∈ builtinAdapters := by simp [builtinAdapters]
  exact ⟨hsaxpy, rfl, rfl, boundedEffect_prepare hsaxpy unequalVectors⟩

end Effect

end Kernels
end KernelLaunch
