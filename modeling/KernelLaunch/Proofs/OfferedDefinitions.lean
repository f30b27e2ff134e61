import KernelLaunch.Adapter.Arguments
import KernelLaunch.Adapter.CommandLine
import KernelLaunch.Proofs.DeducedLaunch
import KernelLaunch.Proofs.ForcedLaunch
import Mathlib.Data.List.Find

/-!
# Definitions that are not offered

An adapter offers the definitions of its table as options.  A definition that it does not
offer should not matter to it: two contexts that differ in such definitions alone should be
prepared, checked, launched and marshalled alike.

All of this holds but for the launch of the histogram.  A row of threads has blocks of up to
`BLOCK_SIZE` threads, and the histogram is launched as such a row without offering
`BLOCK_SIZE`.

**Results.**
* `readsOffered_builtin`: where the functions of the built-in adapters look at definitions.
* `deduceLaunch_withDefinitions`: what the built-in adapters deduce from other definitions.
* `reactsToOffered_builtin`: the answers that definitions which are not offered leave as they
  are, and when the launch is among them.
* `not_sameLaunch_eightBins`: the histogram is launched in blocks of a size that it does not
  offer.
-/

namespace KernelLaunch

section Agreement

/-- The same flag and the same value for a name. -/
structure Definitions.AgreeOn (d e : Definitions) (name : String) : Prop where
  flag : d.flags.contains name = e.flags.contains name
  value : d.value? name = e.value? name

/-- Definitions that agree on each one which the adapter offers as an option. -/
def Adapter.AgreeOffered (a : Adapter) (d e : Definitions) : Prop :=
  ∀ o ∈ a.options, o.group = .definition → d.AgreeOn e o.name

/-- The context with other definitions. -/
def Context.withDefinitions (c : Context) (e : Definitions) : Context :=
  { c with definitions := e }

variable {a : Adapter} {d e : Definitions} {name : String}

theorem Definitions.AgreeOn.isDefined (h : d.AgreeOn e name) :
    d.isDefined name = e.isDefined name := by
  have hvalue : d.valued.get? name = e.valued.get? name := h.value
  rw [Definitions.isDefined, Definitions.isDefined, NameMap.contains, NameMap.contains, hvalue,
    ← NameMap.contains, ← NameMap.contains, h.flag]

namespace Adapter

theorem AgreeOffered.of_mem
    (h : a.AgreeOffered d e)
    {x : DefinitionDescriptor}
    (hx : x ∈ a.definitions) :
    d.AgreeOn e x.name := by
  refine h ⟨x.name, x.description, none, .definition⟩ ?_ rfl
  exact List.mem_append_right _ (List.mem_map.2 ⟨x, hx, rfl⟩)

/-- A value for a name that is not offered does not count. -/
theorem agreeOffered_withValue
    (hname : ∀ x ∈ a.definitions, x.name ≠ name)
    (d : Definitions)
    (value : String) :
    a.AgreeOffered d (d.withValue name value) := by
  intro o ho hgroup
  have hne : name ≠ o.name := by
    simp only [options, List.mem_append, List.mem_map] at ho
    rcases ho with (⟨_, _, rfl⟩ | ⟨_, _, rfl⟩) | ⟨x, hx, rfl⟩
    · cases hgroup
    · cases hgroup
    · exact (hname x hx).symm
  refine ⟨rfl, ?_⟩
  rw [Definitions.value?_withValue, if_neg hne]

end Adapter

end Agreement

namespace Kernels

section Reading

variable {a : Adapter} {c : Context} {e : Definitions}

/-- Of the definitions the adapter's functions, that of the launch apart, look only at those
it offers. -/
structure ReadsOffered (a : Adapter) : Prop where
  required : a.requiredDefinitions = requiredNames a.definitions
  generate : ∀ c e, a.generateScalars (c.withDefinitions e) = a.generateScalars c
  sizes : ∀ hostSizes args d e, a.AgreeOffered d e →
    a.outputSizes hostSizes args e = a.outputSizes hostSizes args d
  extra : ∀ c e, a.AgreeOffered c.definitions e →
    a.extraChecks (c.withDefinitions e) = a.extraChecks c
  inputs : ∀ c e, a.inputSizesValid (c.withDefinitions e) = a.inputSizesValid c
  parameters : ∀ c e, a.parameters (c.withDefinitions e) = a.parameters c

theorem agree_numBins
    {d : Definitions}
    (h : histogram.AgreeOffered d e) :
    e.value? Histogram.numBinsName = d.value? Histogram.numBinsName :=
  (h.of_mem (List.mem_cons_self ..)).value.symm

theorem readsOffered_histogram : ReadsOffered histogram where
  required := rfl
  generate := fun _ _ => rfl
  sizes := by
    intro _ _ d e h
    show Histogram.outputSizes e = Histogram.outputSizes d
    rw [Histogram.outputSizes, Histogram.outputSizes,
      requiredPositiveDefinition_congr (agree_numBins h)]
  extra := by
    intro c e h
    have hbins : (c.withDefinitions e).definitions.value? Histogram.numBinsName =
        c.definitions.value? Histogram.numBinsName := agree_numBins h
    show Histogram.extraChecks (c.withDefinitions e) = Histogram.extraChecks c
    rw [Histogram.extraChecks, Histogram.extraChecks, positiveDefinition_congr hbins]
  inputs := fun _ _ => rfl
  parameters := fun _ _ => rfl

/-- Only the histogram looks at definitions at all, for the number of its bins. -/
theorem readsOffered_builtin : ∀ a ∈ builtinAdapters, ReadsOffered a := by
  refine forall_builtin (fun _ => ?_) ?_ readsOffered_histogram ?_
  -- With the definitions replaced, the other adapters compute the same by definition.
  all_goals
    exact ⟨rfl, fun _ _ => rfl, fun _ _ _ _ _ => rfl, fun _ _ _ => rfl, fun _ _ => rfl,
      fun _ _ => rfl⟩

namespace ReadsOffered

variable (ha : ReadsOffered a) (h : a.AgreeOffered c.definitions e)

include ha h

/-- A definition that is required is offered. -/
theorem missingDefinition?_withDefinitions :
    a.missingDefinition? (c.withDefinitions e) = a.missingDefinition? c := by
  rw [Adapter.missingDefinition?, Adapter.missingDefinition?]
  refine List.find?_congr fun name hname => ?_
  rw [ha.required, NameMap.mem_names_iff, requiredNames, NameSet.contains_ofNames,
    List.mem_map] at hname
  obtain ⟨x, hx, rfl⟩ := hname
  exact congrArg not (h.of_mem (List.mem_filter.1 hx).1).isDefined.symm

theorem validate_withDefinitions : a.validate (c.withDefinitions e) = a.validate c :=
  Adapter.validate_congr (ha.missingDefinition?_withDefinitions h) rfl rfl (ha.extra c e h)
    (ha.inputs c e)

/-- Preparing answers the same, and keeps the definitions as they are. -/
theorem prepare_withDefinitions :
    a.prepare (c.withDefinitions e) = ((a.prepare c).1, (a.prepare c).2.withDefinitions e) := by
  have hgenerate := ha.generate c e
  cases hc : a.generateScalars c with
  | error f =>
      rw [Adapter.prepare_of_generate_error hc,
        Adapter.prepare_of_generate_error (hgenerate.trans hc)]
  | ok g =>
      have hmerged : (c.withDefinitions e).mergeScalars g =
          (c.mergeScalars g).withDefinitions e := rfl
      have hanswer : a.answer ((c.mergeScalars g).withDefinitions e) =
          a.answer (c.mergeScalars g) :=
        Adapter.answer_congr (ha.validate_withDefinitions (c := c.mergeScalars g) h)
          (ha.sizes _ _ _ _ h)
      rw [Adapter.prepare_of_generate_ok hc,
        Adapter.prepare_of_generate_ok (hgenerate.trans hc), hmerged, hanswer]

omit h in
theorem marshalArguments_withDefinitions :
    a.marshalArguments (c.withDefinitions e) = a.marshalArguments c := by
  have hlocate : ∀ p, locate (c.withDefinitions e) p = locate c p := by
    intro p
    cases p <;> rfl
  rw [Adapter.marshalArguments, Adapter.marshalArguments, ha.parameters]
  exact marshal_congr (c := c.withDefinitions e) (d := c) rfl hlocate _

end ReadsOffered

end Reading

section Launching

variable {a : Adapter} {c : Context} {e : Definitions}

/-- All but the row of threads of the histogram is deduced from definitions that are
offered. -/
theorem deduceLaunch_withDefinitions :
    ∀ a ∈ builtinAdapters, ∀ (c : Context) (e : Definitions), a.AgreeOffered c.definitions e →
      (a = histogram →
        linearLaunch "histogram" (c.withDefinitions e) "data" Histogram.sampleSize =
          linearLaunch "histogram" c "data" Histogram.sampleSize) →
      a.deduceLaunch (c.withDefinitions e) = a.deduceLaunch c := by
  refine forall_builtin ?_ ?_ ?_ ?_
  · intro key c e h _
    exact linearLaunch_congr rfl rfl (h.of_mem (List.mem_cons_self ..)).value.symm
  · intro c e h _
    exact linearLaunch_congr rfl rfl (h.of_mem (List.mem_cons_self ..)).value.symm
  · intro c e h hlinear
    have hshared := h.of_mem (List.mem_cons_of_mem _ (List.mem_cons_self ..))
    exact Histogram.deduceLaunch_congr (hlinear rfl) hshared.isDefined.symm (agree_numBins h)
  · exact fun _ _ _ _ => rfl

theorem sameLaunch_of_deduceLaunch
    (h : a.deduceLaunch (c.withDefinitions e) = a.deduceLaunch c) :
    SameLaunch a (c.withDefinitions e) a c := by
  apply Adapter.sameLaunch_of_resolve
  rw [Adapter.resolve, Adapter.resolve, h]
  rfl

theorem blockSize_not_offered : ∀ x ∈ histogram.definitions, x.name ≠ blockSizeName := by decide

/-- Without elements no definition is looked at. -/
theorem linearLaunch_of_no_elements
    {key lead : String}
    (h : ∀ n, HasCount c lead n → n = 0)
    (e : Definitions) :
    linearLaunch key (c.withDefinitions e) lead 4 = linearLaunch key c lead 4 := by
  have hkept : elementCount (c.withDefinitions e).scalars (c.withDefinitions e).hostSizes lead 4 =
      elementCount c.scalars c.hostSizes lead 4 := rfl
  rw [linearLaunch, linearLaunch, hkept]
  cases hcount : elementCount c.scalars c.hostSizes lead 4 with
  | error f => rfl
  | ok n =>
      obtain rfl := h n (hasCount_iff.2 hcount)
      rfl

/-- With elements the histogram refuses a limit of zero, and shows how the zero is written. -/
theorem deduceLaunch_of_zero_limit
    {n : UInt32} {value : String}
    (hcount : HasCount c "data" n)
    (hn : n ≠ 0)
    (hzero : Text.readU32 (Text.trim value.toList) = .ok 0) :
    histogram.deduceLaunch (c.withDefinitions (c.definitions.withValue blockSizeName value)) =
      .error (.badCount blockSizeName value .notPositive) := by
  have hvalue : (c.definitions.withValue blockSizeName value).valued.get? blockSizeName =
      some value := by
    rw [← Definitions.value?, Definitions.value?_withValue, if_pos rfl]
  have hlimit : positiveDefinition (c.definitions.withValue blockSizeName value).valued
      blockSizeName = .error (.badCount blockSizeName value .notPositive) := by
    rw [positiveDefinition, hvalue]
    simp only [hzero, if_true]
  show Histogram.deduceLaunch "histogram" _ = _
  rw [Histogram.deduceLaunch, linearLaunch]
  simp only [Context.withDefinitions, Histogram.sampleSize, hasCount_iff.1 hcount, hn, if_false,
    hlimit, Except.map]

/-- The answers of an adapter that definitions which it does not offer leave as they are. -/
structure ReactsToOffered (a : Adapter) (c : Context) : Prop where
  /-- The context that preparing leaves behind differs in the definitions alone, too. -/
  prepare : ∀ e, a.AgreeOffered c.definitions e →
    a.prepare (c.withDefinitions e) = ((a.prepare c).1, (a.prepare c).2.withDefinitions e)
  outputSizes : ∀ e, a.AgreeOffered c.definitions e →
    a.outputSizes c.hostSizes c.scalars e = a.outputSizes c.hostSizes c.scalars c.definitions
  validate : ∀ e, a.AgreeOffered c.definitions e →
    a.validate (c.withDefinitions e) = a.validate c
  marshalArguments : ∀ e, a.AgreeOffered c.definitions e →
    a.marshalArguments (c.withDefinitions e) = a.marshalArguments c
  /-- The launch of the histogram follows from the limit on the size of a block as well. -/
  launch : ∀ e, a.AgreeOffered c.definitions e →
    (a = histogram → c.definitions.value? blockSizeName = e.value? blockSizeName) →
      SameLaunch a (c.withDefinitions e) a c
  /-- That limit matters unless nothing is deduced for any element. -/
  launch_iff : (∀ e, a.AgreeOffered c.definitions e → SameLaunch a (c.withDefinitions e) a c) ↔
    (a = histogram → c.forced.isSufficient = true ∨ ∀ n, HasCount c "data" n → n = 0)

/-- If no limit matters to the histogram, not even one that is refused, then nothing is
deduced. -/
theorem sufficient_or_no_elements
    (h : ∀ e, histogram.AgreeOffered c.definitions e →
      SameLaunch histogram (c.withDefinitions e) histogram c) :
    c.forced.isSufficient = true ∨ ∀ n, HasCount c "data" n → n = 0 := by
  cases hforced : c.forced.isSufficient with
  | true => exact .inl rfl
  | false =>
      refine .inr fun n hcount => ?_
      by_contra hn
      have hrefused : ∀ value, Text.readU32 (Text.trim value.toList) = .ok 0 →
          histogram.makeLaunch c = .error (.badCount blockSizeName value .notPositive) := by
        intro value hzero
        have hagree := Adapter.agreeOffered_withValue blockSize_not_offered c.definitions value
        calc histogram.makeLaunch c
          _ = histogram.makeLaunch (c.withDefinitions _) := (h _ hagree).made.symm
          _ = histogram.deduceLaunch (c.withDefinitions _) :=
            Adapter.makeLaunch_of_insufficient hforced
          _ = .error (.badCount blockSizeName value .notPositive) :=
            deduceLaunch_of_zero_limit hcount hn hzero
      -- Two ways to write zero are refused with two errors.
      have hsame := (hrefused "0" (by rfl)).symm.trans (hrefused "00" (by rfl))
      simp at hsame

/-- Definitions that a built-in kernel does not offer matter to nothing but the launch of the
histogram, and to that exactly if it is deduced for some elements. -/
theorem reactsToOffered_builtin
    (ha : a ∈ builtinAdapters)
    (c : Context) :
    ReactsToOffered a c where
  prepare := fun _ h => (readsOffered_builtin a ha).prepare_withDefinitions h
  outputSizes := fun _ h => (readsOffered_builtin a ha).sizes _ _ _ _ h
  validate := fun _ h => (readsOffered_builtin a ha).validate_withDefinitions h
  marshalArguments := fun _ _ => (readsOffered_builtin a ha).marshalArguments_withDefinitions
  launch := by
    intro e h hlimit
    apply sameLaunch_of_deduceLaunch
    exact deduceLaunch_withDefinitions a ha c e h fun heq =>
      linearLaunch_congr rfl rfl (hlimit heq).symm
  launch_iff := by
    constructor
    · rintro h rfl
      exact sufficient_or_no_elements h
    · intro hcond e h
      by_cases hsufficient : c.forced.isSufficient = true
      · exact Adapter.sameLaunch_of_forced hsufficient rfl
      · apply sameLaunch_of_deduceLaunch
        exact deduceLaunch_withDefinitions a ha c e h fun heq =>
          linearLaunch_of_no_elements ((hcond heq).resolve_left hsufficient) e

/-- Four samples for eight bins. -/
def eightBins : Context :=
  { hostSizes := .single "data" 16
    definitions := Definitions.empty.withValue Histogram.numBinsName "8" }

theorem reactsToOffered_eightBins :
    histogram ∈ builtinAdapters ∧ ReactsToOffered histogram eightBins := by
  have hhistogram : histogram ∈ builtinAdapters := by simp [builtinAdapters]
  exact ⟨hhistogram, reactsToOffered_builtin hhistogram eightBins⟩

/-- With a limit of two threads, which is not offered, the blocks are smaller. -/
theorem not_sameLaunch_eightBins :
    histogram ∈ builtinAdapters ∧
      histogram.AgreeOffered eightBins.definitions
        (eightBins.definitions.withValue blockSizeName "2") ∧
      histogram.makeLaunch eightBins =
        .ok { overall := some (.linear 4), block := some (.linear 4) } ∧
      histogram.makeLaunch
          (eightBins.withDefinitions (eightBins.definitions.withValue blockSizeName "2")) =
        .ok { overall := some (.linear 4), block := some (.linear 2) } ∧
      ¬SameLaunch histogram
        (eightBins.withDefinitions (eightBins.definitions.withValue blockSizeName "2"))
        histogram eightBins := by
  have hwhole : histogram.makeLaunch eightBins =
      .ok { overall := some (.linear 4), block := some (.linear 4) } := by rfl
  have hhalved : histogram.makeLaunch
      (eightBins.withDefinitions (eightBins.definitions.withValue blockSizeName "2")) =
      .ok { overall := some (.linear 4), block := some (.linear 2) } := by rfl
  refine ⟨by simp [builtinAdapters], Adapter.agreeOffered_withValue blockSize_not_offered _ _,
    hwhole, hhalved, fun h => ?_⟩
  have hmade := h.made
  rw [hwhole, hhalved] at hmade
  revert hmade
  decide

end Launching
end Kernels
end KernelLaunch
