import KernelLaunch.Proofs.ElementCount
import KernelLaunch.Proofs.Preparation

/-!
# Sizes of the outputs

The sizes of the outputs are worked out last, with readers of their own for the length and
for the number of bins.  Nothing can go wrong any more by then: what these readers need was
generated or checked before.

Each built-in kernel writes one buffer.  If it is read as well it keeps the size of its
host copy; otherwise it gets four bytes for each element, of which there are as many as the
length or the number of bins says.  That product is exact in 64 bits.

The inputs of a kernel with a length may hold more elements than a 32-bit number counts.
Without a length from the user such inputs are refused.

**Results.**
* `writesOne_builtin`: for each built-in kernel the buffer that it writes, and that sizing it
  succeeds after validation.
* `countsElements_builtin`: a kernel with a length counts the elements of its first input.
* `sizesOutputs_prepare`: preparing succeeds exactly if generation and validation do, and
  sizes exactly the buffers that are written.
-/

namespace KernelLaunch
namespace Kernels

section Definitions

/-- The number of elements of an output: that of the bins for a histogram, else the length. -/
structure OutputCount (a : Adapter) (c : Context) (n : UInt32) : Prop where
  length : a ≠ histogram → c.scalars.get? lengthName = some (.ofU32 n)
  bins : a = histogram → Histogram.HasBinCount c n

/-- The size that a buffer is allocated with: that of its host copy if it is read as well,
else four bytes for each element. -/
inductive Allocated (a : Adapter) (c : Context) (b : BufferDescriptor) (bytes : Nat) : Prop
  | copied
      (inout : b.direction = .inout)
      (same : c.hostSizes.get? b.name = some bytes)
  | counted
      (output : b.direction = .output)
      (n : UInt32)
      (count : OutputCount a c n)
      (four : bytes = bytesOf n 4)

/-- The kernel writes one buffer, and its size is found once a context is validated. -/
structure WritesOne (a : Adapter) (b : BufferDescriptor) : Prop where
  written : (a.buffers.filter fun b => b.direction ∈ [.output, .inout]) = [b]
  sized : ∀ c g, a.generateScalars c = .ok g → a.validate (c.mergeScalars g) = .ok () →
    ∃ bytes, a.outputSizes c.hostSizes (c.mergeScalars g).scalars c.definitions =
      .ok (.single b.name bytes) ∧ Allocated a (c.mergeScalars g) b bytes

/-- The length counts the four-byte elements of the input `lead`, and all inputs of a context
that passes the size check are as large. -/
structure CountsElements (a : Adapter) (lead : BufferDescriptor) : Prop where
  lead_mem : lead ∈ a.buffers
  lead_input : lead.direction.isInput = true
  generate : a.generateScalars = fun c => generateLength c lead.name 4
  whole : ∀ c, a.inputSizesValid c = true → ∃ bytes, bytes % 4 = 0 ∧
    ∀ b ∈ a.buffers, b.direction.isInput = true → c.hostSizes.get? b.name = some bytes

/-- What becomes of inputs with more elements than a 32-bit number counts. -/
structure StopsOversized (a : Adapter) (c : Context) : Prop where
  generation : ∃ lead ∈ a.buffers, lead.direction.isInput = true ∧
    ∀ bytes, c.hostSizes.get? lead.name = some bytes → UInt32.size ≤ bytes / 4 →
      a.generateScalars c = .error (.tooManyElements lead.name (bytes / 4))
  accepted : ∀ sizes, (a.prepare c).1 = .ok sizes → ∃ n : UInt32,
    ∀ b ∈ a.buffers, b.direction.isInput = true →
      c.hostSizes.get? b.name = some (4 * n.toNat)

/-- What preparing answers, once generation and validation are done. -/
structure SizesOutputs (a : Adapter) (c : Context) : Prop where
  sized : ∀ g, a.generateScalars c = .ok g → a.validate (c.mergeScalars g) = .ok () →
    ∃ sizes, a.outputSizes c.hostSizes (c.mergeScalars g).scalars c.definitions = .ok sizes
  succeeds : (∃ sizes, (a.prepare c).1 = .ok sizes) ↔
    ∃ g, a.generateScalars c = .ok g ∧ a.validate (c.mergeScalars g) = .ok ()
  names : ∀ sizes, (a.prepare c).1 = .ok sizes →
    sizes.names = (a.bufferNamesAny [.output, .inout]).names
  inout : ∀ sizes, (a.prepare c).1 = .ok sizes → ∀ b ∈ a.buffers, b.direction = .inout →
    ∃ bytes, c.hostSizes.get? b.name = some bytes ∧ sizes.get? b.name = some bytes
  /-- The size of an output is a product that is exact in 64 bits. -/
  output : ∀ sizes, (a.prepare c).1 = .ok sizes → ∀ b ∈ a.buffers, b.direction = .output →
    ∃ n, OutputCount a (a.prepare c).2 n ∧ sizes.get? b.name = some (bytesOf n 4) ∧
      bytesOf n 4 = 4 * n.toNat
  /-- For a kernel with a length, if the user supplies none. -/
  oversized : a.scalarNames.contains lengthName = true →
    c.scalars.get? lengthName = none → StopsOversized a c
  /-- A kernel without a length counts no elements. -/
  uncounted : a.scalarNames.contains lengthName = false → a.generateScalars c = .ok .empty

end Definitions

section Sizing

variable {c : Context} {g : ScalarArguments}

/-- A length that passes the check of the addends is a 32-bit number. -/
theorem VectorAdd.exists_length_of_match
    (h : VectorAdd.addendSizesMatch c = true)
    {v : ScalarValue}
    (hv : c.scalars.get? lengthName = some v) :
    ∃ n, v = .ofU32 n := by
  obtain ⟨bytes, m, _, _, hm, _⟩ := (VectorAdd.addendSizesMatch_iff c).1 h
  rw [VectorAdd.checkedBytes?, hv] at hm
  obtain ⟨n, hn, _⟩ := Option.map_eq_some_iff.1 hm
  exact ⟨n, ScalarValue.asU32?_eq_some_iff.1 hn⟩

theorem Histogram.exists_bins_of_extraChecks
    (h : Histogram.extraChecks c = true) :
    ∃ n, requiredPositiveDefinition c.definitions.valued Histogram.numBinsName = .ok n := by
  unfold Histogram.extraChecks at h
  unfold requiredPositiveDefinition
  split at h
  · rename_i n hn
    exact ⟨n, by rw [hn]⟩
  · cases h

theorem validated
    {a : Adapter}
    (h : a.validate c = .ok ()) :
    a.extraChecks c = true ∧ a.inputSizesValid c = true :=
  ((Adapter.validate_eq_ok_iff a c).1 h).2.2.2

theorem vectorAdd_ne_histogram (key : String) : VectorAdd.adapter key ≠ histogram := by
  intro heq
  have hname : "vectorAdd" = "histogram" := congrArg Adapter.functionName heq
  simp at hname

theorem writesOne_vectorAdd (key : String) :
    WritesOne (VectorAdd.adapter key) ⟨"C", .output, "Element-wise sum"⟩ where
  written := rfl
  sized := by
    intro c g hg hvalid
    have hmatch : VectorAdd.addendSizesMatch (c.mergeScalars g) = true := (validated hvalid).2
    obtain ⟨v, hv⟩ := exists_length_of_generateLength hg
    obtain ⟨n, rfl⟩ := VectorAdd.exists_length_of_match hmatch hv
    have hcount : OutputCount (VectorAdd.adapter key) (c.mergeScalars g) n :=
      ⟨fun _ => hv, fun heq => absurd heq (vectorAdd_ne_histogram key)⟩
    refine ⟨bytesOf n VectorAdd.elementSize, ?_, .counted rfl n hcount rfl⟩
    exact VectorAdd.outputSizes_eq_ok_iff.2 ⟨n, elementCount_eq_ok_iff.2 (.inl hv), rfl⟩

theorem writesOne_saxpy : WritesOne saxpy ⟨"y", .inout, "Accumulated into"⟩ where
  written := rfl
  sized := by
    intro c g _ hvalid
    obtain ⟨bytes, _, hy, _⟩ := (Saxpy.inputSizesValid_iff _).1 (validated hvalid).2
    refine ⟨bytes, ?_, .copied rfl hy⟩
    show Saxpy.outputSizes (c.mergeScalars g).hostSizes = _
    rw [Saxpy.outputSizes, hy]

theorem writesOne_histogram : WritesOne histogram ⟨"bins", .output, "Per-bin counts"⟩ where
  written := rfl
  sized := by
    intro c g _ hvalid
    obtain ⟨n, hn⟩ := Histogram.exists_bins_of_extraChecks (validated hvalid).1
    have hcount : OutputCount histogram (c.mergeScalars g) n :=
      ⟨fun hne => absurd rfl hne, fun _ => Histogram.hasBinCount_iff.2 hn⟩
    refine ⟨bytesOf n Histogram.binSize.toNat, ?_, .counted rfl n hcount rfl⟩
    show Histogram.outputSizes (c.mergeScalars g).definitions = _
    rw [Histogram.outputSizes, hn]
    rfl

theorem writesOne_scaleInPlace :
    WritesOne scaleInPlace ⟨"data", .inout, "Vector scaled in place"⟩ where
  written := rfl
  sized := by
    intro c g _ hvalid
    have hsize : Scale.inputSizesValid (c.mergeScalars g) = true := (validated hvalid).2
    obtain ⟨bytes, hdata⟩ : ∃ bytes, (c.mergeScalars g).hostSizes.get? "data" = some bytes := by
      unfold Scale.inputSizesValid at hsize
      split at hsize
      · rename_i bytes hbytes
        exact ⟨bytes, hbytes⟩
      · cases hsize
    refine ⟨bytes, ?_, .copied rfl hdata⟩
    show Scale.outputSizes (c.mergeScalars g).hostSizes = _
    rw [Scale.outputSizes, hdata]

/-- Each built-in kernel writes one buffer, and sizing it succeeds after validation. -/
theorem writesOne_builtin : ∀ a ∈ builtinAdapters, ∃ b, WritesOne a b :=
  forall_builtin (fun key => ⟨_, writesOne_vectorAdd key⟩) ⟨_, writesOne_saxpy⟩
    ⟨_, writesOne_histogram⟩ ⟨_, writesOne_scaleInPlace⟩

end Sizing

section Counting

variable {a : Adapter} {c : Context}

/-- A kernel with a length counts the elements of its first input. -/
theorem countsElements_builtin :
    ∀ a ∈ builtinAdapters, a.scalarNames.contains lengthName = true →
      ∃ lead, CountsElements a lead := by
  refine forall_builtin (fun key _ => ⟨⟨"A", .input, "First addend"⟩, ?_⟩)
    (fun _ => ⟨⟨"x", .input, "Scaled vector"⟩, ?_⟩)
    (fun _ => ⟨⟨"data", .input, "Samples, each a bin index"⟩, ?_⟩)
    fun h => absurd h (by decide)
  · refine ⟨by simp [VectorAdd.adapter, VectorAdd.buffers], rfl, rfl, fun c hc => ?_⟩
    obtain ⟨bytes, _, hA, hB, _, hwhole, _⟩ := (VectorAdd.addendSizesMatch_iff c).1 hc
    exact ⟨bytes, hwhole, by simp [VectorAdd.adapter, VectorAdd.buffers, Direction.isInput, hA, hB]⟩
  · refine ⟨by simp [saxpy, Saxpy.buffers], rfl, rfl, fun c hc => ?_⟩
    obtain ⟨bytes, hx, hy, hwhole⟩ := (Saxpy.inputSizesValid_iff c).1 hc
    exact ⟨bytes, hwhole, by simp [saxpy, Saxpy.buffers, hx, hy]⟩
  · refine ⟨by simp [histogram, Histogram.buffers], rfl, rfl, fun c hc => ?_⟩
    obtain ⟨bytes, hdata, hwhole⟩ := (Histogram.inputSizesValid_iff c).1 hc
    exact ⟨bytes, hwhole, by simp [histogram, Histogram.buffers, Direction.isInput, hdata]⟩

theorem generateScalars_of_no_length :
    ∀ a ∈ builtinAdapters, a.scalarNames.contains lengthName = false →
      ∀ c, a.generateScalars c = .ok .empty := by
  have haddition : (VectorAdd.adapter "").scalarNames.contains lengthName = true := by decide
  refine forall_builtin (fun key h => ?_) (fun h => ?_) (fun h => ?_) fun _ _ => rfl
  · exact absurd (haddition.symm.trans h) (by decide)
  · exact absurd h (by decide)
  · exact absurd h (by decide)

theorem generateLength_of_oversized
    {buffer : String} {elementSize bytes : Nat}
    (hnone : c.scalars.get? lengthName = none)
    (hbytes : c.hostSizes.get? buffer = some bytes)
    (hpos : elementSize ≠ 0)
    (hover : UInt32.size ≤ bytes / elementSize) :
    generateLength c buffer elementSize =
      .error (.tooManyElements buffer (bytes / elementSize)) := by
  have hcount : elementCount c.scalars c.hostSizes buffer elementSize =
      .error (.tooManyElements buffer (bytes / elementSize)) :=
    (elementCount_eq_error_iff (Nat.pos_of_ne_zero hpos)).2 (.inr ⟨hnone, .tooMany hbytes hover⟩)
  exact generateLength_eq_error_iff.2 ⟨hnone, hcount⟩

/-- Without a length from the user the inputs of a context that is accepted have a number of
elements that fits in 32 bits. -/
theorem CountsElements.stopsOversized
    {lead : BufferDescriptor}
    (ha : CountsElements a lead)
    (hnone : c.scalars.get? lengthName = none) :
    StopsOversized a c where
  generation := by
    refine ⟨lead, ha.lead_mem, ha.lead_input, fun bytes hbytes hover => ?_⟩
    rw [ha.generate]
    exact generateLength_of_oversized hnone hbytes (by decide) hover
  accepted := by
    intro sizes hsizes
    have h : a.prepare c = (.ok sizes, (a.prepare c).2) := Prod.ext hsizes rfl
    obtain ⟨bytes, hwhole, hinputs⟩ := ha.whole _ (Adapter.inputSizesValid_of_prepare h)
    rcases length_of_prepare ha.generate h with ⟨⟨v, hv⟩, _⟩ | ⟨_, n, _, _, _, hn⟩
    · rw [hnone] at hv
      cases hv
    · have hfull : 4 * n.toNat = bytes :=
        mul_length_of_prepare ha.generate h hnone hn (hinputs lead ha.lead_mem ha.lead_input)
          hwhole
      refine ⟨n, fun b hb hinput => ?_⟩
      rw [hfull, ← Adapter.hostSizes_of_prepare h]
      exact hinputs b hb hinput

end Counting

section Preparing

variable {a : Adapter} {b : BufferDescriptor} {c : Context}

theorem WritesOne.eq_of_written
    (ha : WritesOne a b)
    {other : BufferDescriptor}
    (hmem : other ∈ a.buffers)
    (hdirection : other.direction ∈ [Direction.output, .inout]) :
    other = b := by
  have hfilter : other ∈ a.buffers.filter fun b => b.direction ∈ [Direction.output, .inout] :=
    List.mem_filter.2 ⟨hmem, by simpa using hdirection⟩
  rw [ha.written] at hfilter
  simpa using hfilter

theorem WritesOne.names_bufferNamesAny
    (ha : WritesOne a b) :
    (a.bufferNamesAny [.output, .inout]).names = [b.name] := by
  rw [Adapter.bufferNamesAny, ha.written]
  rfl

/-- Preparing succeeds exactly after generation and validation, with the size of the buffer
that is written. -/
theorem WritesOne.prepare_eq_ok_iff
    (ha : WritesOne a b)
    {sizes : NameMap Nat} :
    (a.prepare c).1 = .ok sizes ↔
      ∃ g bytes, a.generateScalars c = .ok g ∧ a.validate (c.mergeScalars g) = .ok () ∧
        a.outputSizes c.hostSizes (c.mergeScalars g).scalars c.definitions =
          .ok (.single b.name bytes) ∧
          Allocated a (c.mergeScalars g) b bytes ∧ sizes = .single b.name bytes := by
  constructor
  · intro h
    obtain ⟨g, hg, hd, hvalid, hsizes⟩ :=
      Adapter.prepare_eq_ok_iff.1 (Prod.ext h rfl : a.prepare c = (.ok sizes, (a.prepare c).2))
    rw [hd] at hvalid hsizes
    obtain ⟨bytes, hbytes, hallocated⟩ := ha.sized c g hg hvalid
    refine ⟨g, bytes, hg, hvalid, hbytes, hallocated, ?_⟩
    exact Except.ok.inj (hsizes.symm.trans hbytes)
  · rintro ⟨g, bytes, hg, hvalid, hbytes, _, rfl⟩
    rw [Adapter.prepare_of_generate_ok hg]
    exact Adapter.answer_eq_ok_iff.2 ⟨hvalid, hbytes⟩

theorem WritesOne.sizesOutputs
    (ha : WritesOne a b)
    (hcounts : a.scalarNames.contains lengthName = true → ∃ lead, CountsElements a lead)
    (huncounted : a.scalarNames.contains lengthName = false → a.generateScalars c = .ok .empty) :
    SizesOutputs a c where
  sized := by
    intro g hg hvalid
    obtain ⟨bytes, hbytes, _⟩ := ha.sized c g hg hvalid
    exact ⟨_, hbytes⟩
  succeeds := by
    constructor
    · rintro ⟨sizes, h⟩
      obtain ⟨g, _, hg, hvalid, _⟩ := ha.prepare_eq_ok_iff.1 h
      exact ⟨g, hg, hvalid⟩
    · rintro ⟨g, hg, hvalid⟩
      obtain ⟨bytes, hbytes, hallocated⟩ := ha.sized c g hg hvalid
      exact ⟨_, ha.prepare_eq_ok_iff.2 ⟨g, bytes, hg, hvalid, hbytes, hallocated, rfl⟩⟩
  names := by
    intro sizes h
    obtain ⟨_, bytes, _, _, _, _, rfl⟩ := ha.prepare_eq_ok_iff.1 h
    rw [ha.names_bufferNamesAny]
    rfl
  inout := by
    intro sizes h other hmem hdirection
    obtain ⟨_, bytes, _, _, _, hallocated, rfl⟩ := ha.prepare_eq_ok_iff.1 h
    obtain rfl := ha.eq_of_written hmem (by simp [hdirection])
    cases hallocated with
    | copied _ hsame => exact ⟨bytes, hsame, by simp⟩
    | counted houtput => simp [houtput] at hdirection
  output := by
    intro sizes h other hmem hdirection
    obtain ⟨g, bytes, hg, _, _, hallocated, rfl⟩ := ha.prepare_eq_ok_iff.1 h
    obtain rfl := ha.eq_of_written hmem (by simp [hdirection])
    cases hallocated with
    | copied hinout => simp [hinout] at hdirection
    | counted _ n hcount hfour =>
        rw [Adapter.prepare_of_generate_ok hg]
        exact ⟨n, hcount, by simp [hfour], bytesOf_four n⟩
  oversized := by
    intro hlength hnone
    obtain ⟨lead, hlead⟩ := hcounts hlength
    exact hlead.stopsOversized hnone
  uncounted := huncounted

/-- Validation is complete for sizing: a built-in kernel is prepared exactly if its scalars
can be generated and its context passes, and then exactly the buffers that it writes are
sized. -/
theorem sizesOutputs_prepare
    (ha : a ∈ builtinAdapters)
    (c : Context) :
    SizesOutputs a c := by
  obtain ⟨b, hb⟩ := writesOne_builtin a ha
  exact hb.sizesOutputs (countsElements_builtin a ha) fun h =>
    generateScalars_of_no_length a ha h c

/-- Samples for eight bins, more than a 32-bit number counts. -/
def manySamples : Context :=
  { hostSizes := .single "data" 17179869184
    definitions := Definitions.empty.withValue Histogram.numBinsName " +8 " }

/-- Without a length they are refused, and with one they are accepted. -/
theorem sizesOutputs_manySamples :
    histogram ∈ builtinAdapters ∧
      histogram.generateScalars manySamples = .error (.tooManyElements "data" 4294967296) ∧
        (histogram.prepare (withLength manySamples 4)).1 = .ok (.single "bins" 32) ∧
          SizesOutputs histogram manySamples ∧
            SizesOutputs histogram (withLength manySamples 4) := by
  have hhistogram : histogram ∈ builtinAdapters := by simp [builtinAdapters]
  exact ⟨hhistogram, rfl, rfl, sizesOutputs_prepare hhistogram _,
    sizesOutputs_prepare hhistogram _⟩

end Preparing

end Kernels
end KernelLaunch
