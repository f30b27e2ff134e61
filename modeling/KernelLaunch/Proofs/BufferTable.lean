import KernelLaunch.Proofs.Preparation
import KernelLaunch.Text.ByteOrder
import Mathlib.Data.List.Dedup

/-!
# The buffer table by direction

What an adapter is asked about its buffers is which of them have one of some directions.  The
answer is a set of names: a name that stands in the table several times is reported once, and
one that stands there with several directions is reported under each of them.

    table     a in, b out, a out, c inout, b out
    in        a
    out       a b
    inout     c

If no name stands in the table twice, each buffer is reported under its own direction alone,
and only then do the three answers make up the table.

**Results.**
* `NameSet.size_ofNames_eq_iff`: a set has as many names as the list that it is made from
  exactly if the list has no name twice.
* `mem_names_bufferNamesAny`: the names reported are those of the entries with a direction
  that is asked for.
* `perm_withDirection`: the entries of the three directions make up the table.
* `partitionsTable_iff`: the three answers part the table exactly if its names are distinct.
* `partitionsTable_builtin`: the tables of the built-in kernels are parted.
* `decomposes_bufferNames`: the answers for sets of directions are put together from those for
  single ones.
-/

namespace KernelLaunch

namespace NameSet

/-- A set lists the names that it is made from, without repetition. -/
theorem perm_names_ofNames (ns : List String) : (ofNames ns).names.Perm ns.dedup := by
  refine (List.perm_ext_iff_of_nodup (ofNames ns).nodup_names (List.nodup_dedup ns)).2 ?_
  intro name
  rw [NameMap.mem_names_iff, contains_ofNames, List.mem_dedup]

theorem size_ofNames (ns : List String) : (ofNames ns).size = ns.dedup.length := by
  rw [← (perm_names_ofNames ns).length_eq, NameMap.names, List.length_map]
  rfl

theorem size_ofNames_le (ns : List String) : (ofNames ns).size ≤ ns.length := by
  rw [size_ofNames]
  exact (List.dedup_sublist ns).length_le

/-- A set has as many names as its list exactly if no name stands there twice. -/
theorem size_ofNames_eq_iff {ns : List String} : (ofNames ns).size = ns.length ↔ ns.Nodup := by
  rw [size_ofNames]
  constructor
  · intro h
    exact List.dedup_eq_self.1 ((List.dedup_sublist ns).eq_of_length h)
  · intro h
    rw [List.dedup_eq_self.2 h]

end NameSet

namespace Adapter

section Specification

/-- No two entries of the buffer table have one name. -/
def DistinctBuffers (a : Adapter) : Prop :=
  (a.buffers.map fun b => b.name).Nodup

/-- What is answered about the buffers of some directions, whatever the table. -/
structure DecomposesTable (a : Adapter) : Prop where
  reported : ∀ ds name, name ∈ (a.bufferNamesAny ds).names ↔
    ∃ b ∈ a.buffers, b.direction ∈ ds ∧ b.name = name
  union : ∀ ds es us, (∀ d, d ∈ us ↔ d ∈ ds ∨ d ∈ es) → ∀ name,
    name ∈ (a.bufferNamesAny us).names ↔
      name ∈ (a.bufferNamesAny ds).names ∨ name ∈ (a.bufferNamesAny es).names
  single : ∀ ds name, name ∈ (a.bufferNamesAny ds).names ↔
    ∃ d ∈ ds, name ∈ (a.bufferNames d).names
  monotone : ∀ ds es, ds ⊆ es → (a.bufferNamesAny ds).names ⊆ (a.bufferNamesAny es).names
  unrepeated : ∀ ds, (a.bufferNamesAny ds).names.Nodup
  ordered : ∀ ds, (a.bufferNamesAny ds).names.Pairwise fun m n => Text.bytes m < Text.bytes n

/-- The three answers part the table: each buffer is in one of them, and is counted once. -/
structure PartitionsTable (a : Adapter) : Prop where
  disjoint : ∀ d e, d ≠ e → (a.bufferNames d).names.Disjoint (a.bufferNames e).names
  own : ∀ b ∈ a.buffers, ∀ d, b.name ∈ (a.bufferNames d).names ↔ d = b.direction
  sizes : (a.bufferNames .input).size + (a.bufferNames .output).size +
    (a.bufferNames .inout).size = a.buffers.length

end Specification

section Queries

variable {a : Adapter} {ds es us : List Direction} {d : Direction} {name : String}

/-- The names reported are those of the entries with a direction that is asked for. -/
theorem mem_names_bufferNamesAny :
    name ∈ (a.bufferNamesAny ds).names ↔
      ∃ b ∈ a.buffers, b.direction ∈ ds ∧ b.name = name := by
  rw [NameMap.mem_names_iff, contains_bufferNamesAny]

theorem mem_names_bufferNames :
    name ∈ (a.bufferNames d).names ↔ ∃ b ∈ a.buffers, b.direction = d ∧ b.name = name := by
  simp only [bufferNames, mem_names_bufferNamesAny, List.mem_singleton]

theorem mem_names_of_subset
    (h : ds ⊆ es)
    (hname : name ∈ (a.bufferNamesAny ds).names) :
    name ∈ (a.bufferNamesAny es).names := by
  obtain ⟨b, hb, hd, hn⟩ := mem_names_bufferNamesAny.1 hname
  exact mem_names_bufferNamesAny.2 ⟨b, hb, h hd, hn⟩

/-- A name is reported for several directions exactly if it is reported for one of them. -/
theorem mem_names_iff_exists_direction :
    name ∈ (a.bufferNamesAny ds).names ↔ ∃ d ∈ ds, name ∈ (a.bufferNames d).names := by
  simp only [mem_names_bufferNames]
  rw [mem_names_bufferNamesAny]
  constructor
  · intro ⟨b, hb, hd, hn⟩
    exact ⟨b.direction, hd, b, hb, rfl, hn⟩
  · intro ⟨d, hd, b, hb, hdirection, hn⟩
    exact ⟨b, hb, hdirection ▸ hd, hn⟩

theorem mem_names_union (h : ∀ d, d ∈ us ↔ d ∈ ds ∨ d ∈ es) :
    name ∈ (a.bufferNamesAny us).names ↔
      name ∈ (a.bufferNamesAny ds).names ∨ name ∈ (a.bufferNamesAny es).names := by
  simp only [mem_names_iff_exists_direction, h, or_and_right, exists_or]

theorem decomposesTable (a : Adapter) : DecomposesTable a where
  reported := fun _ _ => mem_names_bufferNamesAny
  union := fun _ _ _ h _ => mem_names_union h
  single := fun _ _ => mem_names_iff_exists_direction
  monotone := fun _ _ h _ => mem_names_of_subset h
  unrepeated := fun ds => (a.bufferNamesAny ds).nodup_names
  ordered := fun ds => (a.bufferNamesAny ds).names_pairwise.imp Text.bytes_lt_iff.2

end Queries

section Partition

variable {a : Adapter}

/-- The entries of a table with one direction. -/
def withDirection (bs : List BufferDescriptor) (d : Direction) : List BufferDescriptor :=
  bs.filter fun b => b.direction = d

/-- The names of the entries with one direction, as often as they stand in the table. -/
def listedNames (a : Adapter) (d : Direction) : List String :=
  (withDirection a.buffers d).map fun b => b.name

theorem bufferNames_eq_ofNames (a : Adapter) (d : Direction) :
    a.bufferNames d = NameSet.ofNames (a.listedNames d) := by
  simp only [bufferNames, bufferNamesAny, listedNames, withDirection, List.mem_singleton]

theorem mem_names_iff_mem_listedNames {d : Direction} {name : String} :
    name ∈ (a.bufferNames d).names ↔ name ∈ a.listedNames d := by
  rw [bufferNames_eq_ofNames, NameMap.mem_names_iff, NameSet.contains_ofNames]

/-- The entries of the three directions make up the table. -/
theorem perm_withDirection (bs : List BufferDescriptor) :
    (withDirection bs .input ++ withDirection bs .output ++ withDirection bs .inout).Perm bs := by
  -- By induction on the table: an entry is put in front of the part for its direction.
  induction bs with
  | nil => exact .nil
  | cons b bs ih =>
      cases hd : b.direction with
      | input => simpa [withDirection, hd] using ih.cons b
      | output =>
          have hmiddle : (withDirection bs .input ++
              b :: (withDirection bs .output ++ withDirection bs .inout)).Perm (b :: bs) :=
            List.perm_middle.trans (by simpa using ih.cons b)
          simpa [withDirection, hd] using hmiddle
      | inout =>
          have hmiddle : (withDirection bs .input ++ withDirection bs .output ++
              b :: withDirection bs .inout).Perm (b :: bs) :=
            List.perm_middle.trans (ih.cons b)
          simpa [withDirection, hd] using hmiddle

theorem perm_listedNames (a : Adapter) :
    (a.listedNames .input ++ a.listedNames .output ++ a.listedNames .inout).Perm
      (a.buffers.map fun b => b.name) := by
  have hnames := (perm_withDirection a.buffers).map fun b => b.name
  rw [List.map_append, List.map_append] at hnames
  exact hnames

theorem length_listedNames (a : Adapter) :
    (a.listedNames .input).length + (a.listedNames .output).length +
      (a.listedNames .inout).length = a.buffers.length := by
  have hlength := a.perm_listedNames.length_eq
  simpa only [List.length_append, List.length_map] using hlength

theorem size_bufferNames_le (a : Adapter) (d : Direction) :
    (a.bufferNames d).size ≤ (a.listedNames d).length := by
  rw [bufferNames_eq_ofNames]
  exact NameSet.size_ofNames_le _

theorem size_bufferNames_eq_iff {d : Direction} :
    (a.bufferNames d).size = (a.listedNames d).length ↔ (a.listedNames d).Nodup := by
  rw [bufferNames_eq_ofNames]
  exact NameSet.size_ofNames_eq_iff

/-- A buffer whose name no other entry has is reported under its own direction alone. -/
theorem DistinctBuffers.mem_names_iff
    (h : a.DistinctBuffers)
    {b : BufferDescriptor}
    (hb : b ∈ a.buffers)
    {d : Direction} :
    b.name ∈ (a.bufferNames d).names ↔ d = b.direction := by
  rw [mem_names_bufferNames]
  constructor
  · intro ⟨c, hc, hd, hname⟩
    obtain rfl : c = b := List.inj_on_of_nodup_map h hc hb hname
    exact hd.symm
  · intro hd
    exact ⟨b, hb, hd.symm, rfl⟩

theorem DistinctBuffers.nodup_listedNames
    (h : a.DistinctBuffers)
    (d : Direction) :
    (a.listedNames d).Nodup :=
  (List.filter_sublist.map fun b : BufferDescriptor => b.name).nodup h

theorem DistinctBuffers.partitionsTable (h : a.DistinctBuffers) : PartitionsTable a where
  disjoint := by
    intro d e hne name hd he
    obtain ⟨b, hb, rfl, rfl⟩ := mem_names_bufferNames.1 hd
    exact hne ((h.mem_names_iff hb).1 he).symm
  own := fun _ hb _ => h.mem_names_iff hb
  sizes := by
    have hcounted : ∀ d, (a.bufferNames d).size = (a.listedNames d).length := fun d =>
      size_bufferNames_eq_iff.2 (h.nodup_listedNames d)
    rw [hcounted, hcounted, hcounted]
    exact a.length_listedNames

theorem PartitionsTable.disjoint_listedNames
    (h : PartitionsTable a)
    {d e : Direction}
    (hne : d ≠ e) :
    (a.listedNames d).Disjoint (a.listedNames e) := by
  intro name hd he
  exact h.disjoint d e hne (mem_names_iff_mem_listedNames.2 hd)
    (mem_names_iff_mem_listedNames.2 he)

/-- Answers that add up to the table have lost no entry, so no name stands there twice. -/
theorem PartitionsTable.distinctBuffers (h : PartitionsTable a) : a.DistinctBuffers := by
  have hinput := a.size_bufferNames_le .input
  have houtput := a.size_bufferNames_le .output
  have hinout := a.size_bufferNames_le .inout
  have hsizes := h.sizes
  have hlength := a.length_listedNames
  -- No set is larger than its list, and together they are as large.
  have hcounted : ∀ d, (a.bufferNames d).size = (a.listedNames d).length := by
    intro d
    cases d <;> omega
  have hnodup : ∀ d, (a.listedNames d).Nodup := fun d => size_bufferNames_eq_iff.1 (hcounted d)
  refine a.perm_listedNames.nodup_iff.1 ?_
  rw [List.nodup_append', List.nodup_append', List.disjoint_append_left]
  exact ⟨⟨hnodup _, hnodup _, h.disjoint_listedNames (by simp)⟩, hnodup _,
    h.disjoint_listedNames (by simp), h.disjoint_listedNames (by simp)⟩

/-- The three answers part the table exactly if its names are distinct. -/
theorem partitionsTable_iff : PartitionsTable a ↔ a.DistinctBuffers :=
  ⟨PartitionsTable.distinctBuffers, DistinctBuffers.partitionsTable⟩

theorem distinctBuffers_builtin : ∀ a ∈ builtinAdapters, a.DistinctBuffers := by
  refine Kernels.forall_builtin (fun key => ?_) ?_ ?_ ?_
  · simp [DistinctBuffers, Kernels.VectorAdd.adapter, Kernels.VectorAdd.buffers]
  · simp [DistinctBuffers, Kernels.saxpy, Kernels.Saxpy.buffers]
  · simp [DistinctBuffers, Kernels.histogram, Kernels.Histogram.buffers]
  · simp [DistinctBuffers, Kernels.scaleInPlace, Kernels.Scale.buffers]

/-- The tables of the built-in kernels are parted by direction. -/
theorem partitionsTable_builtin : ∀ a ∈ builtinAdapters, PartitionsTable a :=
  fun a ha => (distinctBuffers_builtin a ha).partitionsTable

/-- Queries by direction take the buffer table apart.  Whatever the table, what is answered for
a set of directions is put together from the answers for each of them, and each name is listed
once, in the order of bytes.  Exactly if the names of the table are distinct, no name is in the
answers for two directions, each buffer is in that for its own, and the three together have as
many names as the table has entries. -/
theorem decomposes_bufferNames (a : Adapter) :
    DecomposesTable a ∧ (a.DistinctBuffers ↔ PartitionsTable a) :=
  ⟨decomposesTable a, partitionsTable_iff.symm⟩

/-- A name that is repeated with one direction is reported once, and one that is repeated with
another is reported twice. -/
example :
    let a : Adapter :=
      { key := "k"
        functionName := "f"
        buffers := [⟨"a", .input, ""⟩, ⟨"b", .output, ""⟩, ⟨"a", .output, ""⟩,
          ⟨"c", .inout, ""⟩, ⟨"b", .output, ""⟩]
        outputSizes := fun _ _ _ => .ok .empty }
    (a.bufferNames .input).names = ["a"] ∧ (a.bufferNames .output).names = ["a", "b"] ∧
      (a.bufferNamesAny [.inout, .input]).names = ["a", "c"] := by
  exact ⟨by rfl, by rfl, by rfl⟩

end Partition

end Adapter
end KernelLaunch
