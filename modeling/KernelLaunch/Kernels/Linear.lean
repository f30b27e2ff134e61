import KernelLaunch.Adapter.Basic

/-!
# One-dimensional kernels

Kernels that work on the elements of a vector one by one share how many elements
there are, and how they are launched.

The element count is the scalar `length` if there is one, else the number of whole
elements in the host copy of a buffer.  A launch has one thread for each element, in
blocks as large as the definition `BLOCK_SIZE` allows.

**Results.**
* `lengthOf_eq_ok_iff`: when a buffer has an element count, and which.
* `bytesOf_eq`: the size of a number of elements does not overflow.
* `elementCount_eq_ok_iff`: the count is the length if there is one, else that of the
  buffer.
* `elementCount_eq_error_iff`: when there is no count, and why.
* `generateLength_eq_ok_iff`, `generateLength_eq_error_iff`: the length is generated only where
  there is none, and fails as the count does.
* `generateLength_cases`: what merging the generated length leaves behind.
* `positiveDefinition_eq_some_iff`, `requiredPositiveDefinition_eq_ok_iff`: which values of
  definitions are positive numbers.
* `linearLaunch_eq_ok_iff`: when a launch is deduced, and which.
* `linearLaunch_congr`: what a deduced launch follows from.
-/

namespace KernelLaunch
namespace Kernels

section Counts

/-- The name of the element-count scalar. -/
def lengthName : String := "length"

/-- The number of whole elements in a buffer, which must fit in 32 bits. -/
def lengthOf (name : String) (bytes elementSize : Nat) : Except AdapterError UInt32 :=
  if elementSize = 0 then .error (.emptyElements name)
  else
    let count := bytes / elementSize
    if count < UInt32.size then .ok (UInt32.ofNat count) else .error (.tooManyElements name count)

/-- The number of elements to work on. -/
def elementCount (scalars : ScalarArguments) (hostSizes : HostSizes) (buffer : String)
    (elementSize : Nat) : Except AdapterError UInt32 :=
  match scalars.get? lengthName with
  | some v =>
      match v.asU32? with
      | some n => .ok n
      | none => .error (.scalarKindMismatch lengthName (.int .u32) v.kind)
  | none =>
      match hostSizes.get? buffer with
      | some bytes => lengthOf buffer bytes elementSize
      | none => .error (.missingInput buffer)

/-- The size in bytes of a number of elements, a product of 64 bits. -/
def bytesOf (n : UInt32) (elementSize : Nat) : Nat :=
  (n.toUInt64 * UInt64.ofNat elementSize).toNat

/-- The size is exact: there is room for the product of two 32-bit numbers. -/
theorem bytesOf_eq (n : UInt32) {elementSize : Nat} (hsize : elementSize < UInt32.size) :
    bytesOf n elementSize = n.toNat * elementSize := by
  have hword : UInt32.size * UInt32.size = UInt64.size := by decide
  have hroom : UInt32.size < UInt64.size := by decide
  have hproduct : n.toNat * elementSize < UInt32.size * UInt32.size :=
    Nat.mul_lt_mul'' n.toNat_lt hsize
  rw [bytesOf, UInt64.toNat_mul, UInt32.toNat_toUInt64,
    UInt64.toNat_ofNat_of_lt' (Nat.lt_trans hsize hroom)]
  exact Nat.mod_eq_of_lt (Nat.lt_of_lt_of_eq hproduct hword)

theorem bytesOf_four (n : UInt32) : bytesOf n 4 = 4 * n.toNat := by
  rw [bytesOf_eq n (by decide), Nat.mul_comm]

/-- The element count as a scalar, unless there is such a scalar. -/
def generateLength (c : Context) (buffer : String) (elementSize : Nat) :
    Except AdapterError ScalarArguments :=
  if c.scalars.contains lengthName then .ok .empty
  else
    (elementCount c.scalars c.hostSizes buffer elementSize).map fun n =>
      .single lengthName (.ofU32 n)

/-- A buffer has an element count exactly if that fits in 32 bits. -/
theorem lengthOf_eq_ok_iff {name : String} {bytes elementSize : Nat} {n : UInt32} :
    lengthOf name bytes elementSize = .ok n ↔
      0 < elementSize ∧ n.toNat = bytes / elementSize := by
  have hn : n.toNat < UInt32.size := n.toNat_lt
  unfold lengthOf
  by_cases hz : elementSize = 0
  · simp [hz]
  · have hpos : 0 < elementSize := Nat.pos_of_ne_zero hz
    by_cases hlt : bytes / elementSize < UInt32.size
    · simp only [hz, if_false, hlt, if_true, Except.ok.injEq, hpos, true_and]
      constructor
      · rintro rfl
        exact UInt32.toNat_ofNat_of_lt' hlt
      · intro h
        rw [← h, UInt32.ofNat_toNat]
    · simp only [hz, if_false, hlt, reduceCtorEq, hpos, true_and, false_iff]
      intro h
      exact hlt (h ▸ hn)

/-- The count is the length if there is one, else that of the buffer. -/
theorem elementCount_eq_ok_iff
    {scalars : ScalarArguments} {hostSizes : HostSizes} {buffer : String}
    {elementSize : Nat} {n : UInt32} :
    elementCount scalars hostSizes buffer elementSize = .ok n ↔
      scalars.get? lengthName = some (.ofU32 n) ∨
        (scalars.get? lengthName = none ∧
          ∃ bytes, hostSizes.get? buffer = some bytes ∧
            0 < elementSize ∧ n.toNat = bytes / elementSize) := by
  unfold elementCount
  cases hl : scalars.get? lengthName with
  | some v =>
      simp only [Option.some.injEq, reduceCtorEq, false_and, or_false]
      rw [← ScalarValue.asU32?_eq_some_iff]
      cases hv : v.asU32? <;> simp
  | none =>
      cases hb : hostSizes.get? buffer with
      | none => simp
      | some bytes => simp [lengthOf_eq_ok_iff]

/-- Why there is no count for a buffer: it is not there, or it has too many elements. -/
inductive Uncounted (hostSizes : HostSizes) (buffer : String) (elementSize : Nat) :
    AdapterError → Prop
  | missing (hbuffer : hostSizes.get? buffer = none) :
      Uncounted hostSizes buffer elementSize (.missingInput buffer)
  | tooMany {bytes : Nat}
      (hbuffer : hostSizes.get? buffer = some bytes)
      (hcount : UInt32.size ≤ bytes / elementSize) :
      Uncounted hostSizes buffer elementSize (.tooManyElements buffer (bytes / elementSize))

theorem uncounted_iff
    {hostSizes : HostSizes} {buffer : String} {elementSize : Nat} {e : AdapterError} :
    Uncounted hostSizes buffer elementSize e ↔
      (hostSizes.get? buffer = none ∧ e = .missingInput buffer) ∨
        ∃ bytes, hostSizes.get? buffer = some bytes ∧ UInt32.size ≤ bytes / elementSize ∧
          e = .tooManyElements buffer (bytes / elementSize) := by
  constructor
  · intro h
    cases h with
    | missing hbuffer => exact .inl ⟨hbuffer, rfl⟩
    | tooMany hbuffer hcount => exact .inr ⟨_, hbuffer, hcount, rfl⟩
  · intro h
    rcases h with ⟨hbuffer, he⟩ | ⟨bytes, hbuffer, hcount, he⟩
    · exact he ▸ .missing hbuffer
    · exact he ▸ .tooMany hbuffer hcount

theorem lengthOf_eq_error_iff
    {name : String} {bytes elementSize : Nat} {e : AdapterError}
    (hsize : 0 < elementSize) :
    lengthOf name bytes elementSize = .error e ↔
      UInt32.size ≤ bytes / elementSize ∧ e = .tooManyElements name (bytes / elementSize) := by
  rw [lengthOf, if_neg (Nat.ne_of_gt hsize)]
  by_cases hlt : bytes / elementSize < UInt32.size
  · simp [hlt, Nat.not_le.2 hlt]
  · simp [hlt, Nat.not_lt.1 hlt, eq_comm]

/-- There is no count for a length of another kind, and without a length for a buffer that has
none. -/
theorem elementCount_eq_error_iff
    {scalars : ScalarArguments} {hostSizes : HostSizes} {buffer : String}
    {elementSize : Nat} {e : AdapterError}
    (hsize : 0 < elementSize) :
    elementCount scalars hostSizes buffer elementSize = .error e ↔
      (∃ v, scalars.get? lengthName = some v ∧ v.kind ≠ .int .u32 ∧
        e = .scalarKindMismatch lengthName (.int .u32) v.kind) ∨
        (scalars.get? lengthName = none ∧ Uncounted hostSizes buffer elementSize e) := by
  rw [elementCount]
  cases scalars.get? lengthName with
  | some v =>
      have hkind := v.asU32?_isSome_iff
      cases hv : v.asU32? with
      | some n =>
          have hu32 : v.kind = .int .u32 := hkind.1 (by rw [hv]; rfl)
          simp [hv, hu32]
      | none =>
          have hother : v.kind ≠ .int .u32 := fun h => by simpa [hv] using hkind.2 h
          simp only [hv, Except.error.injEq, Option.some.injEq, exists_eq_left', ne_eq, hother,
            not_false_eq_true, true_and, reduceCtorEq, false_and, or_false]
          exact eq_comm
  | none =>
      simp only [reduceCtorEq, false_and, exists_false, true_and, false_or, uncounted_iff]
      cases hostSizes.get? buffer with
      | none => simp [eq_comm]
      | some bytes => simp [lengthOf_eq_error_iff hsize]

/-- The length is generated only where there is none. -/
theorem generateLength_eq_ok_iff
    {c : Context} {buffer : String} {elementSize : Nat} {g : ScalarArguments} :
    generateLength c buffer elementSize = .ok g ↔
      (c.scalars.contains lengthName = true ∧ g = .empty) ∨
        (c.scalars.contains lengthName = false ∧
          ∃ n, elementCount c.scalars c.hostSizes buffer elementSize = .ok n ∧
            g = .single lengthName (.ofU32 n)) := by
  rw [generateLength]
  by_cases hl : c.scalars.contains lengthName = true
  · simp [hl, eq_comm]
  · simp [hl, map_eq_ok_iff]

/-- Generating the length fails only where there is none, and for the reason that there is no
count. -/
theorem generateLength_eq_error_iff
    {c : Context} {buffer : String} {elementSize : Nat} {e : AdapterError} :
    generateLength c buffer elementSize = .error e ↔
      c.scalars.get? lengthName = none ∧
        elementCount c.scalars c.hostSizes buffer elementSize = .error e := by
  rw [generateLength, NameMap.contains]
  cases c.scalars.get? lengthName with
  | some v => simp
  | none => simp [map_eq_error_iff]

theorem get?_of_generateLength
    {c : Context} {buffer : String} {elementSize : Nat} {g : ScalarArguments}
    (h : generateLength c buffer elementSize = .ok g)
    {name : String}
    (hname : lengthName ≠ name) :
    g.get? name = none := by
  rcases generateLength_eq_ok_iff.1 h with ⟨_, rfl⟩ | ⟨_, n, _, rfl⟩
  · rfl
  · simp [hname]

/-- Merging the generated length leaves a context with a length as it is, and gives any
other one the number of whole elements in the buffer. -/
theorem generateLength_cases
    {c : Context} {buffer : String} {elementSize : Nat} {g : ScalarArguments}
    (h : generateLength c buffer elementSize = .ok g) :
    ((∃ v, c.scalars.get? lengthName = some v) ∧ c.mergeScalars g = c) ∨
      (c.scalars.get? lengthName = none ∧
        ∃ n bytes, c.hostSizes.get? buffer = some bytes ∧ n.toNat = bytes / elementSize ∧
          (c.mergeScalars g).scalars.get? lengthName = some (.ofU32 n)) := by
  rcases generateLength_eq_ok_iff.1 h with ⟨hl, rfl⟩ | ⟨hl, n, hn, rfl⟩
  · exact Or.inl ⟨NameMap.contains_eq_true_iff.1 hl, rfl⟩
  · have hnone : c.scalars.get? lengthName = none := by
      simpa [NameMap.contains] using hl
    rcases elementCount_eq_ok_iff.1 hn with hsome | ⟨_, bytes, hbytes, _, hcount⟩
    · rw [hnone] at hsome
      cases hsome
    · refine Or.inr ⟨hnone, n, bytes, hbytes, hcount, ?_⟩
      simp [Context.get?_mergeScalars, hnone]

theorem exists_length_of_generateLength
    {c : Context} {buffer : String} {elementSize : Nat} {g : ScalarArguments}
    (h : generateLength c buffer elementSize = .ok g) :
    ∃ v, (c.mergeScalars g).scalars.get? lengthName = some v := by
  rcases generateLength_cases h with ⟨hv, hc⟩ | ⟨_, n, _, _, _, hn⟩
  · rw [hc]
    exact hv
  · exact ⟨_, hn⟩

end Counts

section Definitions

/-- A definition whose value is a positive 32-bit number, if it is there. -/
def positiveDefinition (valued : NameMap String) (name : String) :
    Except AdapterError (Option UInt32) :=
  match valued.get? name with
  | none => .ok none
  | some value =>
      match Text.readU32 (Text.trim value.toList) with
      | .error fault => .error (.badCount name value (.numeral fault))
      | .ok n => if n = 0 then .error (.badCount name value .notPositive) else .ok (some n)

/-- A definition whose value is a positive 32-bit number and that must be there. -/
def requiredPositiveDefinition (valued : NameMap String) (name : String) :
    Except AdapterError UInt32 :=
  match positiveDefinition valued name with
  | .error e => .error e
  | .ok none => .error (.missingDefinition name)
  | .ok (some n) => .ok n

/-- A text that denotes a positive 32-bit number, with blanks around it or without. -/
def IsPositiveNumeral (value : String) (n : UInt32) : Prop :=
  Text.IsPaddedNumeral value.toList n.toNat ∧ 0 < n.toNat

variable {valued : NameMap String} {name : String} {n : UInt32}

/-- A definition is left open exactly if it has no value. -/
theorem positiveDefinition_eq_none_iff :
    positiveDefinition valued name = .ok none ↔ valued.get? name = none := by
  rw [positiveDefinition]
  cases valued.get? name with
  | none => simp
  | some value =>
      cases hread : Text.readU32 (Text.trim value.toList) with
      | error fault => simp [hread]
      | ok m => by_cases hm : m = 0 <;> simp [hread, hm]

/-- A definition has a number exactly if its value denotes that. -/
theorem positiveDefinition_eq_some_iff :
    positiveDefinition valued name = .ok (some n) ↔
      ∃ value, valued.get? name = some value ∧ IsPositiveNumeral value n := by
  rw [positiveDefinition]
  cases valued.get? name with
  | none => simp
  | some value =>
      simp only [Option.some.injEq, exists_eq_left', IsPositiveNumeral, toNat_pos_iff,
        Text.isPaddedNumeral_iff, ← Text.readU32_eq_ok_iff]
      cases Text.readU32 (Text.trim value.toList) with
      | error fault => simp
      | ok m =>
          simp only [Except.ok.injEq]
          constructor
          · intro h
            split at h
            · cases h
            · rename_i hm
              cases h
              exact ⟨rfl, hm⟩
          · rintro ⟨rfl, hm⟩
            rw [if_neg hm]

/-- A required definition has a number exactly if its value denotes that. -/
theorem requiredPositiveDefinition_eq_ok_iff :
    requiredPositiveDefinition valued name = .ok n ↔
      ∃ value, valued.get? name = some value ∧ IsPositiveNumeral value n := by
  rw [← positiveDefinition_eq_some_iff, requiredPositiveDefinition]
  rcases positiveDefinition valued name with e | _ | m <;> simp

variable {other : NameMap String}

/-- A number is read from the value of its own definition alone. -/
theorem positiveDefinition_congr (h : valued.get? name = other.get? name) :
    positiveDefinition valued name = positiveDefinition other name := by
  rw [positiveDefinition, positiveDefinition, h]

theorem requiredPositiveDefinition_congr (h : valued.get? name = other.get? name) :
    requiredPositiveDefinition valued name = requiredPositiveDefinition other name := by
  rw [requiredPositiveDefinition, requiredPositiveDefinition, positiveDefinition_congr h]

end Definitions

section Launch

/-- The definition that limits the size of a block. -/
def blockSizeName : String := "BLOCK_SIZE"

/-- The limit on the size of a block where none is defined. -/
def defaultBlockSize : UInt32 := 256

/-- One thread for each element, in blocks up to the limit. -/
def linearLaunch (key : String) (c : Context) (buffer : String) (elementSize : Nat) :
    Except AdapterError LaunchComponents :=
  match elementCount c.scalars c.hostSizes buffer elementSize with
  | .error e => .error e
  | .ok n =>
      if n = 0 then .error (.launchUndeducible key)
      else
        (positiveDefinition c.definitions.valued blockSizeName).map fun limit =>
          { overall := some (.linear n)
            block := some (.linear (min n (limit.getD defaultBlockSize))) }

/-- A launch is deduced for a positive count and a block size that is usable or unset. -/
theorem linearLaunch_eq_ok_iff
    {key : String} {c : Context} {buffer : String} {elementSize : Nat}
    {l : LaunchComponents} :
    linearLaunch key c buffer elementSize = .ok l ↔
      ∃ n limit, elementCount c.scalars c.hostSizes buffer elementSize = .ok n ∧ n ≠ 0 ∧
        positiveDefinition c.definitions.valued blockSizeName = .ok limit ∧
          l = { overall := some (.linear n)
                block := some (.linear (min n (limit.getD defaultBlockSize))) } := by
  rw [linearLaunch]
  cases elementCount c.scalars c.hostSizes buffer elementSize with
  | error e => simp
  | ok n => by_cases hn : n = 0 <;> simp [hn, map_eq_ok_iff]

/-- Of the definitions only the limit on the size of a block matters. -/
theorem linearLaunch_congr
    {key : String} {c d : Context} {buffer : String} {elementSize : Nat}
    (hscalars : c.scalars = d.scalars)
    (hsizes : c.hostSizes = d.hostSizes)
    (hlimit : c.definitions.value? blockSizeName = d.definitions.value? blockSizeName) :
    linearLaunch key c buffer elementSize = linearLaunch key d buffer elementSize := by
  rw [linearLaunch, linearLaunch, hscalars, hsizes, positiveDefinition_congr hlimit]

end Launch

end Kernels
end KernelLaunch
