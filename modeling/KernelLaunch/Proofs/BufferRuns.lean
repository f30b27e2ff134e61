import KernelLaunch.DeviceBuffers
import Mathlib.Data.List.Induction

/-!
# Runs of buffer insertions

The buffers on the device are put there one after the other.  A buffer that is only read is on
one side, and one that is written is on the other, whether it is read as well or not.  So of
the three directions two share a side, and a name has two places, not three.

    inserted   a in 1, a out 2, a inout 3
    found      a in ↦ 1, a out ↦ 3, a inout ↦ 3

**Results.**
* `lastHandle_append_singleton`, `lastHandle_eq_some_iff`, `lastHandle_eq_none_iff`: the last
  handle that was given to a name on one side.
* `Finds.insert`, `finds_insertAll`: an insertion keeps buffers that find what was last given,
  so after every run they do.
* `insertAll_swap`: neighbouring insertions at two places commute within a run.
* `holdsLast_insertAll`: after every run the buffers are those that were last given.
-/

namespace KernelLaunch
namespace DeviceBuffers

section Specification

/-- A name, a direction and the handle that is given to it. -/
abbrev Insertion := String × Direction × BufferHandle

/-- Both are directions of buffers that are only read, or neither is. -/
def SameSide (d e : Direction) : Prop := d = .input ↔ e = .input

instance (d e : Direction) : Decidable (SameSide d e) :=
  inferInstanceAs (Decidable (_ ↔ _))

/-- The insertion gives a handle to the name on the side of the direction. -/
def GivesTo (e : Insertion) (name : String) (d : Direction) : Prop :=
  e.1 = name ∧ SameSide e.2.1 d

instance (e : Insertion) (name : String) (d : Direction) : Decidable (GivesTo e name d) :=
  inferInstanceAs (Decidable (_ ∧ _))

/-- The handle that was given last to the name on the side of the direction. -/
def lastHandle (es : List Insertion) (name : String) (d : Direction) : Option BufferHandle :=
  (es.reverse.find? fun e => GivesTo e name d).map fun e => e.2.2

/-- The buffers find what was last given. -/
def Finds (es : List Insertion) (b : DeviceBuffers) : Prop :=
  ∀ name d, b.get? name d = lastHandle es name d

/-- What buffers answer after the insertions that put them there. -/
structure HoldsLast (es : List Insertion) (b : DeviceBuffers) : Prop where
  found : ∀ name d h, b.get? name d = some h ↔
    ∃ before e after, es = before ++ e :: after ∧ GivesTo e name d ∧ e.2.2 = h ∧
      ∀ f ∈ after, ¬GivesTo f name d
  notFound : ∀ name d, b.get? name d = none ↔ ∀ e ∈ es, ¬GivesTo e name d
  inputs : ∀ name, b.inputs.contains name = true ↔ ∃ e ∈ es, e.1 = name ∧ e.2.1 = .input
  outputs : ∀ name, b.outputs.contains name = true ↔ ∃ e ∈ es, e.1 = name ∧ e.2.1 ≠ .input

/-- What further insertions do to buffers. -/
structure KeepsApart (b : DeviceBuffers) : Prop where
  outputs : ∀ name h, (b.insert name .input h).outputs = b.outputs
  inputs : ∀ name d h, d ≠ .input → (b.insert name d h).inputs = b.inputs
  /-- Insertions on one side leave the answers of the other side as they are. -/
  separate : ∀ es name d, (∀ e ∈ es, ¬SameSide e.2.1 d) →
    (b.insertAll es).get? name d = b.get? name d
  swapped : ∀ (before : List Insertion) (e f : Insertion) (after : List Insertion),
    (e.1 ≠ f.1 ∨ ¬SameSide e.2.1 f.2.1) →
      b.insertAll (before ++ e :: f :: after) = b.insertAll (before ++ f :: e :: after)

end Specification

section Last

variable {es : List Insertion} {name : String} {d : Direction} {h : BufferHandle}

theorem lastHandle_append_singleton (es : List Insertion) (e : Insertion) (name : String)
    (d : Direction) :
    lastHandle (es ++ [e]) name d =
      if GivesTo e name d then some e.2.2 else lastHandle es name d := by
  rw [lastHandle, List.reverse_append, List.reverse_singleton, List.singleton_append,
    List.find?_cons]
  by_cases he : GivesTo e name d <;> simp [he, lastHandle]

/-- The last handle is one after which no other is given. -/
theorem lastHandle_eq_some_iff :
    lastHandle es name d = some h ↔
      ∃ before e after, es = before ++ e :: after ∧ GivesTo e name d ∧ e.2.2 = h ∧
        ∀ f ∈ after, ¬GivesTo f name d := by
  simp only [lastHandle, Option.map_eq_some_iff, List.find?_eq_some_iff_append,
    decide_eq_true_eq]
  -- The search starts at the end, so what it meets before the hit was given after it.
  constructor
  · intro ⟨e, ⟨he, after, before, hsplit, hlater⟩, hh⟩
    refine ⟨before.reverse, e, after.reverse, ?_, he, hh, ?_⟩
    · rw [← List.reverse_reverse es, hsplit]
      simp
    · intro f hf
      simpa using hlater f (List.mem_reverse.1 hf)
  · intro ⟨before, e, after, hsplit, he, hh, hlater⟩
    refine ⟨e, ⟨he, after.reverse, before.reverse, by simp [hsplit], ?_⟩, hh⟩
    intro f hf
    simpa using hlater f (List.mem_reverse.1 hf)

theorem lastHandle_eq_none_iff :
    lastHandle es name d = none ↔ ∀ e ∈ es, ¬GivesTo e name d := by
  simp [lastHandle]

theorem exists_lastHandle_iff :
    (∃ h, lastHandle es name d = some h) ↔ ∃ e ∈ es, GivesTo e name d := by
  rw [← Option.ne_none_iff_exists', ne_eq, lastHandle_eq_none_iff]
  simp

end Last

section Runs

variable {b : DeviceBuffers} {es : List Insertion} {name : String}

/-- The side that a buffer is stored on, and the one that it is looked up on, is that of its
direction. -/
theorem sameSide_iff {d e : Direction} : SameSide d e ↔ d.side = e.side := by
  cases d <;> cases e <;> decide

theorem givesTo_iff {e : Insertion} {d : Direction} :
    GivesTo e name d ↔ e.2.1.side = d.side ∧ e.1 = name := by
  rw [GivesTo, sameSide_iff, and_comm]

theorem insertAll_append (b : DeviceBuffers) (es fs : List Insertion) :
    b.insertAll (es ++ fs) = (b.insertAll es).insertAll fs :=
  List.foldl_append

theorem finds_empty : Finds [] empty := by
  intro name d
  cases d <;> rfl

/-- An insertion keeps buffers that find what was last given. -/
theorem Finds.insert (hb : Finds es b) (e : Insertion) :
    Finds (es ++ [e]) (b.insert e.1 e.2.1 e.2.2) := by
  intro name d
  rw [get?_insert, lastHandle_append_singleton, hb name d]
  simp only [givesTo_iff]

theorem finds_insertAll (es : List Insertion) : Finds es (empty.insertAll es) := by
  induction es using List.reverseRecOn with
  | nil => exact finds_empty
  | append_singleton es e ih =>
      rw [insertAll_append]
      exact ih.insert e

theorem Finds.exists_get?_iff (hb : Finds es b) (d : Direction) :
    (∃ h, b.get? name d = some h) ↔ ∃ e ∈ es, GivesTo e name d := by
  rw [hb name d]
  exact exists_lastHandle_iff

theorem Finds.holdsLast (hb : Finds es b) : HoldsLast es b where
  found := by
    intro name d h
    rw [hb name d]
    exact lastHandle_eq_some_iff
  notFound := by
    intro name d
    rw [hb name d]
    exact lastHandle_eq_none_iff
  inputs := by
    intro name
    have hinput : (∃ h, b.inputs.get? name = some h) ↔ _ := hb.exists_get?_iff .input
    rw [NameMap.contains_eq_true_iff, hinput]
    simp [GivesTo, SameSide]
  outputs := by
    intro name
    have houtput : (∃ h, b.outputs.get? name = some h) ↔ _ := hb.exists_get?_iff .output
    rw [NameMap.contains_eq_true_iff, houtput]
    simp [GivesTo, SameSide]

/-- Neighbouring insertions commute within a run unless they are made at one place. -/
theorem insertAll_swap
    {e f : Insertion}
    (h : e.1 ≠ f.1 ∨ ¬SameSide e.2.1 f.2.1)
    (b : DeviceBuffers)
    (before after : List Insertion) :
    b.insertAll (before ++ e :: f :: after) = b.insertAll (before ++ f :: e :: after) := by
  rw [sameSide_iff] at h
  rw [insertAll_append, insertAll_append]
  exact congrArg (fun c => insertAll c after) (insert_comm _ h _ _)

theorem keepsApart (b : DeviceBuffers) : KeepsApart b where
  outputs := fun _ _ => rfl
  inputs := by
    intro name d h hd
    cases d with
    | input => exact absurd rfl hd
    | output | inout => rfl
  separate := by
    intro es name d hes
    refine get?_insertAll_of_forall_ne (fun e he hplace => hes e he ?_) b
    rw [sameSide_iff]
    exact congrArg Prod.fst hplace
  swapped := fun before _ _ after h => insertAll_swap h b before after

/-- Putting buffers on the device is exact over whole runs.  After any insertions, and so at any
point of a run, a name has on each side the handle that was last given to it there.  To any
buffers an insertion on one side makes no difference on the other, and neighbouring insertions
can change places unless they are made under one name on one side. -/
theorem holdsLast_insertAll :
    (∀ es : List Insertion, HoldsLast es (empty.insertAll es)) ∧
      ∀ b : DeviceBuffers, KeepsApart b :=
  ⟨fun es => (finds_insertAll es).holdsLast, keepsApart⟩

/-- A buffer that is read and written takes the place of one that is written, and not of one
that is read. -/
example :
    let b := empty.insertAll
      [("a", .input, ⟨.cuda, 1⟩), ("a", .output, ⟨.cuda, 2⟩), ("a", .inout, ⟨.cuda, 3⟩)]
    b.get? "a" .input = some ⟨.cuda, 1⟩ ∧ b.get? "a" .output = some ⟨.cuda, 3⟩ := by
  exact ⟨by rfl, by rfl⟩

end Runs

end DeviceBuffers
end KernelLaunch
