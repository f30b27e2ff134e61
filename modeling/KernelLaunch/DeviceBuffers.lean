import KernelLaunch.Direction
import KernelLaunch.Ecosystem
import KernelLaunch.NameMap

/-!
# Buffers on the device

A device buffer is known by its handle, a 64-bit value that belongs to one
ecosystem.  The buffers of a run are kept by name on two sides, and a name can be
in use on both of them.

**Results.**
* `get?_insert`: an insertion is seen under its own name on its own side alone.
* `get?_insertAll_of_mem`: of insertions at distinct places each is seen.
* `insert_comm`: insertions that differ in name or in side commute.
-/

namespace KernelLaunch

/-- The handle of an allocated device buffer. -/
structure BufferHandle where
  ecosystem : Ecosystem
  value : UInt64
  deriving DecidableEq

/-- Size of a stored handle as a launch argument, in either ecosystem. -/
def BufferHandle.size (_ : BufferHandle) : Nat := 8

/-- The device buffers of a run by side and name. -/
structure DeviceBuffers where
  inputs : NameMap BufferHandle := .empty
  outputs : NameMap BufferHandle := .empty
  deriving DecidableEq

namespace DeviceBuffers

section Operations

def empty : DeviceBuffers := {}

def onSide (b : DeviceBuffers) : Side → NameMap BufferHandle
  | .input => b.inputs
  | .output => b.outputs

/-- Stores a handle on the side its direction binds from. -/
def insert (b : DeviceBuffers) (name : String) (d : Direction) (h : BufferHandle) :
    DeviceBuffers :=
  match d.side with
  | .input => { b with inputs := b.inputs.insert name h }
  | .output => { b with outputs := b.outputs.insert name h }

/-- Stores handles from the first to the last. -/
def insertAll (b : DeviceBuffers) (es : List (String × Direction × BufferHandle)) :
    DeviceBuffers :=
  es.foldl (fun b e => b.insert e.1 e.2.1 e.2.2) b

/-- The place that an insertion is made at. -/
def place (e : String × Direction × BufferHandle) : Side × String :=
  (e.2.1.side, e.1)

/-- The handle that a parameter of the given name and direction is bound to. -/
def get? (b : DeviceBuffers) (name : String) (d : Direction) : Option BufferHandle :=
  (b.onSide d.side).get? name

end Operations

section Lemmas

theorem ext_onSide {a b : DeviceBuffers} (h : ∀ s, a.onSide s = b.onSide s) : a = b := by
  obtain ⟨ai, ao⟩ := a
  obtain ⟨bi, bo⟩ := b
  have hi : ai = bi := h .input
  have ho : ao = bo := h .output
  rw [hi, ho]

@[simp] theorem onSide_insert
    (b : DeviceBuffers) (name : String) (d : Direction) (h : BufferHandle) (s : Side) :
    (b.insert name d h).onSide s =
      if d.side = s then (b.onSide s).insert name h else b.onSide s := by
  cases d <;> cases s <;> rfl

/-- An insertion is seen under its own name on its own side alone. -/
theorem get?_insert
    (b : DeviceBuffers) (name other : String) (d e : Direction) (h : BufferHandle) :
    (b.insert name d h).get? other e =
      if d.side = e.side ∧ name = other then some h else b.get? other e := by
  unfold get?
  rw [onSide_insert]
  by_cases hside : d.side = e.side
  · by_cases hname : name = other <;> simp [hside, hname]
  · simp [hside]

theorem get?_insertAll_of_forall_ne
    {es : List (String × Direction × BufferHandle)}
    {name : String}
    {d : Direction}
    (h : ∀ e ∈ es, place e ≠ (d.side, name))
    (b : DeviceBuffers) :
    (b.insertAll es).get? name d = b.get? name d := by
  induction es generalizing b with
  | nil => rfl
  | cons e es ih =>
      have hhead : ¬(e.2.1.side = d.side ∧ e.1 = name) := fun ⟨hside, hname⟩ =>
        h e (by simp) (by rw [place, hside, hname])
      have htail : ∀ f ∈ es, place f ≠ (d.side, name) := fun f hf => h f (by simp [hf])
      calc (b.insertAll (e :: es)).get? name d
          = ((b.insert e.1 e.2.1 e.2.2).insertAll es).get? name d := rfl
        _ = (b.insert e.1 e.2.1 e.2.2).get? name d := ih htail _
        _ = b.get? name d := by rw [get?_insert, if_neg hhead]

/-- Of insertions at distinct places each is seen, whatever was there before. -/
theorem get?_insertAll_of_mem
    {es : List (String × Direction × BufferHandle)}
    (hdistinct : (es.map place).Nodup)
    {e : String × Direction × BufferHandle}
    (he : e ∈ es)
    (b : DeviceBuffers) :
    (b.insertAll es).get? e.1 e.2.1 = some e.2.2 := by
  induction es generalizing b with
  | nil => cases he
  | cons f es ih =>
      obtain ⟨hhead, htail⟩ := List.nodup_cons.1 hdistinct
      rcases List.mem_cons.1 he with rfl | he
      -- No later insertion is made at the place of the first.
      · have hlater : ∀ f ∈ es, place f ≠ place e := fun f hf hplace =>
          hhead (hplace ▸ List.mem_map_of_mem hf)
        calc (b.insertAll (e :: es)).get? e.1 e.2.1
            = ((b.insert e.1 e.2.1 e.2.2).insertAll es).get? e.1 e.2.1 := rfl
          _ = (b.insert e.1 e.2.1 e.2.2).get? e.1 e.2.1 := get?_insertAll_of_forall_ne hlater _
          _ = some e.2.2 := by rw [get?_insert, if_pos ⟨rfl, rfl⟩]
      · exact ih htail he _

/-- Insertions that differ in name or in side commute. -/
theorem insert_comm
    (b : DeviceBuffers)
    {m n : String}
    {d e : Direction}
    (h : m ≠ n ∨ d.side ≠ e.side)
    (x y : BufferHandle) :
    (b.insert m d x).insert n e y = (b.insert n e y).insert m d x := by
  apply ext_onSide
  intro s
  simp only [onSide_insert]
  by_cases hd : d.side = s
  · by_cases he : e.side = s
    · have hne : m ≠ n := by
        rcases h with h | h
        · exact h
        · exact absurd (hd.trans he.symm) h
      simp only [hd, he, if_true]
      apply NameMap.ext_get?
      intro name
      simp only [NameMap.get?_insert]
      by_cases hm : m = name
      · have hn : ¬n = name := fun e => hne (hm.trans e.symm)
        simp [hm, hn]
      · simp [hm]
    · simp [hd, he]
  · simp [hd]

end Lemmas

end DeviceBuffers

end KernelLaunch
