import KernelLaunch.Proofs.SettingFaults
import KernelLaunch.Settings.Environment

/-!
# Options from an environment

An environment holds bytes, and options are read from text.  A variable whose bytes are the
encoding of a text has that value, which must be usable and is then the one that is found in
the options.  A variable whose bytes are not the encoding of any text counts as not set: it is
set, and yet its option has the default.

    GKR_RUNS=3          bytes 33                     three runs
    GKR_RUNS=x          bytes 78                     refused
    GKR_ECOSYSTEM       bytes 6F 70 65 6E 63 6C FF   ignored

**Results.**
* `toVariables_eq_some_iff`, `toVariables_unset`: which variables have a value.
* `Setting.yields_of_denoted`: each option follows from the value of its variable.
* `readsText_ofVariables`: which environments are read, and which variables are ignored.
* `not_heeds_strayByte`: a variable that is set can be ignored.
-/

namespace KernelLaunch

namespace Setting

variable {vars : Variables} {o : RunOptions}

/-- The option that belongs to the variable is what the value denotes, and the default without a
value. -/
def Yields (o : RunOptions) (value : Option String) : Setting → Prop
  | .ecosystem => OptionOf DenotesEcosystem .cuda value o.ecosystem
  | .platform => OptionOf (Given DenotesU32) none value o.platform
  | .device => OptionOf DenotesU32 0 value o.device
  | .runs => OptionOf DenotesRuns 1 value o.runs
  | .definitions => OptionOf DenotesDefinitions .empty value o.definitions
  | .grid => OptionOf (Given DenotesDimensions) none value o.forced.grid
  | .overall => OptionOf (Given DenotesDimensions) none value o.forced.overall
  | .block => OptionOf (Given DenotesDimensions) none value o.forced.block
  | .sharedMemory => OptionOf (Given DenotesU32) none value o.forced.sharedMemory

/-- Each option follows from the value of its variable. -/
theorem yields_of_denoted (h : o.Denoted vars) (s : Setting) : s.Yields o (vars s.name) := by
  cases s with
  | ecosystem => exact h.ecosystem
  | platform => exact h.platform
  | device => exact h.device
  | runs => exact h.runs
  | definitions => exact h.definitions
  | grid => exact h.grid
  | overall => exact h.overall
  | block => exact h.block
  | sharedMemory => exact h.sharedMemory

end Setting

namespace Environment

section Text

variable {env : Environment} {name text : String} {bytes : ByteArray}

/-- The bytes are the encoding of a text. -/
def IsText (bytes : ByteArray) : Prop :=
  ∃ text : String, bytes = text.toUTF8

theorem fromUTF8?_eq_some_iff : String.fromUTF8? bytes = some text ↔ bytes = text.toUTF8 := by
  rw [String.fromUTF8?]
  constructor
  · intro h
    split at h
    · cases h
      rfl
    · cases h
  · intro h
    subst h
    exact dif_pos text.isValidUTF8

theorem fromUTF8?_eq_none_iff : String.fromUTF8? bytes = none ↔ ¬IsText bytes := by
  rw [Option.eq_none_iff_forall_ne_some, IsText]
  simp only [ne_eq, fromUTF8?_eq_some_iff, not_exists]

/-- A variable has a value exactly if its bytes are the encoding of that. -/
theorem toVariables_eq_some_iff : env.toVariables name = some text ↔
    env name = some text.toUTF8 := by
  simp only [toVariables, Option.bind_eq_some_iff, fromUTF8?_eq_some_iff, exists_eq_right]

/-- A variable whose bytes are no text has no value. -/
theorem toVariables_of_not_isText (hset : env name = some bytes) (hbytes : ¬IsText bytes) :
    env.toVariables name = none := by
  rw [toVariables_eq_none_iff]
  intro other hother
  obtain rfl : bytes = other := Option.some.inj (hset.symm.trans hother)
  exact fromUTF8?_eq_none_iff.2 hbytes

/-- The environment without one of its variables. -/
def unset (env : Environment) (name : String) : Environment :=
  fun n => if n = name then none else env n

/-- Without a variable whose bytes are no text all values are the same. -/
theorem toVariables_unset (hset : env name = some bytes) (hbytes : ¬IsText bytes) :
    (env.unset name).toVariables = env.toVariables := by
  funext n
  by_cases hn : n = name
  · subst hn
    rw [toVariables_of_not_isText hset hbytes, toVariables, unset, if_pos rfl]
    rfl
  · rw [toVariables, toVariables, unset, if_neg hn]

end Text

section Options

variable {env : Environment} {o : RunOptions}

/-- Each variable that is set holds a usable value, which is the one that is found in the
options. -/
def Heeds (env : Environment) (o : RunOptions) : Prop :=
  ∀ (s : Setting) bytes, env s.name = some bytes →
    ∃ text : String, bytes = text.toUTF8 ∧ s.Usable text ∧ s.Yields o (some text)

/-- Which environments options are read from, and what each option follows from. -/
structure ReadsText (env : Environment) : Prop where
  accepts : (∃ o, RunOptions.ofVariables env.toVariables = .ok o) ↔
    ∀ (s : Setting) (text : String), env s.name = some text.toUTF8 → s.Usable text
  found : ∀ o, RunOptions.ofVariables env.toVariables = .ok o →
    ∀ (s : Setting) (text : String), env s.name = some text.toUTF8 →
      s.Usable text ∧ s.Yields o (some text)
  /-- A variable whose bytes are no text leaves its option at the default. -/
  ignored : ∀ o, RunOptions.ofVariables env.toVariables = .ok o →
    ∀ (s : Setting) bytes, env s.name = some bytes → ¬IsText bytes → s.Yields o none
  /-- It makes no difference to success and failure either. -/
  dropped : ∀ name bytes, env name = some bytes → ¬IsText bytes →
    RunOptions.ofVariables (env.unset name).toVariables =
      RunOptions.ofVariables env.toVariables
  heeds_iff : ∀ o, RunOptions.ofVariables env.toVariables = .ok o →
    (Heeds env o ↔ ∀ (s : Setting) bytes, env s.name = some bytes → IsText bytes)

theorem exists_ofVariables_toVariables_iff :
    (∃ o, RunOptions.ofVariables env.toVariables = .ok o) ↔
      ∀ (s : Setting) (text : String), env s.name = some text.toUTF8 → s.Usable text := by
  rw [Setting.exists_ofVariables_iff]
  simp only [toVariables_eq_some_iff]

theorem yields_of_ofVariables
    (ho : RunOptions.ofVariables env.toVariables = .ok o)
    (s : Setting) :
    s.Yields o (env.toVariables s.name) :=
  Setting.yields_of_denoted (ofVariables_eq_ok_iff.1 ho) s

/-- What a variable holds that is read is usable, and is found in the options. -/
theorem usable_of_ofVariables
    (ho : RunOptions.ofVariables env.toVariables = .ok o)
    {s : Setting}
    {text : String}
    (hset : env s.name = some text.toUTF8) :
    s.Usable text ∧ s.Yields o (some text) := by
  have hyields := yields_of_ofVariables ho s
  rw [toVariables_eq_some_iff.2 hset] at hyields
  exact ⟨exists_ofVariables_toVariables_iff.1 ⟨o, ho⟩ s text hset, hyields⟩

theorem heeds_iff_isText (ho : RunOptions.ofVariables env.toVariables = .ok o) :
    Heeds env o ↔ ∀ (s : Setting) bytes, env s.name = some bytes → IsText bytes := by
  constructor
  · intro h s bytes hset
    obtain ⟨text, hbytes, _⟩ := h s bytes hset
    exact ⟨text, hbytes⟩
  · intro h s bytes hset
    obtain ⟨text, hbytes⟩ := h s bytes hset
    subst hbytes
    exact ⟨text, rfl, usable_of_ofVariables ho hset⟩

/-- Options are read from an environment exactly if every text in it is usable, and each text is
found in them.  Bytes that are no text are ignored, so no variable that is set is ignored
exactly if all of them hold texts. -/
theorem readsText_ofVariables (env : Environment) : ReadsText env where
  accepts := exists_ofVariables_toVariables_iff
  found := fun _ ho _ _ hset => usable_of_ofVariables ho hset
  ignored := by
    intro o ho s bytes hset hbytes
    have hyields := yields_of_ofVariables ho s
    rwa [toVariables_of_not_isText hset hbytes] at hyields
  dropped := by
    intro name bytes hset hbytes
    rw [toVariables_unset hset hbytes]
  heeds_iff := fun _ => heeds_iff_isText

/-- An ecosystem with a byte that is no part of a text, and three runs. -/
def strayByte : Environment := fun name =>
  findEntry name
    [("GKR_KERNEL", "saxpy".toUTF8),
      ("GKR_ECOSYSTEM", ⟨#[0x6F, 0x70, 0x65, 0x6E, 0x63, 0x6C, 0xFF]⟩),
      ("GKR_RUNS", "3".toUTF8)]

/-- The ecosystem is set, but the options have the default one. -/
theorem not_heeds_strayByte :
    RunOptions.ofVariables strayByte.toVariables = .ok { kernelKey := "saxpy", runs := 3 } ∧
      strayByte Setting.ecosystem.name =
        some ⟨#[0x6F, 0x70, 0x65, 0x6E, 0x63, 0x6C, 0xFF]⟩ ∧
      ¬Heeds strayByte { kernelKey := "saxpy", runs := 3 } := by
  have hbytes : ¬IsText ⟨#[0x6F, 0x70, 0x65, 0x6E, 0x63, 0x6C, 0xFF]⟩ :=
    fromUTF8?_eq_none_iff.1 (by decide)
  refine ⟨by rfl, by rfl, ?_⟩
  intro h
  obtain ⟨text, heq, _⟩ := h .ecosystem _ rfl
  exact hbytes ⟨text, heq⟩

end Options

end Environment

end KernelLaunch
