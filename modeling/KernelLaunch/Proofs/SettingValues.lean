import KernelLaunch.Outcome
import KernelLaunch.Proofs.DefinitionTerms
import KernelLaunch.Settings.RunOptions

/-!
# What the values of variables denote

Each option is read from one variable.  What its value may be is said here by a relation of
the value and what it denotes, without the reader: a spelling in any case, a numeral, one to
three numerals with commas between them, or the terms of definitions, each with blanks around
it or without.  A reader accepts exactly the values that denote something, so the options are
those whose values denote them, and the default where there is no value.

**Results.**
* `readEcosystemSetting_eq_ok_iff`, `readNumeralSetting_eq_ok_iff`,
  `readDimensionsSetting_eq_ok_iff`, `defineAll_words_eq_ok_iff`: each reader accepts exactly
  what denotes something.
* `ofVariables_eq_ok_iff`: the options that are read are those that the values denote.
* `Denoted.agree`: each option follows from the value of its variable alone.
-/

namespace KernelLaunch

section Values

/-- The spellings of the ecosystems, in lower case. -/
inductive Spells : String → Ecosystem → Prop
  | cuda : Spells "cuda" .cuda
  | opencl : Spells "opencl" .openCl
  | ocl : Spells "ocl" .openCl
  | cl : Spells "cl" .openCl

/-- A spelling of the ecosystem in any ASCII case. -/
def DenotesEcosystem (value : String) (e : Ecosystem) : Prop :=
  ∃ word, Text.IsPadded value.toList word ∧ Spells (String.ofList (word.map Char.toLower)) e

/-- A numeral for a 32-bit number. -/
def DenotesU32 (value : String) (n : UInt32) : Prop :=
  Text.IsPaddedNumeral value.toList n.toNat

/-- A numeral for a positive 64-bit number. -/
def DenotesRuns (value : String) (n : UInt64) : Prop :=
  Text.IsPaddedNumeral value.toList n.toNat ∧ 0 < n.toNat

/-- One to three numerals with commas between them, none of them for zero. -/
def DenotesDimensions (value : String) (d : Dimensions) : Prop :=
  ∃ parts, Dimensions.PartsOf value parts ∧ Dimensions.AxesOf parts d ∧ d.IsPositive

/-- The terms of definitions, each of them a word and its name a name of the grammar. -/
def DenotesDefinitions (value : String) (d : Definitions) : Prop :=
  ∃ xs : List Definition, Text.IsWords value.toList (xs.map fun x => x.text.toList) ∧
    (∀ x ∈ xs, Definition.IsName x.name.toList) ∧ d = Definitions.empty.addAll xs

variable {α : Type}

/-- What an option is: the default without a value, and else what the value denotes. -/
def OptionOf (Denotes : String → α → Prop) (default : α) : Option String → α → Prop
  | none, a => a = default
  | some value, a => Denotes value a

/-- The option is given, as what the value denotes. -/
def Given (Denotes : String → α → Prop) (value : String) (a : Option α) : Prop :=
  ∃ b, a = some b ∧ Denotes value b

/-- A value denotes one thing at most. -/
def Unambiguous (Denotes : String → α → Prop) : Prop :=
  ∀ value a b, Denotes value a → Denotes value b → a = b

variable {Denotes : String → α → Prop}

theorem Unambiguous.given (h : Unambiguous Denotes) : Unambiguous (Given Denotes) := by
  rintro value _ _ ⟨a, rfl, ha⟩ ⟨b, rfl, hb⟩
  rw [h value a b ha hb]

/-- An option follows from the value of its variable alone. -/
theorem Unambiguous.optionOf
    (h : Unambiguous Denotes)
    {default a b : α}
    {x y : Option String}
    (hxy : x = y)
    (ha : OptionOf Denotes default x a)
    (hb : OptionOf Denotes default y b) :
    a = b := by
  subst hxy
  cases x with
  | none => exact Eq.trans ha (Eq.symm hb)
  | some value => exact h value a b ha hb

/-- Each option is what the value of its variable denotes, or else has its default. -/
structure RunOptions.Denoted (vars : Variables) (o : RunOptions) : Prop where
  kernelKey : OptionOf (fun value key => key = value) "" (vars "GKR_KERNEL") o.kernelKey
  functionName : OptionOf (fun value function => function = some value) none
    (vars "GKR_FUNCTION") o.functionName
  ecosystem : OptionOf DenotesEcosystem .cuda (vars "GKR_ECOSYSTEM") o.ecosystem
  platform : OptionOf (Given DenotesU32) none (vars "GKR_PLATFORM") o.platform
  device : OptionOf DenotesU32 0 (vars "GKR_DEVICE") o.device
  runs : OptionOf DenotesRuns 1 (vars "GKR_RUNS") o.runs
  definitions : OptionOf DenotesDefinitions .empty (vars "GKR_DEFINES") o.definitions
  grid : OptionOf (Given DenotesDimensions) none (vars "GKR_GRID") o.forced.grid
  overall : OptionOf (Given DenotesDimensions) none (vars "GKR_OVERALL_GRID") o.forced.overall
  block : OptionOf (Given DenotesDimensions) none (vars "GKR_BLOCK") o.forced.block
  sharedMemory : OptionOf (Given DenotesU32) none (vars "GKR_DYNAMIC_SHMEM")
    o.forced.sharedMemory

end Values

section Readers

variable {value : String}

theorem spells_iff {spelling : String} {e : Ecosystem} :
    Spells spelling e ↔ spelling ∈ e.spellings := by
  constructor
  · intro h
    cases h <;> simp [Ecosystem.spellings]
  · intro h
    cases e with
    | cuda =>
        simp only [Ecosystem.spellings, List.mem_singleton] at h
        exact h ▸ .cuda
    | openCl =>
        simp only [Ecosystem.spellings, List.mem_cons, List.not_mem_nil, or_false] at h
        rcases h with rfl | rfl | rfl
        · exact .opencl
        · exact .ocl
        · exact .cl

/-- The letters of a spelling are no blanks, whatever their case. -/
theorem not_blank_of_spells
    {word : List Char}
    {e : Ecosystem}
    (h : Spells (String.ofList (word.map Char.toLower)) e) :
    ∀ c ∈ word, Text.isBlank c = false := by
  have hlower : ∀ c ∈ word.map Char.toLower, Text.isBlank c = false := by
    generalize hspelling : String.ofList (word.map Char.toLower) = spelling at h
    rw [← String.toList_ofList (l := word.map Char.toLower), hspelling]
    cases h <;> simp [Text.isBlank]
  intro c hc
  rw [← Text.isBlank_toLower c]
  exact hlower c.toLower (List.mem_map_of_mem hc)

theorem readEcosystemSetting_eq_ok_iff {e : Ecosystem} :
    readEcosystemSetting (Text.trimmed value) = .ok e ↔ DenotesEcosystem value e := by
  rw [readEcosystemSetting, mapError_eq_ok_iff, Ecosystem.parse_eq_ok_iff, Text.toList_trimmed,
    Text.trim_trim, ← spells_iff]
  exact (Text.exists_isPadded_iff fun _ => not_blank_of_spells).symm

/-- Exactly the numerals are accepted, whichever numbers are read. -/
theorem readNumeralSetting_eq_ok_iff
    {α : Type}
    {read : List Char → Except Text.NumeralError α}
    {toNat : α → Nat}
    (hread : ∀ {cs a}, read cs = .ok a ↔ Text.IsNumeral cs (toNat a))
    {a : α} :
    readNumeralSetting read (Text.trimmed value) = .ok a ↔
      Text.IsPaddedNumeral value.toList (toNat a) := by
  rw [readNumeralSetting, mapError_eq_ok_iff, hread, Text.toList_trimmed,
    Text.isPaddedNumeral_iff]

theorem readU32Setting_eq_ok_iff {n : UInt32} :
    readNumeralSetting Text.readU32 (Text.trimmed value) = .ok n ↔ DenotesU32 value n :=
  readNumeralSetting_eq_ok_iff Text.readU32_eq_ok_iff

theorem readU64Setting_eq_ok_iff {n : UInt64} :
    readNumeralSetting Text.readU64 (Text.trimmed value) = .ok n ↔
      Text.IsPaddedNumeral value.toList n.toNat :=
  readNumeralSetting_eq_ok_iff Text.readU64_eq_ok_iff

theorem readDimensionsSetting_eq_ok_iff {d : Dimensions} :
    readDimensionsSetting (Text.trimmed value) = .ok d ↔ DenotesDimensions value d := by
  rw [readDimensionsSetting, mapError_eq_ok_iff, Dimensions.parse_eq_ok_iff, Text.toList_trimmed,
    Dimensions.axesOf_fields_trim_iff]
  simp only [DenotesDimensions, Dimensions.partsOf_iff, exists_eq_left']

/-- The words of a value are the terms of definitions exactly if each is read as its own. -/
theorem map_parse_words_iff {ws : List (List Char)} {xs : List Definition}
    (hws : ∀ w ∈ ws, ∀ c ∈ w, Text.isBlank c = false) :
    (ws.map String.ofList).map Definition.parse = xs.map Except.ok ↔
      ws = xs.map (fun x => x.text.toList) ∧ ∀ x ∈ xs, Definition.IsName x.name.toList := by
  induction ws generalizing xs with
  | nil => cases xs <;> simp
  | cons w ws ih =>
      cases xs with
      | nil => simp
      | cons x xs =>
          have hw : ∀ c ∈ (String.ofList w).toList, Text.isBlank c = false := by
            rw [String.toList_ofList]
            exact hws w (by simp)
          have htext : String.ofList w = x.text ↔ w = x.text.toList := by
            rw [← String.toList_inj, String.toList_ofList]
          simp only [List.map_cons, List.cons.injEq, List.forall_mem_cons,
            Definition.parse_eq_ok_iff_of_no_blank hw, Definition.isIdentifier_iff, htext,
            ih fun v hv => hws v (List.mem_cons_of_mem _ hv)]
          exact ⟨fun ⟨⟨hname, hx⟩, hxs, hnames⟩ => ⟨⟨hx, hxs⟩, hname, hnames⟩,
            fun ⟨⟨hx, hxs⟩, hname, hnames⟩ => ⟨⟨hname, hx⟩, hxs, hnames⟩⟩

theorem defineAll_words_eq_ok_iff {d : Definitions} :
    Definitions.empty.defineAll ((Text.words value.toList).map String.ofList) = .ok d ↔
      DenotesDefinitions value d := by
  have hwords := (Text.isWords_words value.toList).clean
  simp only [Definitions.defineAll_eq_ok_iff, map_parse_words_iff hwords, DenotesDefinitions,
    Text.isWords_iff, and_assoc]

end Readers

section Options

variable {α : Type} {vars : Variables} {name : String}
variable {read : String → Except SettingFault α} {Denotes : String → α → Prop}

theorem setting_eq_ok_iff
    (hread : ∀ value a, read (Text.trimmed value) = .ok a ↔ Denotes value a)
    {v : Option α} :
    setting vars name read = .ok v ↔ OptionOf (Given Denotes) none (vars name) v := by
  cases v with
  | none =>
      rw [setting_eq_none_iff]
      cases vars name <;> simp [OptionOf, Given]
  | some a =>
      rw [setting_eq_some_iff]
      cases vars name <;> simp [OptionOf, Given, hread]

/-- With a default for what is left open, an option is given or has the default. -/
theorem OptionOf.exists_getD_iff {default a : α} {x : Option String} :
    (∃ v, OptionOf (Given Denotes) none x v ∧ v.getD default = a) ↔
      OptionOf Denotes default x a := by
  cases x with
  | none => simp [OptionOf, eq_comm]
  | some value =>
      constructor
      · rintro ⟨_, ⟨b, rfl, hb⟩, rfl⟩
        exact hb
      · intro ha
        exact ⟨some a, ⟨a, rfl, ha⟩, rfl⟩

theorem optionOf_eq_getD {x : Option String} {default a : String} :
    OptionOf (fun value a => a = value) default x a ↔ a = x.getD default := by
  cases x <;> exact Iff.rfl

theorem optionOf_eq_self {x a : Option String} :
    OptionOf (fun value a => a = some value) none x a ↔ a = x := by
  cases x <;> exact Iff.rfl

theorem readRuns_eq_ok_iff {n : UInt64} :
    RunOptions.readRuns vars = .ok n ↔ OptionOf DenotesRuns 1 (vars "GKR_RUNS") n := by
  have hzero : ∀ m : UInt64, 0 < m.toNat ↔ m ≠ 0 := by
    intro m
    rw [Nat.pos_iff_ne_zero, ne_eq, ne_eq, ← UInt64.toNat_inj]
    rfl
  have hread : OptionOf DenotesRuns 1 (vars "GKR_RUNS") n ↔
      OptionOf (fun value n => Text.IsPaddedNumeral value.toList n.toNat) 1
        (vars "GKR_RUNS") n ∧ n ≠ 0 := by
    cases vars "GKR_RUNS" with
    | none =>
      simp only [OptionOf]
      exact ⟨fun h => ⟨h, by simp [h]⟩, fun h => h.1⟩
    | some value => simp only [OptionOf, DenotesRuns, hzero]
  rw [RunOptions.readRuns, bind_eq_ok_iff, hread, ← OptionOf.exists_getD_iff]
  simp only [setting_eq_ok_iff fun _ _ => readU64Setting_eq_ok_iff]
  constructor
  · rintro ⟨v, hv, hn⟩
    split at hn
    · cases hn
    · rename_i hne
      cases hn
      exact ⟨⟨v, hv, rfl⟩, hne⟩
  · rintro ⟨⟨v, hv, rfl⟩, hne⟩
    exact ⟨v, hv, if_neg hne⟩

theorem readDefinitions_eq_ok_iff {d : Definitions} :
    RunOptions.readDefinitions vars = .ok d ↔
      OptionOf DenotesDefinitions .empty (vars "GKR_DEFINES") d := by
  rw [RunOptions.readDefinitions]
  cases vars "GKR_DEFINES" with
  | none => simp [OptionOf, eq_comm]
  | some value => simp only [mapError_eq_ok_iff, defineAll_words_eq_ok_iff, OptionOf]

/-- The options that are read are those that the values denote. -/
theorem ofVariables_eq_ok_iff {o : RunOptions} :
    RunOptions.ofVariables vars = .ok o ↔ o.Denoted vars := by
  simp only [RunOptions.ofVariables, LaunchComponents.ofVariables, bind_eq_ok_iff,
    readRuns_eq_ok_iff, readDefinitions_eq_ok_iff,
    setting_eq_ok_iff fun _ _ => readU32Setting_eq_ok_iff,
    setting_eq_ok_iff fun _ _ => readDimensionsSetting_eq_ok_iff,
    setting_eq_ok_iff fun _ _ => readEcosystemSetting_eq_ok_iff]
  constructor
  · rintro ⟨ecosystem, hecosystem, platform, hplatform, device, hdevice, runs, hruns,
      definitions, hdefinitions, forced, ⟨grid, hgrid, overall, hoverall, block, hblock,
      sharedMemory, hsharedMemory, hforced⟩, ho⟩
    cases hforced
    cases ho
    exact
      { kernelKey := optionOf_eq_getD.2 rfl
        functionName := optionOf_eq_self.2 rfl
        ecosystem := OptionOf.exists_getD_iff.1 ⟨ecosystem, hecosystem, rfl⟩
        platform := hplatform
        device := OptionOf.exists_getD_iff.1 ⟨device, hdevice, rfl⟩
        runs := hruns
        definitions := hdefinitions
        grid := hgrid
        overall := hoverall
        block := hblock
        sharedMemory := hsharedMemory }
  · intro h
    obtain ⟨key, function, ecosystem, platform, device, runs,
      ⟨grid, overall, block, shared⟩, definitions⟩ := o
    obtain ⟨e, he, rfl⟩ := OptionOf.exists_getD_iff.2 h.ecosystem
    obtain ⟨d, hd, rfl⟩ := OptionOf.exists_getD_iff.2 h.device
    obtain rfl := optionOf_eq_getD.1 h.kernelKey
    obtain rfl := optionOf_eq_self.1 h.functionName
    exact ⟨e, he, platform, h.platform, d, hd, runs, h.runs, definitions, h.definitions, _,
      ⟨grid, h.grid, overall, h.overall, block, h.block, shared, h.sharedMemory, rfl⟩, rfl⟩

end Options

section Independence

/-- What one reader makes of values is unambiguous. -/
theorem unambiguous_of_read
    {ε α : Type}
    {read : String → Except ε α}
    {Denotes : String → α → Prop}
    (hread : ∀ value a, read value = .ok a ↔ Denotes value a) :
    Unambiguous Denotes := by
  intro value a b ha hb
  have hab := (hread value a).2 ha
  rw [(hread value b).2 hb] at hab
  cases hab
  rfl

theorem unambiguous_ecosystem : Unambiguous DenotesEcosystem :=
  unambiguous_of_read fun _ _ => readEcosystemSetting_eq_ok_iff

theorem unambiguous_u32 : Unambiguous DenotesU32 :=
  unambiguous_of_read fun _ _ => readU32Setting_eq_ok_iff

theorem unambiguous_runs : Unambiguous DenotesRuns :=
  fun value a b ha hb => unambiguous_of_read (fun _ _ => readU64Setting_eq_ok_iff) value a b
    ha.1 hb.1

theorem unambiguous_dimensions : Unambiguous DenotesDimensions :=
  unambiguous_of_read fun _ _ => readDimensionsSetting_eq_ok_iff

theorem unambiguous_definitions : Unambiguous DenotesDefinitions :=
  unambiguous_of_read fun _ _ => defineAll_words_eq_ok_iff

/-- Options whose variables have the same value in both sources are the same. -/
structure AgreeByVariable (vars vars' : Variables) (o o' : RunOptions) : Prop where
  kernelKey : vars "GKR_KERNEL" = vars' "GKR_KERNEL" → o.kernelKey = o'.kernelKey
  functionName : vars "GKR_FUNCTION" = vars' "GKR_FUNCTION" → o.functionName = o'.functionName
  ecosystem : vars "GKR_ECOSYSTEM" = vars' "GKR_ECOSYSTEM" → o.ecosystem = o'.ecosystem
  platform : vars "GKR_PLATFORM" = vars' "GKR_PLATFORM" → o.platform = o'.platform
  device : vars "GKR_DEVICE" = vars' "GKR_DEVICE" → o.device = o'.device
  runs : vars "GKR_RUNS" = vars' "GKR_RUNS" → o.runs = o'.runs
  definitions : vars "GKR_DEFINES" = vars' "GKR_DEFINES" → o.definitions = o'.definitions
  grid : vars "GKR_GRID" = vars' "GKR_GRID" → o.forced.grid = o'.forced.grid
  overall : vars "GKR_OVERALL_GRID" = vars' "GKR_OVERALL_GRID" →
    o.forced.overall = o'.forced.overall
  block : vars "GKR_BLOCK" = vars' "GKR_BLOCK" → o.forced.block = o'.forced.block
  sharedMemory : vars "GKR_DYNAMIC_SHMEM" = vars' "GKR_DYNAMIC_SHMEM" →
    o.forced.sharedMemory = o'.forced.sharedMemory

/-- Each option follows from the value of its variable alone. -/
theorem RunOptions.Denoted.agree
    {vars vars' : Variables}
    {o o' : RunOptions}
    (h : o.Denoted vars)
    (h' : o'.Denoted vars') :
    AgreeByVariable vars vars' o o' where
  kernelKey := fun heq => by
    rw [optionOf_eq_getD.1 h.kernelKey, optionOf_eq_getD.1 h'.kernelKey, heq]
  functionName := fun heq => by
    rw [optionOf_eq_self.1 h.functionName, optionOf_eq_self.1 h'.functionName, heq]
  ecosystem := fun heq => unambiguous_ecosystem.optionOf heq h.ecosystem h'.ecosystem
  platform := fun heq => unambiguous_u32.given.optionOf heq h.platform h'.platform
  device := fun heq => unambiguous_u32.optionOf heq h.device h'.device
  runs := fun heq => unambiguous_runs.optionOf heq h.runs h'.runs
  definitions := fun heq => unambiguous_definitions.optionOf heq h.definitions h'.definitions
  grid := fun heq => unambiguous_dimensions.given.optionOf heq h.grid h'.grid
  overall := fun heq => unambiguous_dimensions.given.optionOf heq h.overall h'.overall
  block := fun heq => unambiguous_dimensions.given.optionOf heq h.block h'.block
  sharedMemory := fun heq =>
    unambiguous_u32.given.optionOf heq h.sharedMemory h'.sharedMemory

end Independence

end KernelLaunch
