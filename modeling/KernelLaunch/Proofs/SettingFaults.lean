import KernelLaunch.Proofs.SettingValues

/-!
# Unusable values

A variable need not be set, but if it is its value must denote something.  The variables are
read in a fixed order, and what is reported is what the first unusable value leads to: neither
the values that are read before it nor those after it have a part in it.

A report shows the variable with its value, with two exceptions.  For a number of runs that is
zero it shows the value `0`, however zero is written, and for the definitions it shows the
bad term and no variable.

**Results.**
* `reported?_eq_none_iff`: nothing is reported for a variable that is unset or usable.
* `error?_ofVariables`: reading the options fails with the first report.
* `ofVariables_eq_error_iff`, `exists_ofVariables_iff`: what is reported comes from the first
  unusable variable, and nothing is if there is none.
* `readsUsable_ofVariables`: which sources are read, and what each option and each error
  follows from.
* `reportsValue_iff_of_error`: which errors show a variable with its value.
-/

namespace KernelLaunch

/-- The variables whose values must denote something. -/
inductive Setting
  | ecosystem
  | platform
  | device
  | runs
  | definitions
  | grid
  | overall
  | block
  | sharedMemory
  deriving DecidableEq, Repr

namespace Setting

section Reports

/-- All of them, in the order in which they are read. -/
def all : List Setting :=
  [.ecosystem, .platform, .device, .runs, .definitions, .grid, .overall, .block, .sharedMemory]

theorem mem_all (s : Setting) : s ∈ all := by
  cases s <;> simp [all]

def name : Setting → String
  | .ecosystem => "GKR_ECOSYSTEM"
  | .platform => "GKR_PLATFORM"
  | .device => "GKR_DEVICE"
  | .runs => "GKR_RUNS"
  | .definitions => "GKR_DEFINES"
  | .grid => "GKR_GRID"
  | .overall => "GKR_OVERALL_GRID"
  | .block => "GKR_BLOCK"
  | .sharedMemory => "GKR_DYNAMIC_SHMEM"

/-- The value denotes something. -/
def Usable : Setting → String → Prop
  | .ecosystem, value => ∃ e, DenotesEcosystem value e
  | .platform, value | .device, value | .sharedMemory, value => ∃ n, DenotesU32 value n
  | .runs, value => ∃ n, DenotesRuns value n
  | .definitions, value => ∃ d, DenotesDefinitions value d
  | .grid, value | .overall, value | .block, value => ∃ d, DenotesDimensions value d

/-- What reading the variable by itself reports. -/
def reported? (vars : Variables) (s : Setting) : Option SettingsError :=
  match s with
  | .ecosystem => error? (setting vars s.name readEcosystemSetting)
  | .platform | .device | .sharedMemory =>
      error? (setting vars s.name (readNumeralSetting Text.readU32))
  | .runs => error? (RunOptions.readRuns vars)
  | .definitions => error? (RunOptions.readDefinitions vars)
  | .grid | .overall | .block => error? (setting vars s.name readDimensionsSetting)

variable {vars vars' : Variables} {s : Setting}

/-- What is reported for a variable follows from its value alone. -/
theorem reported?_congr (h : vars s.name = vars' s.name) :
    s.reported? vars = s.reported? vars' := by
  cases s <;> simp only [reported?, setting, RunOptions.readRuns, RunOptions.readDefinitions]
  all_goals
    simp only [name] at h ⊢
    rw [h]

theorem exists_optionOf_iff
    {α : Type}
    {Denotes : String → α → Prop}
    {default : α}
    {x : Option String} :
    (∃ a, OptionOf Denotes default x a) ↔ ∀ value, x = some value → ∃ a, Denotes value a := by
  cases x <;> simp [OptionOf]

theorem error?_setting_eq_none_iff
    {α : Type}
    {name : String}
    {read : String → Except SettingFault α}
    {Denotes : String → α → Prop}
    (hread : ∀ value a, read (Text.trimmed value) = .ok a ↔ Denotes value a) :
    error? (setting vars name read) = none ↔
      ∀ value, vars name = some value → ∃ a, Denotes value a := by
  have hgiven : ∀ value, (∃ a, Given Denotes value a) ↔ ∃ b, Denotes value b := fun value =>
    ⟨fun ⟨_, b, _, hb⟩ => ⟨b, hb⟩, fun ⟨b, hb⟩ => ⟨some b, b, rfl, hb⟩⟩
  simp only [error?_eq_none_iff, setting_eq_ok_iff hread, exists_optionOf_iff, hgiven]

/-- Nothing is reported for a variable that is unset or usable. -/
theorem reported?_eq_none_iff :
    s.reported? vars = none ↔ ∀ value, vars s.name = some value → s.Usable value := by
  cases s with
  | ecosystem => exact error?_setting_eq_none_iff fun _ _ => readEcosystemSetting_eq_ok_iff
  | platform | device | sharedMemory =>
      exact error?_setting_eq_none_iff fun _ _ => readU32Setting_eq_ok_iff
  | grid | overall | block =>
      exact error?_setting_eq_none_iff fun _ _ => readDimensionsSetting_eq_ok_iff
  | runs =>
      simp only [reported?, error?_eq_none_iff, readRuns_eq_ok_iff, exists_optionOf_iff, name,
        Usable]
  | definitions =>
      simp only [reported?, error?_eq_none_iff, readDefinitions_eq_ok_iff, exists_optionOf_iff,
        name, Usable]

theorem error?_forced :
    error? (LaunchComponents.ofVariables vars) =
      [grid, overall, block, sharedMemory].findSome? (reported? vars) := by
  simp only [findSome?_cons_eq_or]
  exact error?_bind fun _ => error?_bind fun _ => error?_bind fun _ => error?_bind fun _ => rfl

/-- Reading the options fails with the first report. -/
theorem error?_ofVariables :
    error? (RunOptions.ofVariables vars) = all.findSome? (reported? vars) := by
  -- The forced parts are read by steps of their own, after which nothing can fail.
  have hlast : ∀ options : LaunchComponents → RunOptions,
      error? (LaunchComponents.ofVariables vars >>= fun forced => .ok (options forced)) =
        [grid, overall, block, sharedMemory].findSome? (reported? vars) := by
    intro options
    calc
      _ = (error? (LaunchComponents.ofVariables vars)).or none := error?_bind fun _ => rfl
      _ = _ := by rw [Option.or_none, error?_forced]
  simp only [all, findSome?_cons_eq_or] at hlast ⊢
  exact error?_bind fun _ => error?_bind fun _ => error?_bind fun _ => error?_bind fun _ =>
    error?_bind fun _ => hlast _

end Reports

section First

variable {vars vars' : Variables} {before : List Setting} {s : Setting} {value : String}

/-- The first of the variables, in the order in which they are read, that is set to an
unusable value. -/
structure FirstUnusable (vars : Variables) (before : List Setting) (s : Setting)
    (value : String) : Prop where
  order : ∃ after, all = before ++ s :: after
  isSet : vars s.name = some value
  unusable : ¬s.Usable value
  usable : ∀ t ∈ before, ∀ v, vars t.name = some v → t.Usable v

/-- What is reported for the options is what the first unusable variable leads to. -/
theorem ofVariables_eq_error_iff {e : SettingsError} :
    RunOptions.ofVariables vars = .error e ↔
      ∃ before s value, FirstUnusable vars before s value ∧ s.reported? vars = some e := by
  rw [← error?_eq_some_iff, error?_ofVariables, List.findSome?_eq_some_iff]
  constructor
  · rintro ⟨before, s, after, horder, hs, hbefore⟩
    have hbad : ¬∀ value, vars s.name = some value → s.Usable value := by
      rw [← reported?_eq_none_iff, hs]
      simp
    simp only [Classical.not_forall] at hbad
    obtain ⟨value, hset, hunusable⟩ := hbad
    exact ⟨before, s, value,
      { order := ⟨after, horder⟩
        isSet := hset
        unusable := hunusable
        usable := fun t ht => reported?_eq_none_iff.1 (hbefore t ht) }, hs⟩
  · rintro ⟨before, s, value, h, hs⟩
    obtain ⟨after, horder⟩ := h.order
    exact ⟨before, s, after, horder, hs, fun t ht => reported?_eq_none_iff.2 (h.usable t ht)⟩

/-- Variables that are read later have no part in which variable is first. -/
theorem FirstUnusable.congr
    (h : FirstUnusable vars before s value)
    (hagree : ∀ t ∈ before ++ [s], vars' t.name = vars t.name) :
    FirstUnusable vars' before s value where
  order := h.order
  isSet := (hagree s (by simp)).trans h.isSet
  unusable := h.unusable
  usable := fun t ht v hv => h.usable t ht v ((hagree t (by simp [ht])).symm.trans hv)

/-- The options can be read exactly if every variable is unset or usable. -/
theorem exists_ofVariables_iff :
    (∃ o, RunOptions.ofVariables vars = .ok o) ↔
      ∀ (s : Setting) value, vars s.name = some value → s.Usable value := by
  rw [← error?_eq_none_iff, error?_ofVariables, List.findSome?_eq_none_iff]
  simp only [mem_all, forall_const, reported?_eq_none_iff]

/-- Options are read from a source exactly if its variables are unset or usable, each from
its own variable.  If they cannot be read, the first unusable variable decides why. -/
structure ReadsUsable (vars : Variables) : Prop where
  accepts : (∃ o, RunOptions.ofVariables vars = .ok o) ↔
    ∀ (s : Setting) value, vars s.name = some value → s.Usable value
  denoted : ∀ o, RunOptions.ofVariables vars = .ok o → o.Denoted vars
  separate : ∀ o vars' o', RunOptions.ofVariables vars = .ok o →
    RunOptions.ofVariables vars' = .ok o' → AgreeByVariable vars vars' o o'
  refuses : ∀ e, RunOptions.ofVariables vars = .error e →
    ∃ before s value, FirstUnusable vars before s value ∧
      ∀ vars' : Variables, (∀ t ∈ before ++ [s], vars' t.name = vars t.name) →
        RunOptions.ofVariables vars' = .error e

theorem readsUsable_ofVariables (vars : Variables) : ReadsUsable vars where
  accepts := exists_ofVariables_iff
  denoted := fun _ ho => ofVariables_eq_ok_iff.1 ho
  separate := fun _ _ _ ho ho' =>
    (ofVariables_eq_ok_iff.1 ho).agree (ofVariables_eq_ok_iff.1 ho')
  refuses := by
    intro e he
    obtain ⟨before, s, value, hfirst, hs⟩ := ofVariables_eq_error_iff.1 he
    refine ⟨before, s, value, hfirst, fun vars' hagree => ?_⟩
    rw [ofVariables_eq_error_iff]
    exact ⟨before, s, value, hfirst.congr hagree,
      (reported?_congr (hagree s (by simp))).trans hs⟩

end First

section Shown

variable {vars : Variables} {s : Setting} {value : String} {e : SettingsError}

/-- What is reported for an unusable value. -/
inductive Reported : Setting → String → SettingsError → Prop
  | value {s : Setting} {value : String} (fault : SettingFault)
      (hterms : s ≠ .definitions)
      (hruns : s = .runs → ¬Text.IsPaddedNumeral value.toList 0) :
      Reported s value (.badValue s.name value fault)
  | noRuns {value : String}
      (hzero : Text.IsPaddedNumeral value.toList 0) :
      Reported .runs value (.badValue "GKR_RUNS" "0" .noRuns)
  | term {value : String} {ws : List (List Char)} {t : List Char}
      (hwords : Text.IsWords value.toList ws)
      (hmem : t ∈ ws)
      (hbad : ∀ x : Definition, Definition.IsName x.name.toList → x.text.toList ≠ t) :
      Reported .definitions value (.badDefinition ⟨String.ofList t⟩)

theorem reported_of_setting
    {α : Type}
    {read : String → Except SettingFault α}
    (hset : vars s.name = some value)
    (hterms : s ≠ .definitions)
    (hruns : s ≠ .runs)
    (h : error? (setting vars s.name read) = some e) :
    Reported s value e := by
  rw [error?_eq_some_iff, setting_eq_error_iff] at h
  obtain ⟨value', fault, hset', _, rfl⟩ := h
  rw [hset] at hset'
  cases hset'
  exact .value fault hterms fun hs => absurd hs hruns

theorem reported_of_readRuns
    (hset : vars "GKR_RUNS" = some value)
    (h : error? (RunOptions.readRuns vars) = some e) :
    Reported .runs value e := by
  rw [error?_eq_some_iff, RunOptions.readRuns, bind_eq_error_iff] at h
  rcases h with h | ⟨v, hv, hzero⟩
  -- A text that is refused denotes no number, so it does not denote zero either.
  · rw [setting_eq_error_iff] at h
    obtain ⟨value', fault, hset', hread, rfl⟩ := h
    rw [hset] at hset'
    cases hset'
    refine .value fault (by simp) fun _ hnumeral => ?_
    rw [(readU64Setting_eq_ok_iff (n := 0)).2 hnumeral] at hread
    cases hread
  · cases v with
    | none => simp at hzero
    | some n =>
        obtain ⟨value', hset', hread⟩ := setting_eq_some_iff.1 hv
        rw [hset] at hset'
        cases hset'
        simp only [Option.getD_some] at hzero
        split at hzero
        · rename_i hn
          cases hzero
          cases hn
          exact .noRuns (readU64Setting_eq_ok_iff.1 hread)
        · cases hzero

theorem reported_of_readDefinitions
    (hset : vars "GKR_DEFINES" = some value)
    (h : error? (RunOptions.readDefinitions vars) = some e) :
    Reported .definitions value e := by
  simp only [RunOptions.readDefinitions, hset, error?_mapError, Option.map_eq_some_iff,
    error?_eq_some_iff] at h
  obtain ⟨f, hf, rfl⟩ := h
  obtain ⟨t, ht, hparse, rfl⟩ := Definitions.mem_of_defineAll_eq_error hf
  obtain ⟨w, hw, rfl⟩ := List.mem_map.1 ht
  refine .term (Text.isWords_words value.toList) hw fun x hname htext => ?_
  have hid : isIdentifier x.name.toList = true := Definition.isIdentifier_iff.2 hname
  rw [← htext, String.ofList_toList, Definition.parse_text hid] at hparse
  cases hparse

theorem reported_of_eq_some
    (hset : vars s.name = some value)
    (h : s.reported? vars = some e) :
    Reported s value e := by
  cases s with
  | runs => exact reported_of_readRuns hset h
  | definitions => exact reported_of_readDefinitions hset h
  | ecosystem | platform | device | grid | overall | block | sharedMemory =>
      exact reported_of_setting hset (by simp) (by simp) h

/-- The variables that may be set. -/
def documented : List String :=
  "GKR_KERNEL" :: "GKR_FUNCTION" :: all.map name

/-- The report shows a variable together with the value that it has. -/
def ReportsValue (vars : Variables) (e : SettingsError) : Prop :=
  ∃ name ∈ documented, ∃ value fault, vars name = some value ∧ e = .badValue name value fault

theorem Reported.reportsValue_iff
    (h : Reported s value e)
    (hset : vars s.name = some value) :
    ReportsValue vars e ↔
      s ≠ .definitions ∧
        (s = .runs → Text.IsPaddedNumeral value.toList 0 → value = "0") := by
  cases h with
  | value fault hterms hruns =>
      have hname : s.name ∈ documented := by simp [documented, mem_all]
      exact ⟨fun _ => ⟨hterms, fun hs hzero => absurd hzero (hruns hs)⟩,
        fun _ => ⟨s.name, hname, value, fault, hset, rfl⟩⟩
  | noRuns hzero =>
      constructor
      · rintro ⟨name, _, shown, fault, hshown, heq⟩
        cases heq
        exact ⟨by simp, fun _ _ => Option.some.inj (hset.symm.trans hshown)⟩
      · rintro ⟨_, hvalue⟩
        obtain rfl := hvalue rfl hzero
        exact ⟨"GKR_RUNS", by decide, "0", .noRuns, hset, rfl⟩
  | term hwords hmem hbad =>
      constructor
      · rintro ⟨name, _, shown, fault, _, heq⟩
        cases heq
      · rintro ⟨hterms, _⟩
        exact absurd rfl hterms

/-- What is reported shows the first unusable variable with its value, except for definitions
and for zero runs that are written otherwise than as `0`. -/
theorem reportsValue_iff_of_error (h : RunOptions.ofVariables vars = .error e) :
    ∃ before s value, FirstUnusable vars before s value ∧ Reported s value e ∧
      (ReportsValue vars e ↔
        s ≠ .definitions ∧
          (s = .runs → Text.IsPaddedNumeral value.toList 0 → value = "0")) := by
  obtain ⟨before, s, value, hfirst, hs⟩ := ofVariables_eq_error_iff.1 h
  have hreported := reported_of_eq_some hfirst.isSet hs
  exact ⟨before, s, value, hfirst, hreported, hreported.reportsValue_iff hfirst.isSet⟩

/-- No runs, between a good ecosystem and a bad term. -/
def zeroRuns : Variables := fun name =>
  findEntry name [("GKR_ECOSYSTEM", " OCL"), ("GKR_RUNS", "+00 "), ("GKR_DEFINES", "1BAD")]

/-- A term whose name starts with a digit. -/
def badTerm : Variables := fun name =>
  findEntry name [("GKR_RUNS", "2"), ("GKR_DEFINES", "N=8 1BAD")]

theorem reportsValue_iff_zeroRuns :
    RunOptions.ofVariables zeroRuns = .error (.badValue "GKR_RUNS" "0" .noRuns) ∧
      ∃ before s value, FirstUnusable zeroRuns before s value ∧
        Reported s value (.badValue "GKR_RUNS" "0" .noRuns) ∧
        (ReportsValue zeroRuns (.badValue "GKR_RUNS" "0" .noRuns) ↔
          s ≠ .definitions ∧
            (s = .runs → Text.IsPaddedNumeral value.toList 0 → value = "0")) :=
  ⟨by rfl, reportsValue_iff_of_error (by rfl)⟩

/-- Zero runs are shown with another value than they have, a bad term without its variable. -/
theorem not_reportsValue_of_error :
    (RunOptions.ofVariables zeroRuns = .error (.badValue "GKR_RUNS" "0" .noRuns) ∧
      ¬ReportsValue zeroRuns (.badValue "GKR_RUNS" "0" .noRuns)) ∧
    (RunOptions.ofVariables badTerm = .error (.badDefinition ⟨"1BAD"⟩) ∧
      ¬ReportsValue badTerm (.badDefinition ⟨"1BAD"⟩)) := by
  refine ⟨⟨by rfl, ?_⟩, ⟨by rfl, ?_⟩⟩
  · rintro ⟨name, _, value, fault, hset, heq⟩
    cases heq
    exact absurd hset (by decide)
  · rintro ⟨name, _, value, fault, _, heq⟩
    cases heq

end Shown

end Setting

end KernelLaunch
