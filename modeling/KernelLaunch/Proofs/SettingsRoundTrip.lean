import KernelLaunch.Proofs.SettingValues
import Mathlib.Data.List.Perm.Basic

/-!
# Options written as variables

Options of a run can be handed over as variables and are read back as they were.
`RunOptions.entries` writes them: names as they are, numbers in decimal, dimensions with
commas, and the definitions as terms with blanks between them, in any order.  What is left open
is not set.

Definitions keep their names and values only if no blank and no equality sign is mistaken for
the end of one: names must be those of the grammar, and values must have no blanks.  They may
be empty or hold equality signs, and a name can be written both with and without a value.

**Results.**
* `holds_toVariables`: what each variable of the written options holds.
* `Holds.denoted`: the values that are written denote the options.
* `ofVariables_toVariables`: written options are read back.
-/

namespace KernelLaunch

section Texts

theorem isPaddedNumeral_decimalText (n : Nat) :
    Text.IsPaddedNumeral (Text.decimalText n).toList n := by
  rw [Text.toList_decimalText]
  exact (Text.isPadded_self _).isPaddedNumeral

theorem denotesU32_decimalText (n : UInt32) : DenotesU32 (Text.decimalText n.toNat) n :=
  isPaddedNumeral_decimalText n.toNat

theorem denotesRuns_decimalText {n : UInt64} (hn : 1 ≤ n.toNat) :
    DenotesRuns (Text.decimalText n.toNat) n :=
  ⟨isPaddedNumeral_decimalText n.toNat, hn⟩

theorem denotesEcosystem_name (e : Ecosystem) : DenotesEcosystem e.name e := by
  refine ⟨e.name.toList, Text.isPadded_self _, ?_⟩
  cases e with
  | cuda => exact .cuda
  | openCl => exact .opencl

theorem denotesDimensions_commaText {d : Dimensions} (hd : d.IsPositive) :
    DenotesDimensions d.commaText d := by
  have hread := Dimensions.parse_eq_ok_iff.1 (Dimensions.parse_commaText hd)
  exact ⟨_, Dimensions.partsOf_iff.2 rfl, hread⟩

/-- The term of a definition is a word if its name is one and no blank is in its value. -/
theorem text_isWord
    {x : Definition}
    (hname : Definition.IsName x.name.toList)
    (hvalue : ∀ n v, x = .valued n v → ∀ c ∈ v.toList, Text.isBlank c = false) :
    x.text.toList ≠ [] ∧ ∀ c ∈ x.text.toList, Text.isBlank c = false := by
  have hne : x.name.toList ≠ [] := by
    intro hnil
    rw [hnil] at hname
    cases hname
  have hclean : ∀ c ∈ x.name.toList, Text.isBlank c = false := hname.not_blank
  cases x with
  | flag n => exact ⟨hne, hclean⟩
  | valued n v =>
      have htext : (Definition.valued n v).text.toList = n.toList ++ '=' :: v.toList := by
        simp [Definition.text, String.toList_append]
      rw [htext]
      refine ⟨by simp, fun c hc => ?_⟩
      rcases List.mem_append.1 hc with hc | hc
      · exact hclean c hc
      · rcases List.mem_cons.1 hc with rfl | hc
        · decide
        · exact hvalue n v rfl c hc

/-- The terms of definitions can be written in any order with blanks between them. -/
theorem denotesDefinitions_joinFields
    {d : Definitions}
    {terms : List String}
    (hnames : ∀ x ∈ d.toList, Definition.IsName x.name.toList)
    (hvalues : ∀ n v, .valued n v ∈ d.toList → ∀ c ∈ v.toList, Text.isBlank c = false)
    (hterms : terms.Perm (d.toList.map Definition.text)) :
    DenotesDefinitions (String.ofList (Text.joinFields ' ' (terms.map String.toList))) d := by
  -- The terms in their order are those of the definitions in some order.
  obtain ⟨xs, rfl, hperm⟩ :=
    (congrFun₂ (List.eq_map_comp_perm Definition.text) terms d.toList).mpr hterms
  refine ⟨xs, ?_, fun x hx => hnames x (hperm.mem_iff.1 hx),
    (Definitions.addAll_of_mem_iff fun x => hperm.mem_iff).symm⟩
  rw [String.toList_ofList, List.map_map, Text.isWords_iff]
  apply Text.words_joinFields (by decide)
  intro w hw
  obtain ⟨x, hx, rfl⟩ := List.mem_map.1 hw
  have hmem := hperm.mem_iff.1 hx
  exact text_isWord (hnames x hmem) fun n v hvalued => hvalues n v (hvalued ▸ hmem)

end Texts

namespace RunOptions

section Writing

/-- A variable, if there is a value for it. -/
def optionalEntry (name : String) (value : Option String) : List (String × String) :=
  value.toList.map fun v => (name, v)

/-- The variables that hold the options, with the definition terms in the given order. -/
def entries (o : RunOptions) (terms : List String) : List (String × String) :=
  [("GKR_KERNEL", o.kernelKey)] ++
    optionalEntry "GKR_FUNCTION" o.functionName ++
    [("GKR_ECOSYSTEM", o.ecosystem.name)] ++
    optionalEntry "GKR_PLATFORM" (o.platform.map fun n => Text.decimalText n.toNat) ++
    [("GKR_DEVICE", Text.decimalText o.device.toNat),
      ("GKR_RUNS", Text.decimalText o.runs.toNat),
      ("GKR_DEFINES", String.ofList (Text.joinFields ' ' (terms.map String.toList)))] ++
    optionalEntry "GKR_GRID" (o.forced.grid.map Dimensions.commaText) ++
    optionalEntry "GKR_OVERALL_GRID" (o.forced.overall.map Dimensions.commaText) ++
    optionalEntry "GKR_BLOCK" (o.forced.block.map Dimensions.commaText) ++
    optionalEntry "GKR_DYNAMIC_SHMEM"
      (o.forced.sharedMemory.map fun n => Text.decimalText n.toNat)

def terms (o : RunOptions) : List String :=
  o.definitions.toList.map Definition.text

/-- The source in which exactly the variables of the options are set. -/
def toVariables (o : RunOptions) (terms : List String) : Variables :=
  fun name => findEntry name (o.entries terms)

end Writing

variable {o : RunOptions} {vars : Variables} {terms : List String}

section Written

/-- The variables hold the options, and hold nothing for what is left open. -/
structure Holds (o : RunOptions) (terms : List String) (vars : Variables) : Prop where
  kernelKey : vars "GKR_KERNEL" = some o.kernelKey
  functionName : vars "GKR_FUNCTION" = o.functionName
  ecosystem : vars "GKR_ECOSYSTEM" = some o.ecosystem.name
  platform : vars "GKR_PLATFORM" = o.platform.map fun n => Text.decimalText n.toNat
  device : vars "GKR_DEVICE" = some (Text.decimalText o.device.toNat)
  runs : vars "GKR_RUNS" = some (Text.decimalText o.runs.toNat)
  definitions : vars "GKR_DEFINES" =
    some (String.ofList (Text.joinFields ' ' (terms.map String.toList)))
  grid : vars "GKR_GRID" = o.forced.grid.map Dimensions.commaText
  overall : vars "GKR_OVERALL_GRID" = o.forced.overall.map Dimensions.commaText
  block : vars "GKR_BLOCK" = o.forced.block.map Dimensions.commaText
  sharedMemory : vars "GKR_DYNAMIC_SHMEM" =
    o.forced.sharedMemory.map fun n => Text.decimalText n.toNat

theorem findEntry_optionalEntry (name n : String) (value : Option String) :
    findEntry name (optionalEntry n value) = if n = name then value else none := by
  cases value <;> simp [findEntry, optionalEntry]

theorem holds_toVariables (o : RunOptions) (terms : List String) :
    o.Holds terms (o.toVariables terms) := by
  constructor <;>
    simp [toVariables, entries, findEntry_append, findEntry_optionalEntry, findEntry]

end Written

section RoundTrip

/-- Options that can be written: there is a run, no axis is zero, the definitions have names of
the grammar and their values have no blanks. -/
structure Writable (o : RunOptions) : Prop where
  runs : 1 ≤ o.runs.toNat
  grid : ∀ d, o.forced.grid = some d → d.IsPositive
  overall : ∀ d, o.forced.overall = some d → d.IsPositive
  block : ∀ d, o.forced.block = some d → d.IsPositive
  names : ∀ x ∈ o.definitions.toList, Definition.IsName x.name.toList
  values : ∀ n v, .valued n v ∈ o.definitions.toList → ∀ c ∈ v.toList, Text.isBlank c = false

/-- An option that is written if it is given is read as given. -/
theorem optionOf_map
    {α : Type}
    {Denotes : String → α → Prop}
    {write : α → String}
    {a : Option α}
    (h : ∀ b, a = some b → Denotes (write b) b) :
    OptionOf (Given Denotes) none (a.map write) a := by
  cases a with
  | none => rfl
  | some b => exact ⟨b, rfl, h b rfl⟩

/-- The values that are written denote the options. -/
theorem Holds.denoted
    (hvars : o.Holds terms vars)
    (ho : o.Writable)
    (hterms : terms.Perm o.terms) :
    o.Denoted vars where
  kernelKey := hvars.kernelKey ▸ rfl
  functionName := optionOf_eq_self.2 hvars.functionName.symm
  ecosystem := hvars.ecosystem ▸ denotesEcosystem_name o.ecosystem
  platform := hvars.platform ▸ optionOf_map fun n _ => denotesU32_decimalText n
  device := hvars.device ▸ denotesU32_decimalText o.device
  runs := hvars.runs ▸ denotesRuns_decimalText ho.runs
  definitions := hvars.definitions ▸ denotesDefinitions_joinFields ho.names ho.values hterms
  grid := hvars.grid ▸ optionOf_map fun d hd => denotesDimensions_commaText (ho.grid d hd)
  overall := hvars.overall ▸ optionOf_map fun d hd =>
    denotesDimensions_commaText (ho.overall d hd)
  block := hvars.block ▸ optionOf_map fun d hd => denotesDimensions_commaText (ho.block d hd)
  sharedMemory := hvars.sharedMemory ▸ optionOf_map fun n _ => denotesU32_decimalText n

/-- Written options are read back, in whichever order their terms are written. -/
theorem ofVariables_toVariables (ho : o.Writable) (hterms : terms.Perm o.terms) :
    ofVariables (o.toVariables terms) = .ok o :=
  ofVariables_eq_ok_iff.2 ((holds_toVariables o terms).denoted ho hterms)

/-- Options with the largest numbers, a name that is defined with and without a value, an
equality sign in a value, an empty value, and no grid. -/
def boundaryOptions : RunOptions :=
  { kernelKey := " histogram "
    functionName := some ""
    ecosystem := .openCl
    platform := some 4294967295
    runs := 18446744073709551615
    forced := { overall := some ⟨1000, 1, 4294967295⟩, block := some ⟨64, 2, 1⟩ }
    definitions :=
      (((Definitions.empty.withValue "NUM_BINS" "a=b").withFlag "USE_SHARED_MEMORY").withValue
        "_E" "").withFlag "NUM_BINS" }

theorem ofVariables_toVariables_boundary :
    boundaryOptions.Writable ∧
      ["NUM_BINS=a=b", "USE_SHARED_MEMORY", "_E=", "NUM_BINS"].Perm boundaryOptions.terms ∧
      ofVariables (boundaryOptions.toVariables
        ["NUM_BINS=a=b", "USE_SHARED_MEMORY", "_E=", "NUM_BINS"]) = .ok boundaryOptions := by
  have hlist : boundaryOptions.definitions.toList =
      [.flag "NUM_BINS", .flag "USE_SHARED_MEMORY", .valued "NUM_BINS" "a=b",
        .valued "_E" ""] := by decide
  have hwritable : boundaryOptions.Writable :=
    { runs := by decide
      grid := by simp [boundaryOptions]
      overall := by
        rintro d hd
        cases hd
        decide
      block := by
        rintro d hd
        cases hd
        decide
      names := by
        simp only [hlist, ← Definition.isIdentifier_iff]
        decide
      values := by
        rw [hlist]
        simp only [List.mem_cons, reduceCtorEq, false_or, Definition.valued.injEq,
          List.not_mem_nil, or_false]
        rintro n v (⟨rfl, rfl⟩ | ⟨rfl, rfl⟩) <;> simp [Text.isBlank] }
  have hterms : ["NUM_BINS=a=b", "USE_SHARED_MEMORY", "_E=", "NUM_BINS"].Perm
      boundaryOptions.terms := by
    rw [RunOptions.terms, hlist]
    decide
  exact ⟨hwritable, hterms, ofVariables_toVariables hwritable hterms⟩

end RoundTrip

end RunOptions

end KernelLaunch
