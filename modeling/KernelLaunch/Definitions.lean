import KernelLaunch.NameMap
import KernelLaunch.Text.Split

/-!
# Preprocessor definitions

A kernel is compiled with flags, which are names alone, and with valued
definitions.  A term `NAME` stands for a flag and `NAME=VALUE` for a valued
definition, where the first `=` divides the term.  Names are identifiers; blanks
around a name are dropped, a value is kept as it is.

The same name can be a flag and have a value.

**Results.**
* `parse_text`: what a definition is written as is read back.
* `parse_eq_flag_iff`, `parse_eq_valued_iff`: a term is accepted exactly if its name is an
  identifier.
* `isDefined_add`, `value?_add`: what one more definition changes.
* `defineAll_eq_ok_iff`: terms are read exactly if each of them is good.
* `addAll_of_mem_iff`: definitions are put together again from their list in any order.
-/

namespace KernelLaunch

section Identifiers

/-- The characters an identifier may start with. -/
def isNameStart (c : Char) : Bool := c.isAlpha || c == '_'

/-- The characters of an identifier. -/
def isNameChar (c : Char) : Bool := c.isAlphanum || c == '_'

/-- Whether a text is an identifier of ASCII letters, digits and underscores. -/
def isIdentifier : List Char → Bool
  | [] => false
  | c :: cs => isNameStart c && cs.all isNameChar

theorem isNameChar_clean {c : Char} (h : isNameChar c = true) :
    Text.isBlank c = false ∧ c ≠ '=' := by
  constructor
  · unfold isNameChar Char.isAlphanum Char.isAlpha Char.isUpper Char.isLower Char.isDigit at h
    unfold Text.isBlank
    simp only [Bool.or_eq_true, Bool.and_eq_true, decide_eq_true_eq, beq_iff_eq] at h
    simp only [Bool.or_eq_false_iff, Bool.and_eq_false_iff, decide_eq_false_iff_not,
      beq_eq_false_iff_ne]
    rcases h with h | rfl
    · have hv : c.toNat = c.val.toNat := rfl
      simp only [UInt32.le_iff_toNat_le, ge_iff_le] at h
      rw [hv]
      have e1 : 'A'.val.toNat = 65 := rfl
      have e2 : 'Z'.val.toNat = 90 := rfl
      have e3 : 'a'.val.toNat = 97 := rfl
      have e4 : 'z'.val.toNat = 122 := rfl
      have e5 : '0'.val.toNat = 48 := rfl
      have e6 : '9'.val.toNat = 57 := rfl
      omega
    · decide
  · rintro rfl
    exact absurd h (by decide)

theorem isNameChar_of_mem {cs : List Char} (h : isIdentifier cs = true) :
    ∀ c ∈ cs, isNameChar c = true := by
  cases cs with
  | nil => simp
  | cons d ds =>
      simp only [isIdentifier, Bool.and_eq_true, List.all_eq_true] at h
      intro c hc
      rcases List.mem_cons.1 hc with rfl | hc
      · have hstart := h.1
        simp only [isNameStart, isNameChar, Char.isAlphanum, Bool.or_eq_true] at hstart ⊢
        rcases hstart with hstart | hstart
        · exact Or.inl (Or.inl hstart)
        · exact Or.inr hstart
      · exact h.2 c hc

theorem trim_of_isIdentifier {cs : List Char} (h : isIdentifier cs = true) :
    Text.trim cs = cs :=
  Text.trim_of_no_blank fun c hc => (isNameChar_clean (isNameChar_of_mem h c hc)).1

theorem notMem_of_isIdentifier {cs : List Char} (h : isIdentifier cs = true) : '=' ∉ cs :=
  fun hc => (isNameChar_clean (isNameChar_of_mem h '=' hc)).2 rfl

end Identifiers

/-- One preprocessor definition. -/
inductive Definition
  | flag (name : String)
  | valued (name value : String)
  deriving DecidableEq, Repr

/-- A term that is no definition; it is kept as given. -/
structure DefinitionError where
  text : String
  deriving DecidableEq, Repr

def DefinitionError.message (e : DefinitionError) : String :=
  s!"invalid preprocessor definition '{e.text}'"

namespace Definition

section Terms

def name : Definition → String
  | .flag n => n
  | .valued n _ => n

/-- The term a definition is written as. -/
def text : Definition → String
  | .flag n => n
  | .valued n v => n ++ "=" ++ v

/-- Reads a term. -/
def parse (s : String) : Except DefinitionError Definition :=
  match Text.splitFirst '=' s.toList with
  | none =>
      if isIdentifier (Text.trim s.toList) then .ok (.flag (Text.trimmed s))
      else .error ⟨s⟩
  | some (before, after) =>
      if isIdentifier (Text.trim before) then
        .ok (.valued (String.ofList (Text.trim before)) (String.ofList after))
      else .error ⟨s⟩

/-- A term is read as a flag exactly if it is an identifier between blanks. -/
theorem parse_eq_flag_iff {s n : String} :
    parse s = .ok (.flag n) ↔
      '=' ∉ s.toList ∧ Text.trim s.toList = n.toList ∧ isIdentifier n.toList = true := by
  unfold parse
  split
  · rename_i h
    rw [Text.splitFirst_eq_none_iff] at h
    split
    · rename_i hid
      simp only [Except.ok.injEq, flag.injEq, h, not_false_eq_true, true_and]
      constructor
      · rintro rfl
        exact ⟨by simp, by simpa using hid⟩
      · rintro ⟨heq, _⟩
        apply String.toList_injective
        rw [Text.toList_trimmed, heq]
    · rename_i hid
      simp only [reduceCtorEq, false_iff, not_and]
      intro _ heq hn
      exact hid (heq ▸ hn)
  · rename_i before after h
    rw [Text.splitFirst_eq_some_iff] at h
    have hmem : '=' ∈ s.toList := by
      rw [h.1]
      simp
    split <;> simp [hmem]

/-- A term is read as a valued definition exactly if an identifier between blanks
stands before its first equality sign. -/
theorem parse_eq_valued_iff {s n v : String} :
    parse s = .ok (.valued n v) ↔
      ∃ before, s.toList = before ++ '=' :: v.toList ∧
        Text.trim before = n.toList ∧ isIdentifier n.toList = true := by
  unfold parse
  split
  · rename_i h
    rw [Text.splitFirst_eq_none_iff] at h
    have hno : ¬∃ before, s.toList = before ++ '=' :: v.toList ∧
        Text.trim before = n.toList ∧ isIdentifier n.toList = true := by
      rintro ⟨before, heq, _⟩
      apply h
      rw [heq]
      simp
    split <;> simp only [reduceCtorEq, hno, Except.ok.injEq]
  · rename_i before after h
    have hsplit := Text.splitFirst_eq_some_iff.1 h
    have key : (∃ b, s.toList = b ++ '=' :: v.toList ∧
        Text.trim b = n.toList ∧ isIdentifier n.toList = true) →
        after = v.toList ∧ Text.trim before = n.toList ∧ isIdentifier n.toList = true := by
      rintro ⟨b, heq, htrim, hid⟩
      have hb : '=' ∉ b := by
        rw [(Text.isPadded_trim b).mem_iff rfl, htrim]
        exact notMem_of_isIdentifier hid
      have hsame := Text.splitFirst_eq_some_iff.2 ⟨heq, hb⟩
      rw [h] at hsame
      cases hsame
      exact ⟨rfl, htrim, hid⟩
    split
    · rename_i hid
      simp only [Except.ok.injEq, valued.injEq]
      constructor
      · rintro ⟨rfl, rfl⟩
        exact ⟨before, by simpa using hsplit.1, by simp, by simpa using hid⟩
      · intro hex
        obtain ⟨hafter, htrim, _⟩ := key hex
        constructor
        · rw [htrim, String.ofList_toList]
        · rw [hafter, String.ofList_toList]
    · rename_i hid
      simp only [reduceCtorEq, false_iff]
      intro hex
      obtain ⟨_, htrim, hn⟩ := key hex
      exact hid (htrim ▸ hn)

theorem text_of_parse_eq_error {s : String} {e : DefinitionError} (h : parse s = .error e) :
    e = ⟨s⟩ := by
  unfold parse at h
  split at h
  · split at h
    · cases h
    · cases h
      rfl
  · split at h
    · cases h
    · cases h
      rfl

/-- What a definition is written as is read back. -/
theorem parse_text {d : Definition} (h : isIdentifier d.name.toList = true) :
    parse d.text = .ok d := by
  cases d with
  | flag n =>
      rw [text, parse_eq_flag_iff]
      exact ⟨notMem_of_isIdentifier h, trim_of_isIdentifier h, h⟩
  | valued n v =>
      rw [text, parse_eq_valued_iff]
      refine ⟨n.toList, ?_, trim_of_isIdentifier h, h⟩
      rw [String.toList_append, String.toList_append]
      simp

/-- A term without blanks is accepted exactly if a definition whose name is an identifier
is written as it. -/
theorem parse_eq_ok_iff_of_no_blank
    {s : String}
    {x : Definition}
    (hs : ∀ c ∈ s.toList, Text.isBlank c = false) :
    parse s = .ok x ↔ isIdentifier x.name.toList = true ∧ s = x.text := by
  constructor
  · intro h
    cases x with
    | flag n =>
        obtain ⟨_, htrim, hid⟩ := parse_eq_flag_iff.1 h
        rw [Text.trim_of_no_blank hs] at htrim
        exact ⟨hid, String.toList_injective htrim⟩
    | valued n v =>
        obtain ⟨before, hsplit, htrim, hid⟩ := parse_eq_valued_iff.1 h
        rw [Text.trim_of_no_blank fun c hc => hs c (by simp [hsplit, hc])] at htrim
        refine ⟨hid, String.toList_injective ?_⟩
        rw [text, String.toList_append, String.toList_append, hsplit, htrim]
        simp
  · rintro ⟨hid, rfl⟩
    exact parse_text hid

end Terms

end Definition

/-- The definitions a kernel is compiled with. -/
structure Definitions where
  flags : NameSet := .empty
  valued : NameMap String := .empty
  deriving DecidableEq

namespace Definitions

section Operations

def empty : Definitions := {}

/-- Adds a flag, whatever its name. -/
def withFlag (d : Definitions) (name : String) : Definitions :=
  { d with flags := d.flags.insert name () }

/-- Adds a valued definition, whatever its name; an earlier value is replaced. -/
def withValue (d : Definitions) (name value : String) : Definitions :=
  { d with valued := d.valued.insert name value }

def add (d : Definitions) : Definition → Definitions
  | .flag n => d.withFlag n
  | .valued n v => d.withValue n v

/-- Adds definitions from the first to the last. -/
def addAll (d : Definitions) (xs : List Definition) : Definitions :=
  xs.foldl add d

/-- Adds the definition that a term stands for. -/
def define (d : Definitions) (term : String) : Except DefinitionError Definitions :=
  (Definition.parse term).map d.add

/-- Adds the definitions that terms stand for, up to the first bad term. -/
def defineAll (d : Definitions) : List String → Except DefinitionError Definitions
  | [] => .ok d
  | t :: ts =>
      match d.define t with
      | .error e => .error e
      | .ok d' => d'.defineAll ts

/-- Whether a name is defined, with or without a value. -/
def isDefined (d : Definitions) (name : String) : Bool :=
  d.flags.contains name || d.valued.contains name

/-- The value of a name. -/
def value? (d : Definitions) (name : String) : Option String :=
  d.valued.get? name

def isEmpty (d : Definitions) : Bool :=
  d.flags.isEmpty && d.valued.isEmpty

/-- All definitions, the flags first. -/
def toList (d : Definitions) : List Definition :=
  d.flags.names.map .flag ++ d.valued.entries.map fun e => .valued e.1 e.2

/-- One step of building up definitions. -/
inductive Step
  | define (term : String)
  | flag (name : String)
  | value (name value : String)
  deriving DecidableEq, Repr

/-- The definition a step adds, if its term is good. -/
def Step.definition : Step → Except DefinitionError Definition
  | .define t => Definition.parse t
  | .flag n => .ok (.flag n)
  | .value n v => .ok (.valued n v)

/-- Takes a step; a bad term adds nothing. -/
def step (d : Definitions) (s : Step) : Definitions :=
  match s.definition with
  | .ok x => d.add x
  | .error _ => d

/-- Takes steps from the first to the last. -/
def run (d : Definitions) (ss : List Step) : Definitions :=
  ss.foldl step d

end Operations

section Lemmas

/-- A name is defined as a flag or with a value. -/
theorem isDefined_eq_true_iff {d : Definitions} {name : String} :
    d.isDefined name = true ↔
      d.flags.contains name = true ∨ ∃ value, d.value? name = some value := by
  rw [isDefined, Bool.or_eq_true, @NameMap.contains_eq_true_iff _ d.valued]
  rfl

/-- There are no definitions exactly if no name is defined. -/
theorem isEmpty_eq_true_iff {d : Definitions} :
    d.isEmpty = true ↔ ∀ name, d.isDefined name = false := by
  simp only [isEmpty, Bool.and_eq_true, NameMap.isEmpty_eq_true_iff, isDefined,
    Bool.or_eq_false_iff, NameMap.contains, Option.isSome_eq_false_iff, Option.isNone_iff_eq_none,
    forall_and]

/-- One more definition defines its own name alone. -/
theorem isDefined_add (d : Definitions) (x : Definition) (name : String) :
    (d.add x).isDefined name = (decide (x.name = name) || d.isDefined name) := by
  cases x with
  | flag n =>
      by_cases h : n = name <;>
        simp [add, withFlag, isDefined, NameMap.contains, Definition.name, h]
  | valued n v =>
      by_cases h : n = name <;>
        simp [add, withValue, isDefined, NameMap.contains, Definition.name, h]

theorem value?_withValue (d : Definitions) (name value other : String) :
    (d.withValue name value).value? other =
      if name = other then some value else d.value? other := by
  simp [withValue, value?]

/-- A valued definition sets the value of its own name alone; a flag sets none. -/
theorem value?_add (d : Definitions) (x : Definition) (name : String) :
    (d.add x).value? name =
      match x with
      | .flag _ => d.value? name
      | .valued n v => if n = name then some v else d.value? name := by
  cases x with
  | flag n => rfl
  | valued n v => exact value?_withValue d n v name

/-- Definitions are determined by their flags and values. -/
theorem ext_value?
    {d e : Definitions}
    (hflags : ∀ n, d.flags.contains n = true ↔ e.flags.contains n = true)
    (hvalued : ∀ n, d.value? n = e.value? n) :
    d = e := by
  obtain ⟨flags, valued⟩ := d
  obtain ⟨flags', valued'⟩ := e
  rw [mk.injEq]
  exact ⟨NameSet.ext_contains hflags, NameMap.ext_get? hvalued⟩

end Lemmas

section Collections

variable {d e : Definitions} {xs : List Definition} {n v : String}

/-- Terms are read exactly if each of them is good, and then all are added. -/
theorem defineAll_eq_ok_iff {ts : List String} :
    d.defineAll ts = .ok e ↔
      ∃ xs, ts.map Definition.parse = xs.map Except.ok ∧ e = d.addAll xs := by
  induction ts generalizing d with
  | nil => simp [defineAll, addAll, eq_comm]
  | cons t ts ih =>
      rw [defineAll, define]
      cases ht : Definition.parse t with
      | error f =>
          simp only [Except.map, reduceCtorEq, List.map_cons, ht, false_iff, not_exists, not_and]
          rintro xs hxs
          cases xs <;> simp at hxs
      | ok x =>
          simp only [Except.map, ih, List.map_cons, ht]
          constructor
          · rintro ⟨xs, hxs, rfl⟩
            exact ⟨x :: xs, by rw [hxs, List.map_cons], rfl⟩
          · rintro ⟨xs, hxs, rfl⟩
            cases xs with
            | nil => cases hxs
            | cons y ys =>
                simp only [List.map_cons, List.cons.injEq, Except.ok.injEq] at hxs
                obtain ⟨rfl, hys⟩ := hxs
                exact ⟨ys, hys, rfl⟩

/-- What is reported is a bad term. -/
theorem mem_of_defineAll_eq_error
    {ts : List String}
    {f : DefinitionError}
    (h : d.defineAll ts = .error f) :
    ∃ t ∈ ts, Definition.parse t = .error ⟨t⟩ ∧ f = ⟨t⟩ := by
  induction ts generalizing d with
  | nil => cases h
  | cons t ts ih =>
      rw [defineAll, define] at h
      cases ht : Definition.parse t with
      | error g =>
          obtain rfl := Definition.text_of_parse_eq_error ht
          rw [ht] at h
          cases h
          exact ⟨t, by simp, ht, rfl⟩
      | ok x =>
          rw [ht] at h
          obtain ⟨u, hu, hparse⟩ := ih h
          exact ⟨u, List.mem_cons_of_mem _ hu, hparse⟩

theorem addAll_cons (d : Definitions) (x : Definition) (xs : List Definition) :
    d.addAll (x :: xs) = (d.add x).addAll xs := rfl

theorem contains_flags_addAll :
    (d.addAll xs).flags.contains n = true ↔
      d.flags.contains n = true ∨ .flag n ∈ xs := by
  induction xs generalizing d with
  | nil => simp [addAll]
  | cons x xs ih =>
      rw [addAll_cons, ih]
      cases x with
      | flag m =>
          by_cases hm : m = n
          · simp [add, withFlag, NameMap.contains, hm]
          · have hm' : ¬n = m := fun h => hm h.symm
            simp [add, withFlag, NameMap.contains, hm, hm']
      | valued m v => simp [add, withValue]

theorem value?_addAll_of_notMem (h : ∀ v, .valued n v ∉ xs) :
    (d.addAll xs).value? n = d.value? n := by
  induction xs generalizing d with
  | nil => rfl
  | cons x xs ih =>
      rw [addAll_cons, ih fun v hv => h v (List.mem_cons_of_mem _ hv), value?_add]
      cases x with
      | flag m => rfl
      | valued m v =>
          have hm : m ≠ n := by
            rintro rfl
            exact h v (by simp)
          simp [hm]

/-- The value of a name is the one that is added for it, if only one is. -/
theorem value?_addAll_of_mem
    (hmem : .valued n v ∈ xs)
    (hone : ∀ w, .valued n w ∈ xs → w = v) :
    (d.addAll xs).value? n = some v := by
  induction xs generalizing d with
  | nil => simp at hmem
  | cons x xs ih =>
      rw [addAll_cons]
      by_cases hlater : ∃ w, .valued n w ∈ xs
      · obtain ⟨w, hw⟩ := hlater
        obtain rfl := hone w (by simp [hw])
        exact ih hw fun u hu => hone u (by simp [hu])
      · have hx : x = .valued n v := by
          rcases List.mem_cons.1 hmem with hx | hx
          · exact hx.symm
          · exact absurd ⟨v, hx⟩ hlater
        rw [value?_addAll_of_notMem fun w hw => hlater ⟨w, hw⟩, value?_add, hx]
        simp

theorem flag_mem_toList : .flag n ∈ d.toList ↔ d.flags.contains n = true := by
  simp [toList, ← NameMap.mem_names_iff]

theorem valued_mem_toList : .valued n v ∈ d.toList ↔ d.value? n = some v := by
  simp [toList, value?, NameMap.get?_eq_some_iff]

/-- Definitions are put together again from their list in any order. -/
theorem addAll_of_mem_iff (h : ∀ x, x ∈ xs ↔ x ∈ d.toList) : empty.addAll xs = d := by
  apply ext_value?
  · intro n
    rw [contains_flags_addAll, h, flag_mem_toList]
    simp [empty, NameMap.contains]
  · intro n
    cases hn : d.value? n with
    | none =>
        have hnone : ∀ v, .valued n v ∉ xs := by
          intro v hv
          rw [h, valued_mem_toList, hn] at hv
          cases hv
        rw [value?_addAll_of_notMem hnone]
        rfl
    | some v =>
        refine value?_addAll_of_mem ((h _).2 (valued_mem_toList.2 hn)) fun w hw => ?_
        rw [h, valued_mem_toList, hn, Option.some.injEq] at hw
        exact hw.symm

end Collections

end Definitions

end KernelLaunch
