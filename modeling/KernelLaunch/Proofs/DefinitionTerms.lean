import KernelLaunch.Definitions

/-!
# The text of a definition term

What a term is, is said here by a grammar, without the reader.  A name is ASCII letters,
digits and underscores, the first character not being a digit.  Blanks may stand around the
name and nowhere else; what follows the first equality sign is the value, blanks and further
equality signs included.

**Results.**
* `isIdentifier_iff`: the test for identifiers accepts exactly the names of the grammar.
* `parse_eq_ok_iff`, `parse_eq_error_iff`: exactly the terms are read, and any other text is
  reported as it is.
* `parse_inverts_text`: what is written for a definition is read back, and whatever is read
  was a term for that definition.
-/

namespace KernelLaunch
namespace Definition

section Grammar

/-- The characters a name may start with: ASCII letters and the underscore. -/
def StartsName (c : Char) : Prop :=
  ('A' ≤ c ∧ c ≤ 'Z') ∨ ('a' ≤ c ∧ c ≤ 'z') ∨ c = '_'

/-- The characters of a name: those it may start with and the ASCII digits. -/
def ContinuesName (c : Char) : Prop :=
  StartsName c ∨ ('0' ≤ c ∧ c ≤ '9')

/-- The names of definitions. -/
inductive IsName : List Char → Prop
  | intro {c : Char} {cs : List Char}
      (first : StartsName c)
      (rest : ∀ d ∈ cs, ContinuesName d) :
      IsName (c :: cs)

/-- The terms for a definition. -/
inductive IsTerm : List Char → Definition → Prop
  | flag {cs : List Char} {n : String}
      (name : IsName n.toList)
      (padded : Text.IsPadded cs n.toList) :
      IsTerm cs (.flag n)
  | valued {cs before : List Char} {n v : String}
      (name : IsName n.toList)
      (divided : cs = before ++ '=' :: v.toList)
      (padded : Text.IsPadded before n.toList) :
      IsTerm cs (.valued n v)

end Grammar

section Names

variable {c : Char} {cs : List Char}

theorem isNameStart_iff : isNameStart c = true ↔ StartsName c := by
  unfold isNameStart StartsName Char.isAlpha Char.isUpper Char.isLower
  simp [Char.le_def, or_assoc]

theorem isNameChar_iff : isNameChar c = true ↔ ContinuesName c := by
  rw [ContinuesName, ← isNameStart_iff]
  unfold isNameChar isNameStart Char.isAlphanum Char.isDigit
  simp [Char.le_def, or_right_comm]

/-- The test for identifiers accepts exactly the names. -/
theorem isIdentifier_iff : isIdentifier cs = true ↔ IsName cs := by
  cases cs with
  | nil =>
      simp only [isIdentifier, Bool.false_eq_true, false_iff]
      rintro ⟨⟩
  | cons c cs =>
      simp only [isIdentifier, Bool.and_eq_true, List.all_eq_true, isNameStart_iff,
        isNameChar_iff]
      constructor
      · exact fun h => .intro h.1 h.2
      · rintro ⟨hfirst, hrest⟩
        exact ⟨hfirst, hrest⟩

theorem IsName.not_blank (h : IsName cs) : ∀ c ∈ cs, Text.isBlank c = false :=
  fun c hc => (isNameChar_clean (isNameChar_of_mem (isIdentifier_iff.2 h) c hc)).1

theorem IsName.notMem_equals (h : IsName cs) : '=' ∉ cs :=
  notMem_of_isIdentifier (isIdentifier_iff.2 h)

end Names

section Terms

variable {s n v : String} {x : Definition}

/-- An equality sign is neither a blank nor a character of a name. -/
theorem notMem_of_isPadded {cs inner : List Char}
    (hname : IsName inner)
    (hpadded : Text.IsPadded cs inner) :
    '=' ∉ cs := by
  rw [hpadded.mem_iff rfl]
  exact hname.notMem_equals

theorem isTerm_flag_iff {cs : List Char} :
    IsTerm cs (.flag n) ↔ IsName n.toList ∧ Text.IsPadded cs n.toList := by
  constructor
  · rintro ⟨hname, hpadded⟩
    exact ⟨hname, hpadded⟩
  · exact fun ⟨hname, hpadded⟩ => .flag hname hpadded

theorem isTerm_valued_iff {cs : List Char} :
    IsTerm cs (.valued n v) ↔
      IsName n.toList ∧ ∃ before, cs = before ++ '=' :: v.toList ∧
        Text.IsPadded before n.toList := by
  constructor
  · intro h
    cases h with
    | valued hname hdivided hpadded => exact ⟨hname, _, hdivided, hpadded⟩
  · rintro ⟨hname, before, hdivided, hpadded⟩
    exact .valued hname hdivided hpadded

/-- Exactly the terms for a definition are read as it. -/
theorem parse_eq_ok_iff : parse s = .ok x ↔ IsTerm s.toList x := by
  cases x with
  | flag n =>
      rw [parse_eq_flag_iff, isTerm_flag_iff, isIdentifier_iff]
      constructor
      · rintro ⟨_, htrim, hname⟩
        exact ⟨hname, (Text.isPadded_iff hname.not_blank).2 htrim⟩
      · rintro ⟨hname, hpadded⟩
        exact ⟨notMem_of_isPadded hname hpadded,
          (Text.isPadded_iff hname.not_blank).1 hpadded, hname⟩
  | valued n v =>
      rw [parse_eq_valued_iff, isTerm_valued_iff, isIdentifier_iff]
      constructor
      · rintro ⟨before, hdivided, htrim, hname⟩
        exact ⟨hname, before, hdivided, (Text.isPadded_iff hname.not_blank).2 htrim⟩
      · rintro ⟨hname, before, hdivided, hpadded⟩
        exact ⟨before, hdivided, (Text.isPadded_iff hname.not_blank).1 hpadded, hname⟩

/-- Any text that is no term is reported, as it is. -/
theorem parse_eq_error_iff {e : DefinitionError} :
    parse s = .error e ↔ e = ⟨s⟩ ∧ ∀ x, ¬IsTerm s.toList x := by
  simp only [← parse_eq_ok_iff]
  constructor
  · intro h
    exact ⟨text_of_parse_eq_error h, fun x hx => by simp [h] at hx⟩
  · rintro ⟨rfl, hnone⟩
    cases hparse : parse s with
    | ok x => exact absurd hparse (hnone x)
    | error e => rw [text_of_parse_eq_error hparse]

/-- What becomes of a text as a definition term. -/
structure ReadAsTerm (s : String) : Prop where
  /-- A flag is a name between blanks. -/
  flag : ∀ n, parse s = .ok (.flag n) ↔
    '=' ∉ s.toList ∧ IsName n.toList ∧ Text.IsPadded s.toList n.toList
  /-- A value is all that follows the first equality sign, and a name between blanks is all
  that stands before it. -/
  valued : ∀ n v, parse s = .ok (.valued n v) ↔
    ∃ before, s.toList = before ++ '=' :: v.toList ∧ '=' ∉ before ∧ IsName n.toList ∧
      Text.IsPadded before n.toList
  refused : ∀ e, parse s = .error e ↔ e = ⟨s⟩ ∧ ∀ x, ¬IsTerm s.toList x

theorem readAsTerm (s : String) : ReadAsTerm s where
  flag := by
    intro n
    rw [parse_eq_ok_iff, isTerm_flag_iff]
    constructor
    · rintro ⟨hname, hpadded⟩
      exact ⟨notMem_of_isPadded hname hpadded, hname, hpadded⟩
    · exact fun h => h.2
  valued := by
    intro n v
    rw [parse_eq_ok_iff, isTerm_valued_iff]
    constructor
    · rintro ⟨hname, before, hdivided, hpadded⟩
      exact ⟨before, hdivided, notMem_of_isPadded hname hpadded, hname, hpadded⟩
    · rintro ⟨before, hdivided, _, hname, hpadded⟩
      exact ⟨hname, before, hdivided, hpadded⟩
  refused := fun _ => parse_eq_error_iff

/-- Reading inverts writing.  A name is read as a flag, and a name, an equality sign and any
text as a valued definition with just that text; conversely a text is read only if it is such
a term, with blanks around the name or without. -/
theorem parse_inverts_text :
    (∀ n : String, IsName n.toList →
      parse n = .ok (.flag n) ∧ ∀ v, parse (n ++ "=" ++ v) = .ok (.valued n v)) ∧
      ∀ s, ReadAsTerm s := by
  refine ⟨fun n hname => ?_, readAsTerm⟩
  have hid : isIdentifier n.toList = true := isIdentifier_iff.2 hname
  exact ⟨parse_text (d := .flag n) hid, fun v => parse_text (d := .valued n v) hid⟩

/-- Only the name loses its blanks, and no letter outside ASCII is one of a name. -/
example :
    parse "\t_A1 = b = c " = .ok (.valued "_A1" " b = c ") ∧ parse "é" = .error ⟨"é"⟩ := by
  exact ⟨by rfl, by rfl⟩

end Terms

end Definition
end KernelLaunch
