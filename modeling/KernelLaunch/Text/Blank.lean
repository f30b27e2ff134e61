/-!
# Blank characters, trimming and words

A character is *blank* when it has the Unicode property `White_Space`.  Every
reader of this library that forgives padding forgives exactly these characters.

All functions work on lists of characters, by structural recursion.

**Results.**
* `trim_append`: blanks written around a text that has none at its ends
  disappear again.
* `isPadded_trim`: trimming removes a blank text at each end and nothing else.
* `IsPadded.mem_iff`: blanks around a text add none of the other characters.
* `isPadded_iff`, `exists_isPadded_iff`: what stands between blanks is what trimming leaves.
* `trim_eq_of_isPadded`, `trim_trim`: neither blanks around a text nor trimming it changes what
  trimming leaves.
-/

namespace KernelLaunch
namespace Text

section Blank

/-- The characters with the Unicode property `White_Space`. -/
def isBlank (c : Char) : Bool :=
  let n := c.toNat
  (0x09 ≤ n && n ≤ 0x0d) || n == 0x20 || n == 0x85 || n == 0xa0 || n == 0x1680 ||
    (0x2000 ≤ n && n ≤ 0x200a) || n == 0x2028 || n == 0x2029 || n == 0x202f ||
    n == 0x205f || n == 0x3000

/-- No letter of either ASCII case is a blank. -/
theorem isBlank_toLower (c : Char) : isBlank c.toLower = isBlank c := by
  have hletter : ∀ d : Char, 65 ≤ d.toNat ∧ d.toNat ≤ 122 → isBlank d = false := by
    intro d hd
    simp only [isBlank, Bool.or_eq_false_iff, Bool.and_eq_false_iff, decide_eq_false_iff_not,
      beq_eq_false_iff_ne]
    omega
  unfold Char.toLower
  split
  · rename_i h
    have hc : 65 ≤ c.toNat ∧ c.toNat ≤ 90 := by
      simpa [UInt32.le_iff_toNat_le] using h
    have hlower : (c.val + ('a'.val - 'A'.val)).toNat = c.toNat + 32 := by
      have hsum : 'a'.val - 'A'.val = 32 := rfl
      rw [hsum, UInt32.toNat_add]
      exact Nat.mod_eq_of_lt (by simp; omega)
    rw [hletter c (by omega), hletter _ ⟨?_, ?_⟩]
    · show 65 ≤ (c.val + ('a'.val - 'A'.val)).toNat
      omega
    · show (c.val + ('a'.val - 'A'.val)).toNat ≤ 122
      omega
  · rfl

/-- A text made of blanks only. -/
def IsPadding (cs : List Char) : Prop :=
  ∀ c ∈ cs, isBlank c = true

theorem IsPadding.append {left right : List Char} (hleft : IsPadding left)
    (hright : IsPadding right) :
    IsPadding (left ++ right) := by
  intro c hc
  rcases List.mem_append.1 hc with hc | hc
  · exact hleft c hc
  · exact hright c hc

/-- A text with blanks at its ends or without. -/
def IsPadded (cs inner : List Char) : Prop :=
  ∃ left right, IsPadding left ∧ IsPadding right ∧ cs = left ++ inner ++ right

/-- Blanks around a text add none of the other characters. -/
theorem IsPadded.mem_iff
    {cs inner : List Char}
    (h : IsPadded cs inner)
    {c : Char}
    (hc : isBlank c = false) :
    c ∈ cs ↔ c ∈ inner := by
  obtain ⟨left, right, hleft, hright, rfl⟩ := h
  have hnot : ∀ {pad : List Char}, IsPadding pad → c ∉ pad := by
    intro pad hpad hmem
    rw [hpad c hmem] at hc
    cases hc
  simp [hnot hleft, hnot hright]

end Blank

section Trim

/-- The text without the blanks at its start. -/
def trimStart (cs : List Char) : List Char :=
  cs.dropWhile isBlank

/-- The text without the blanks at its end. -/
def trimEnd : List Char → List Char
  | [] => []
  | c :: cs =>
      match trimEnd cs with
      | [] => if isBlank c then [] else [c]
      | d :: ds => c :: d :: ds

/-- The text without the blanks at its two ends. -/
def trim (cs : List Char) : List Char :=
  trimEnd (trimStart cs)

def trimmed (s : String) : String :=
  String.ofList (trim s.toList)

@[simp] theorem toList_trimmed (s : String) :
    (trimmed s).toList = trim s.toList := by
  simp [trimmed]

theorem trimStart_head (cs : List Char) :
    ∀ c ∈ (trimStart cs).head?, isBlank c = false := by
  induction cs with
  | nil => simp [trimStart]
  | cons d ds ih =>
      unfold trimStart at ih ⊢
      by_cases h : isBlank d = true
      · simpa [h] using ih
      · simp [h]

theorem exists_padding_start (cs : List Char) :
    ∃ left, IsPadding left ∧ cs = left ++ trimStart cs := by
  refine ⟨cs.takeWhile isBlank, ?_, ?_⟩
  · intro c hc
    exact (List.all_eq_true.1 List.all_takeWhile) c hc
  · exact List.takeWhile_append_dropWhile.symm

theorem exists_padding_end (cs : List Char) :
    ∃ right, IsPadding right ∧ cs = trimEnd cs ++ right := by
  induction cs with
  | nil => exact ⟨[], by simp [IsPadding], by simp [trimEnd]⟩
  | cons c cs ih =>
      obtain ⟨right, hright, heq⟩ := ih
      cases ht : trimEnd cs with
      | nil =>
          rw [ht, List.nil_append] at heq
          by_cases h : isBlank c = true
          · refine ⟨c :: right, ?_, ?_⟩
            · intro d hd
              rcases List.mem_cons.1 hd with rfl | hd
              · exact h
              · exact hright d hd
            · have hnil : trimEnd (c :: cs) = [] := by simp [trimEnd, ht, h]
              rw [hnil, heq, List.nil_append]
          · have hone : trimEnd (c :: cs) = [c] := by simp [trimEnd, ht, h]
            exact ⟨right, hright, by rw [hone, heq, List.singleton_append]⟩
      | cons d ds =>
          have hcons : trimEnd (c :: cs) = c :: trimEnd cs := by simp [trimEnd, ht]
          exact ⟨right, hright, by rw [hcons, List.cons_append, ← heq]⟩

/-- Trimming cuts one padding off each end and nothing else. -/
theorem isPadded_trim (cs : List Char) : IsPadded cs (trim cs) := by
  obtain ⟨left, hleft, hstart⟩ := exists_padding_start cs
  obtain ⟨right, hright, hend⟩ := exists_padding_end (trimStart cs)
  refine ⟨left, right, hleft, hright, ?_⟩
  rw [List.append_assoc, trim, ← hend, ← hstart]

theorem trimStart_append {left : List Char} (hleft : IsPadding left) (cs : List Char) :
    trimStart (left ++ cs) = trimStart cs := by
  induction left with
  | nil => rfl
  | cons c left ih =>
      have hc : isBlank c = true := hleft c (by simp)
      have htail : IsPadding left := fun d hd => hleft d (by simp [hd])
      rw [← ih htail]
      simp [trimStart, hc]

theorem trimStart_eq_self {cs : List Char}
    (h : ∀ c ∈ cs.head?, isBlank c = false) :
    trimStart cs = cs := by
  cases cs with
  | nil => rfl
  | cons c cs => simp [trimStart, h c (by simp)]

theorem trimEnd_padding {right : List Char} (hright : IsPadding right) :
    trimEnd right = [] := by
  induction right with
  | nil => rfl
  | cons c right ih =>
      have hc : isBlank c = true := hright c (by simp)
      have htail : IsPadding right := fun d hd => hright d (by simp [hd])
      simp [trimEnd, ih htail, hc]

theorem trimEnd_append (cs : List Char) {right : List Char} (hright : IsPadding right) :
    trimEnd (cs ++ right) = trimEnd cs := by
  induction cs with
  | nil => simpa [trimEnd] using trimEnd_padding hright
  | cons c cs ih => simp [trimEnd, ih]

theorem trimEnd_eq_self {cs : List Char}
    (h : ∀ c ∈ cs.getLast?, isBlank c = false) :
    trimEnd cs = cs := by
  induction cs with
  | nil => rfl
  | cons c cs ih =>
      cases cs with
      | nil => simp [trimEnd, h c (by simp)]
      | cons d ds =>
          have htail : trimEnd (d :: ds) = d :: ds := by
            apply ih
            intro e he
            exact h e (by simpa [List.getLast?_cons_cons] using he)
          rw [trimEnd, htail]

theorem trimEnd_getLast (cs : List Char) :
    ∀ c ∈ (trimEnd cs).getLast?, isBlank c = false := by
  induction cs with
  | nil => simp [trimEnd]
  | cons d ds ih =>
      cases ht : trimEnd ds with
      | nil =>
          by_cases h : isBlank d = true
          · simp [trimEnd, ht, h]
          · simp [trimEnd, ht, h]
      | cons e es =>
          rw [ht] at ih
          simpa [trimEnd, ht, List.getLast?_cons_cons] using ih

theorem head?_trimEnd (cs : List Char) :
    ∀ c ∈ (trimEnd cs).head?, c ∈ cs.head? := by
  cases cs with
  | nil => simp [trimEnd]
  | cons d ds =>
      cases ht : trimEnd ds with
      | nil =>
          by_cases h : isBlank d = true
          · simp [trimEnd, ht, h]
          · simp [trimEnd, ht, h]
      | cons e es => simp [trimEnd, ht]

theorem trim_head (cs : List Char) :
    ∀ c ∈ (trim cs).head?, isBlank c = false :=
  fun c hc => trimStart_head cs c (head?_trimEnd _ c hc)

theorem trim_getLast (cs : List Char) :
    ∀ c ∈ (trim cs).getLast?, isBlank c = false :=
  trimEnd_getLast _

theorem trim_eq_self {cs : List Char}
    (hhead : ∀ c ∈ cs.head?, isBlank c = false)
    (hlast : ∀ c ∈ cs.getLast?, isBlank c = false) :
    trim cs = cs := by
  rw [trim, trimStart_eq_self hhead, trimEnd_eq_self hlast]

theorem trim_of_no_blank {cs : List Char} (h : ∀ c ∈ cs, isBlank c = false) : trim cs = cs :=
  trim_eq_self (fun c hc => h c (List.mem_of_mem_head? hc))
    (fun c hc => h c (List.mem_of_mem_getLast? hc))

/-- Blanks written around a text that has none at its ends disappear again. -/
theorem trim_append
    {left right cs : List Char}
    (hleft : IsPadding left)
    (hright : IsPadding right)
    (hhead : ∀ c ∈ cs.head?, isBlank c = false)
    (hlast : ∀ c ∈ cs.getLast?, isBlank c = false) :
    trim (left ++ cs ++ right) = cs := by
  cases cs with
  | nil =>
      obtain ⟨pad, _, heq⟩ := exists_padding_start (left ++ right)
      have hrest : IsPadding (trimStart (left ++ right)) := by
        intro c hc
        exact hleft.append hright c (by rw [heq]; simp [hc])
      simpa [trim] using trimEnd_padding hrest
  | cons c cs =>
      have hc : isBlank c = false := hhead c (by simp)
      rw [List.append_assoc, trim, trimStart_append hleft,
        trimStart_eq_self (by simpa using hc), trimEnd_append _ hright,
        trimEnd_eq_self hlast]

theorem isPadded_self (cs : List Char) : IsPadded cs cs :=
  ⟨[], [], by simp [IsPadding], by simp [IsPadding], by simp⟩

/-- Trimming leaves a text without blanks exactly if it stands between blanks. -/
theorem isPadded_iff {cs inner : List Char} (hinner : ∀ c ∈ inner, isBlank c = false) :
    IsPadded cs inner ↔ trim cs = inner := by
  constructor
  · rintro ⟨left, right, hleft, hright, rfl⟩
    exact trim_append hleft hright (fun c hc => hinner c (List.mem_of_mem_head? hc))
      (fun c hc => hinner c (List.mem_of_mem_getLast? hc))
  · rintro rfl
    exact isPadded_trim cs

/-- A trimmed text is not changed by trimming. -/
theorem trim_trim (cs : List Char) : trim (trim cs) = trim cs :=
  trim_eq_self (trim_head cs) (trim_getLast cs)

/-- Blanks written around any text make no difference to what trimming leaves of it. -/
theorem trim_eq_of_isPadded {cs inner : List Char} (h : IsPadded cs inner) :
    trim cs = trim inner := by
  obtain ⟨left, right, hleft, hright, rfl⟩ := h
  obtain ⟨left', right', hleft', hright', hinner⟩ := isPadded_trim inner
  have hboth : left ++ inner ++ right =
      (left ++ left') ++ trim inner ++ (right' ++ right) := by
    conv => lhs; rw [hinner]
    simp only [List.append_assoc]
  rw [hboth]
  exact trim_append (hleft.append hleft') (hright'.append hright) (trim_head inner)
    (trim_getLast inner)

/-- A text stands between blanks as one of a class without blanks exactly if trimming leaves
one of the class. -/
theorem exists_isPadded_iff
    {P : List Char → Prop}
    (hP : ∀ inner, P inner → ∀ c ∈ inner, isBlank c = false)
    {cs : List Char} :
    (∃ inner, IsPadded cs inner ∧ P inner) ↔ P (trim cs) := by
  constructor
  · intro ⟨inner, hpadded, hinner⟩
    rwa [(isPadded_iff (hP inner hinner)).1 hpadded]
  · intro h
    exact ⟨trim cs, isPadded_trim cs, h⟩

/-- The blanks are not only those of ASCII, and a byte-order mark is none of them. -/
example :
    trim "\u00a0a b\u2003\u3000".toList = "a b".toList ∧ isBlank '\ufeff' = false := by
  decide

end Trim

end Text
end KernelLaunch
