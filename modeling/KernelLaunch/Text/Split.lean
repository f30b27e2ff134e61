import KernelLaunch.Text.Blank

/-!
# Cutting a text into fields and words

A *field* is what stands between two separators, so a text with `n` separators
has `n + 1` fields, some of them possibly empty.  A *word* is a maximal run of
characters that are not blank, so no word is empty.

**Results.**
* `joinFields_fields`, `fields_joinFields`: cutting into fields and writing
  separators between them are inverse to each other.
* `splitFirst_eq_some_iff`, `splitFirst_eq_none_iff`: the first separator, and
  only the first, divides the text.
* `map_trim_fields`: blanks at the ends of a text stand in its first and its last field.
* `isWords_iff`: a text is cut into its words.
* `words_joinFields`: words with a blank between them are read back.
-/

namespace KernelLaunch
namespace Text

section Fields

/-- The fields of a text between the occurrences of `sep`; there is at least one. -/
def fields (sep : Char) : List Char → List (List Char)
  | [] => [[]]
  | c :: cs =>
      if c = sep then [] :: fields sep cs
      else
        match fields sep cs with
        | [] => [[c]]
        | f :: fs => (c :: f) :: fs

/-- The fields written one after the other with `sep` between them. -/
def joinFields (sep : Char) : List (List Char) → List Char
  | [] => []
  | [f] => f
  | f :: g :: fs => f ++ sep :: joinFields sep (g :: fs)

theorem fields_ne_nil (sep : Char) (cs : List Char) : fields sep cs ≠ [] := by
  cases cs with
  | nil => simp [fields]
  | cons c cs =>
      unfold fields
      split
      · simp
      · split <;> simp

theorem notMem_of_mem_fields (sep : Char) (cs : List Char) :
    ∀ f ∈ fields sep cs, sep ∉ f := by
  induction cs with
  | nil => simp [fields]
  | cons c cs ih =>
      unfold fields
      split
      · intro f hf
        rcases List.mem_cons.1 hf with rfl | hf
        · simp
        · exact ih f hf
      · rename_i hc
        cases hfs : fields sep cs with
        | nil => exact absurd hfs (fields_ne_nil sep cs)
        | cons g gs =>
            rw [hfs] at ih
            intro f hf
            rcases List.mem_cons.1 hf with rfl | hf
            · have hg := ih g (by simp)
              simp only [List.mem_cons, not_or]
              exact ⟨fun h => hc h.symm, hg⟩
            · exact ih f (by simp [hf])

/-- Writing the separators back between the fields gives the text. -/
theorem joinFields_fields (sep : Char) (cs : List Char) :
    joinFields sep (fields sep cs) = cs := by
  induction cs with
  | nil => rfl
  | cons c cs ih =>
      cases hfs : fields sep cs with
      | nil => exact absurd hfs (fields_ne_nil sep cs)
      | cons g gs =>
          rw [hfs] at ih
          unfold fields
          split
          · rename_i hc
            rw [hfs, joinFields, ih, hc, List.nil_append]
          · rw [hfs]
            cases gs with
            | nil =>
                simp only [joinFields] at ih ⊢
                rw [ih]
            | cons g' gs' =>
                simp only [joinFields] at ih ⊢
                rw [List.cons_append, ih]

theorem fields_eq_singleton {sep : Char} {f : List Char} (hf : sep ∉ f) :
    fields sep f = [f] := by
  induction f with
  | nil => rfl
  | cons c f ih =>
      simp only [List.mem_cons, not_or] at hf
      rw [fields, if_neg (fun h => hf.1 h.symm), ih hf.2]

theorem fields_append_cons {sep : Char} {f : List Char} (hf : sep ∉ f) (cs : List Char) :
    fields sep (f ++ sep :: cs) = f :: fields sep cs := by
  induction f with
  | nil => simp [fields]
  | cons c f ih =>
      simp only [List.mem_cons, not_or] at hf
      rw [List.cons_append, fields, if_neg (fun h => hf.1 h.symm), ih hf.2]

/-- Fields without the separator are read back from their joined text. -/
theorem fields_joinFields
    {sep : Char}
    {fs : List (List Char)}
    (hne : fs ≠ [])
    (hfs : ∀ f ∈ fs, sep ∉ f) :
    fields sep (joinFields sep fs) = fs := by
  induction fs with
  | nil => exact absurd rfl hne
  | cons f gs ih =>
      cases gs with
      | nil => exact fields_eq_singleton (hfs f (by simp))
      | cons g gs =>
          rw [joinFields, fields_append_cons (hfs f (by simp)),
            ih (by simp) (fun x hx => hfs x (by simp [hx]))]

/-- Blanks behind a text stand in its last field. -/
theorem map_trim_fields_append
    {sep : Char}
    (hsep : isBlank sep = false)
    {right : List Char}
    (hright : IsPadding right)
    {fs : List (List Char)}
    (hne : fs ≠ [])
    (hfs : ∀ f ∈ fs, sep ∉ f) :
    (fields sep (joinFields sep fs ++ right)).map trim = fs.map trim := by
  induction fs with
  | nil => exact absurd rfl hne
  | cons f gs ih =>
      have hf : sep ∉ f := hfs f (by simp)
      cases gs with
      | nil =>
          have hpadded : IsPadded (f ++ right) f :=
            ⟨[], right, by simp [IsPadding], hright, rfl⟩
          have hlast : sep ∉ f ++ right := by
            rwa [hpadded.mem_iff hsep]
          simp [joinFields, fields_eq_singleton hlast, trim_eq_of_isPadded hpadded]
      | cons g gs =>
          have hrest := ih (by simp) (fun x hx => hfs x (by simp [hx]))
          rw [joinFields, List.append_assoc, List.cons_append, fields_append_cons hf,
            List.map_cons, hrest]
          rfl

/-- Blanks at the ends of a text stand in its first and its last field. -/
theorem map_trim_fields
    {sep : Char}
    (hsep : isBlank sep = false)
    {cs inner : List Char}
    (h : IsPadded cs inner) :
    (fields sep cs).map trim = (fields sep inner).map trim := by
  obtain ⟨left, right, hleft, hright, rfl⟩ := h
  have hclean := notMem_of_mem_fields sep inner
  have hjoin := joinFields_fields sep inner
  cases hfs : fields sep inner with
  | nil => exact absurd hfs (fields_ne_nil sep inner)
  | cons f gs =>
      rw [hfs] at hclean hjoin
      -- With the blanks before it the first field is another one, with the same trimmed text.
      have hfirst : left ++ inner = joinFields sep ((left ++ f) :: gs) := by
        rw [← hjoin]
        cases gs <;> simp [joinFields]
      have hpadded : IsPadded (left ++ f) f := ⟨left, [], hleft, by simp [IsPadding], by simp⟩
      have hfields : ∀ g ∈ (left ++ f) :: gs, sep ∉ g := by
        rw [List.forall_mem_cons, hpadded.mem_iff hsep]
        exact ⟨hclean f (by simp), fun g hg => hclean g (by simp [hg])⟩
      rw [hfirst, map_trim_fields_append hsep hright (by simp) hfields, List.map_cons,
        List.map_cons, trim_eq_of_isPadded hpadded]

end Fields

section SplitFirst

/-- What stands before and after the first `sep`, if there is one. -/
def splitFirst (sep : Char) : List Char → Option (List Char × List Char)
  | [] => none
  | c :: cs =>
      if c = sep then some ([], cs)
      else (splitFirst sep cs).map fun (before, after) => (c :: before, after)

/-- There is nothing to split exactly when the separator does not occur. -/
theorem splitFirst_eq_none_iff {sep : Char} {cs : List Char} :
    splitFirst sep cs = none ↔ sep ∉ cs := by
  induction cs with
  | nil => simp [splitFirst]
  | cons c cs ih =>
      by_cases h : c = sep
      · simp [splitFirst, h]
      · have h' : ¬sep = c := fun e => h e.symm
        simp [splitFirst, h, h', ih]

/-- The split is at the first separator. -/
theorem splitFirst_eq_some_iff {sep : Char} {cs before after : List Char} :
    splitFirst sep cs = some (before, after) ↔
      cs = before ++ sep :: after ∧ sep ∉ before := by
  induction cs generalizing before with
  | nil => simp [splitFirst]
  | cons c cs ih =>
      by_cases h : c = sep
      · subst h
        cases before with
        | nil => simp [splitFirst, eq_comm]
        | cons b bs =>
            simp only [splitFirst, if_true, Option.some.injEq, Prod.mk.injEq,
              List.nil_eq, reduceCtorEq, false_and, List.cons_append, List.cons.injEq,
              List.mem_cons, not_or, false_iff, not_and, Classical.not_not]
            rintro ⟨rfl, _⟩ hne
            exact absurd rfl hne
      · cases before with
        | nil =>
            simp [splitFirst, h]
        | cons b bs =>
            have h' : ¬sep = c := fun e => h e.symm
            simp only [splitFirst, if_neg h, Option.map_eq_some_iff, Prod.exists,
              Prod.mk.injEq, List.cons.injEq, List.cons_append, List.mem_cons, not_or]
            constructor
            · rintro ⟨x, y, hxy, ⟨rfl, rfl⟩, rfl⟩
              obtain ⟨heq, hmem⟩ := ih.1 hxy
              exact ⟨⟨rfl, heq⟩, h', hmem⟩
            · rintro ⟨⟨rfl, heq⟩, _, hmem⟩
              exact ⟨bs, after, ih.2 ⟨heq, hmem⟩, ⟨rfl, rfl⟩, rfl⟩

end SplitFirst

section Words

/-- The words of a text from the first to the last, with blanks between any two of them. -/
inductive IsWords : List Char → List (List Char) → Prop
  | none {cs : List Char}
      (blank : IsPadding cs) :
      IsWords cs []
  | next {left word rest : List Char} {ws : List (List Char)}
      (blank : IsPadding left)
      (nonempty : word ≠ [])
      (clean : ∀ c ∈ word, isBlank c = false)
      (apart : ∀ c ∈ rest.head?, isBlank c = true)
      (others : IsWords rest ws) :
      IsWords (left ++ word ++ rest) (word :: ws)

/-- The run of non-blank characters a text starts with, and the words after it. -/
def leadingWord : List Char → List Char × List (List Char)
  | [] => ([], [])
  | c :: cs =>
      let (word, rest) := leadingWord cs
      if isBlank c then ([], if word = [] then rest else word :: rest)
      else (c :: word, rest)

/-- The words of a text, from left to right. -/
def words (cs : List Char) : List (List Char) :=
  let (word, rest) := leadingWord cs
  if word = [] then rest else word :: rest

@[simp] theorem words_nil : words [] = [] := rfl

theorem words_cons_of_blank {c : Char} (hc : isBlank c = true) (cs : List Char) :
    words (c :: cs) = words cs := by
  simp [words, leadingWord, hc]

/-- A padding in front of a text adds no word. -/
theorem words_blank_append {left : List Char} (hleft : IsPadding left) (cs : List Char) :
    words (left ++ cs) = words cs := by
  induction left with
  | nil => rfl
  | cons c left ih =>
      rw [List.cons_append, words_cons_of_blank (hleft c (by simp)),
        ih (fun d hd => hleft d (by simp [hd]))]

private theorem leadingWord_append
    {word : List Char}
    (hword : ∀ c ∈ word, isBlank c = false)
    (cs : List Char) :
    leadingWord (word ++ cs) =
      (word ++ (leadingWord cs).1, (leadingWord cs).2) := by
  induction word with
  | nil => rfl
  | cons c word ih =>
      have hc : isBlank c = false := hword c (by simp)
      simp [leadingWord, hc, ih (fun d hd => hword d (by simp [hd]))]

/-- A run of non-blank characters that a blank ends is the first word. -/
theorem words_cons_append
    {word : List Char}
    (hne : word ≠ [])
    (hword : ∀ c ∈ word, isBlank c = false)
    {b : Char}
    (hb : isBlank b = true)
    (cs : List Char) :
    words (word ++ b :: cs) = word :: words cs := by
  rw [words, leadingWord_append hword]
  simp [leadingWord, hb, hne, words]

theorem words_eq_singleton
    {word : List Char}
    (hne : word ≠ [])
    (hword : ∀ c ∈ word, isBlank c = false) :
    words word = [word] := by
  have h := leadingWord_append hword []
  simp only [List.append_nil, leadingWord] at h
  simp [words, h, hne]

theorem IsWords.cons_blank
    {c : Char}
    (hc : isBlank c = true)
    {cs : List Char}
    {ws : List (List Char)}
    (h : IsWords cs ws) :
    IsWords (c :: cs) ws := by
  cases h with
  | none hblank => exact .none (List.forall_mem_cons.2 ⟨hc, hblank⟩)
  | next hblank hne hclean hapart hothers =>
      exact .next (List.forall_mem_cons.2 ⟨hc, hblank⟩) hne hclean hapart hothers

/-- What stands behind the first run of non-blank characters has the words after it. -/
private theorem isWords_leadingWord (cs : List Char) :
    (∀ c ∈ (leadingWord cs).1, isBlank c = false) ∧
      ∃ rest, cs = (leadingWord cs).1 ++ rest ∧ (∀ c ∈ rest.head?, isBlank c = true) ∧
        IsWords rest (leadingWord cs).2 := by
  induction cs with
  | nil => exact ⟨by simp [leadingWord], [], rfl, by simp, .none (by simp [IsPadding])⟩
  | cons c cs ih =>
      obtain ⟨hclean, rest, hcs, hapart, hothers⟩ := ih
      by_cases hc : isBlank c = true
      · refine ⟨by simp [leadingWord, hc], c :: cs, by simp [leadingWord, hc], by simp [hc], ?_⟩
        by_cases hw : (leadingWord cs).1 = []
        · obtain rfl : cs = rest := by rwa [hw, List.nil_append] at hcs
          simpa [leadingWord, hc, hw] using hothers.cons_blank hc
        · have hnext : IsWords ([c] ++ (leadingWord cs).1 ++ rest)
              ((leadingWord cs).1 :: (leadingWord cs).2) :=
            .next (by simp [IsPadding, hc]) hw hclean hapart hothers
          rw [List.append_assoc, ← hcs] at hnext
          simpa [leadingWord, hc, hw] using hnext
      · simp only [Bool.not_eq_true] at hc
        refine ⟨?_, rest, ?_, hapart, ?_⟩
        · simpa [leadingWord, hc] using hclean
        · simpa [leadingWord, hc] using hcs
        · simpa [leadingWord, hc] using hothers

theorem isWords_words (cs : List Char) : IsWords cs (words cs) := by
  obtain ⟨hclean, rest, hcs, hapart, hothers⟩ := isWords_leadingWord cs
  unfold words
  by_cases hw : (leadingWord cs).1 = []
  · obtain rfl : cs = rest := by rwa [hw, List.nil_append] at hcs
    simpa [hw] using hothers
  · have hnext : IsWords ([] ++ (leadingWord cs).1 ++ rest)
        ((leadingWord cs).1 :: (leadingWord cs).2) :=
      .next (by simp [IsPadding]) hw hclean hapart hothers
    rw [List.nil_append, ← hcs] at hnext
    simpa [hw] using hnext

theorem IsWords.words_eq {cs : List Char} {ws : List (List Char)} (h : IsWords cs ws) :
    words cs = ws := by
  induction h with
  | @none cs hblank =>
      have hwords := words_blank_append hblank []
      rwa [List.append_nil] at hwords
  | @next left word rest ws hblank hne hclean hapart hothers ih =>
      rw [List.append_assoc, words_blank_append hblank]
      cases rest with
      | nil => rw [List.append_nil, words_eq_singleton hne hclean, ← ih, words_nil]
      | cons b rest =>
          have hb : isBlank b = true := hapart b (by simp)
          rw [words_cons_append hne hclean hb, ← ih, words_cons_of_blank hb]

/-- A text is cut into its words. -/
theorem isWords_iff {cs : List Char} {ws : List (List Char)} :
    IsWords cs ws ↔ words cs = ws := by
  constructor
  · exact IsWords.words_eq
  · intro h
    exact h ▸ isWords_words cs

theorem IsWords.clean {cs : List Char} {ws : List (List Char)} (h : IsWords cs ws) :
    ∀ w ∈ ws, ∀ c ∈ w, isBlank c = false := by
  induction h with
  | none => simp
  | next _ _ hclean _ _ ih => exact List.forall_mem_cons.2 ⟨hclean, ih⟩

/-- Words with a blank between them are read back. -/
theorem words_joinFields
    {sep : Char}
    (hsep : isBlank sep = true)
    {ws : List (List Char)}
    (hws : ∀ w ∈ ws, w ≠ [] ∧ ∀ c ∈ w, isBlank c = false) :
    words (joinFields sep ws) = ws := by
  induction ws with
  | nil => rfl
  | cons w ws ih =>
      obtain ⟨hne, hclean⟩ := hws w (by simp)
      cases ws with
      | nil => exact words_eq_singleton hne hclean
      | cons v vs =>
          rw [joinFields, words_cons_append hne hclean hsep,
            ih fun x hx => hws x (by simp [hx])]

end Words

end Text
end KernelLaunch
