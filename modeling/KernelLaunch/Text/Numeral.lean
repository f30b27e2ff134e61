import KernelLaunch.Outcome
import KernelLaunch.Text.Blank

/-!
# Reading and writing whole numbers

Digits are ASCII digits.  A numeral of an unsigned kind may start with `+`; one
of a signed kind may start with `+` or `-`.  Any number of leading zeros is
allowed.

The reader `readBelow` for numbers below a limit says what is wrong with a text
that it refuses.  It goes from left to right and stops at the first problem, so
a number that is already too large hides a bad digit further on.

Numbers with a sign are read into 128 bits, and no step may leave them.

**Results.**
* `readNat_decimal`: a number written in decimal is read back.
* `readInt128_eq`: the reader with 128 bits refuses the numbers that do not fit, and no other.
* `readBelow_eq_ok_iff`: the bounded reader accepts exactly the optionally
  `+`-signed numerals below its limit.
* `readBelow_eq_empty_iff`: only the empty text is reported as empty.
* `isNumeral_iff`, `isPaddedNumeral_iff`: what the reader accepts, and what it accepts after
  trimming, is a numeral.
* `readWord_eq_ok_iff`: exactly the numerals for machine words are accepted.
-/

namespace KernelLaunch
namespace Text

section Digits

/-- The value of a hexadecimal digit of either case, and sixteen for any other character. -/
def digitValue (c : Char) : Nat :=
  let n := c.toNat
  if 48 ≤ n ∧ n ≤ 57 then n - 48
  else if 97 ≤ n ∧ n ≤ 102 then n - 87
  else if 65 ≤ n ∧ n ≤ 70 then n - 55
  else 16

/-- The value of a digit of the given base, which is at most sixteen. -/
def digitOf (base : Nat) (c : Char) : Option Nat :=
  if digitValue c < base then some (digitValue c) else none

/-- The value of a run of digits written after a number `acc`. -/
def readDigits (base : Nat) : Nat → List Char → Option Nat
  | acc, [] => some acc
  | acc, c :: cs =>
      match digitOf base c with
      | none => none
      | some d => readDigits base (acc * base + d) cs

/-- The number that one or more digits denote. -/
def readNat (base : Nat) : List Char → Option Nat
  | [] => none
  | c :: cs => readDigits base 0 (c :: cs)

/-- The number of the given magnitude. -/
def signed (negative : Bool) (magnitude : Nat) : Int :=
  if negative then -(magnitude : Int) else magnitude

/-- The number that an optional sign and one or more digits denote. -/
def readInt (base : Nat) : List Char → Option Int
  | '-' :: cs => (readNat base cs).map (signed true)
  | '+' :: cs => (readNat base cs).map (signed false)
  | cs => (readNat base cs).map (signed false)

/-- The decimal digits of a number, without leading zeros. -/
def decimal (n : Nat) : List Char :=
  Nat.toDigits 10 n

/-- The decimal digits of an integer after its sign, which is written if negative. -/
def decimalInt : Int → List Char
  | .ofNat n => decimal n
  | .negSucc n => '-' :: decimal (n + 1)

def decimalText (n : Nat) : String :=
  String.ofList (decimal n)

@[simp] theorem toList_decimalText (n : Nat) :
    (decimalText n).toList = decimal n :=
  String.toList_ofList

theorem digitOf_digitChar {d : Nat} (h : d < 10) :
    digitOf 10 d.digitChar = some d := by
  have hall : ∀ d < 10, digitOf 10 d.digitChar = some d := by decide
  exact hall d h

theorem isBlank_of_digitOf {base : Nat} {c : Char} {d : Nat}
    (hbase : base ≤ 16)
    (h : digitOf base c = some d) :
    isBlank c = false := by
  have hlt : digitValue c < 16 := by
    unfold digitOf at h
    split at h
    · omega
    · cases h
  unfold digitValue at hlt
  simp only at hlt
  unfold isBlank
  simp only [Bool.or_eq_false_iff, Bool.and_eq_false_iff, decide_eq_false_iff_not,
    beq_eq_false_iff_ne]
  split at hlt
  · omega
  · split at hlt
    · omega
    · split at hlt
      · omega
      · omega

theorem readDigits_append (base acc : Nat) (xs ys : List Char) :
    readDigits base acc (xs ++ ys) =
      (readDigits base acc xs).bind fun a => readDigits base a ys := by
  induction xs generalizing acc with
  | nil => rfl
  | cons c xs ih =>
      simp only [List.cons_append, readDigits]
      cases digitOf base c with
      | none => rfl
      | some d => exact ih _

theorem le_of_readDigits
    {base acc n : Nat}
    {cs : List Char}
    (hbase : 0 < base)
    (h : readDigits base acc cs = some n) :
    acc ≤ n := by
  induction cs generalizing acc with
  | nil =>
      cases h
      exact Nat.le_refl _
  | cons c cs ih =>
      unfold readDigits at h
      split at h
      · cases h
      · have hle := ih h
        have hmul : acc * 1 ≤ acc * base := Nat.mul_le_mul_left acc hbase
        omega

theorem readDigits_decimal (n : Nat) : readDigits 10 0 (decimal n) = some n := by
  induction n using Nat.strongRecOn with
  | ind n ih =>
      by_cases hn : n < 10
      · rw [decimal, Nat.toDigits_of_lt_base hn, readDigits, digitOf_digitChar hn]
        simp [readDigits]
      · have hstep : decimal n = decimal (n / 10) ++ [(n % 10).digitChar] :=
          Nat.toDigits_of_base_le (by decide) (by omega)
        rw [hstep, readDigits_append, ih (n / 10) (by omega), Option.bind_some,
          readDigits, digitOf_digitChar (by omega)]
        simp only [readDigits, Option.some.injEq]
        omega

/-- A number written in decimal is read back. -/
theorem readNat_decimal (n : Nat) : readNat 10 (decimal n) = some n := by
  have hne : decimal n ≠ [] := Nat.toDigits_ne_nil
  cases hd : decimal n with
  | nil => exact absurd hd hne
  | cons c cs => rw [readNat, ← hd, readDigits_decimal]

theorem digitOf_of_mem_decimal {n : Nat} :
    ∀ c ∈ decimal n, ∃ d, digitOf 10 c = some d := by
  induction n using Nat.strongRecOn with
  | ind n ih =>
      intro c hc
      by_cases hn : n < 10
      · rw [decimal, Nat.toDigits_of_lt_base hn, List.mem_singleton] at hc
        exact ⟨n, by rw [hc, digitOf_digitChar hn]⟩
      · have hstep : decimal n = decimal (n / 10) ++ [(n % 10).digitChar] :=
          Nat.toDigits_of_base_le (by decide) (by omega)
        rw [hstep, List.mem_append, List.mem_singleton] at hc
        rcases hc with hc | hc
        · exact ih (n / 10) (by omega) c hc
        · exact ⟨n % 10, by rw [hc, digitOf_digitChar (by omega)]⟩

theorem not_isBlank_of_mem_decimal {n : Nat} : ∀ c ∈ decimal n, isBlank c = false := by
  intro c hc
  obtain ⟨d, hd⟩ := digitOf_of_mem_decimal c hc
  exact isBlank_of_digitOf (by decide) hd

theorem not_isBlank_of_mem_decimalInt {z : Int} : ∀ c ∈ decimalInt z, isBlank c = false := by
  cases z with
  | ofNat n => exact not_isBlank_of_mem_decimal
  | negSucc n =>
      intro c hc
      rcases List.mem_cons.1 hc with rfl | hc
      · decide
      · exact not_isBlank_of_mem_decimal c hc

theorem readInt_of_not_sign
    {base : Nat}
    {cs : List Char}
    (h : ∀ c ∈ cs.head?, c ≠ '-' ∧ c ≠ '+') :
    readInt base cs = (readNat base cs).map (signed false) := by
  unfold readInt
  split
  · exact absurd rfl (h '-' (by simp)).1
  · exact absurd rfl (h '+' (by simp)).2
  · rfl

theorem head_decimal_not_sign (n : Nat) :
    ∀ c ∈ (decimal n).head?, c ≠ '-' ∧ c ≠ '+' := by
  intro c hc
  obtain ⟨d, hd⟩ := digitOf_of_mem_decimal c (List.mem_of_mem_head? hc)
  constructor
  · rintro rfl
    exact absurd hd (by simp [digitOf, digitValue])
  · rintro rfl
    exact absurd hd (by simp [digitOf, digitValue])

theorem readInt_decimalInt (z : Int) : readInt 10 (decimalInt z) = some z := by
  cases z with
  | ofNat n =>
      rw [decimalInt, readInt_of_not_sign (head_decimal_not_sign n), readNat_decimal]
      rfl
  | negSucc n =>
      rw [decimalInt, readInt, readNat_decimal]
      rfl

end Digits

section Checked

/-- The first number that is too large for 128 bits with a sign. -/
def limit128 : Nat := 1 <<< 127

/-- Whether a number fits in 128 bits with a sign. -/
def Fits128 (n : Int) : Prop :=
  -(limit128 : Int) ≤ n ∧ n < limit128

instance (n : Int) : Decidable (Fits128 n) :=
  inferInstanceAs (Decidable (_ ∧ _))

/-- The number, if it fits in 128 bits. -/
def fit128? (n : Int) : Option Int :=
  if Fits128 n then some n else none

/-- Reads digits after the number `acc`, away from zero, while every step fits in 128 bits. -/
def readDigits128 (base : Nat) (negative : Bool) : Int → List Char → Option Int
  | acc, [] => some acc
  | acc, c :: cs => do
      let shifted ← fit128? (acc * base)
      let d ← digitOf base c
      let next ← fit128? (shifted + signed negative d)
      readDigits128 base negative next cs

/-- Reads one or more digits into 128 bits. -/
def readMagnitude128 (base : Nat) (negative : Bool) : List Char → Option Int
  | [] => none
  | c :: cs => readDigits128 base negative 0 (c :: cs)

/-- Reads an optional sign and one or more digits into 128 bits. -/
def readInt128 (base : Nat) : List Char → Option Int
  | '-' :: cs => readMagnitude128 base true cs
  | '+' :: cs => readMagnitude128 base false cs
  | cs => readMagnitude128 base false cs

theorem fit128?_eq_some_iff {m n : Int} : fit128? m = some n ↔ Fits128 m ∧ m = n := by
  unfold fit128?
  split <;> simp_all

/-- With a number, those of a smaller magnitude fit. -/
theorem fits128_of_le
    {negative : Bool}
    {m n : Nat}
    (hmn : m ≤ n)
    (hn : Fits128 (signed negative n)) :
    Fits128 (signed negative m) := by
  have hpos : 0 < limit128 := by decide
  unfold Fits128 signed at hn ⊢
  cases negative
  · simp only [Bool.false_eq_true, if_false] at hn ⊢
    omega
  · simp only [if_true] at hn ⊢
    omega

theorem signed_mul (negative : Bool) (m n : Nat) :
    signed negative m * n = signed negative (m * n) := by
  cases negative
  · simp [signed]
  · simp only [signed, if_true, Int.natCast_mul, Int.neg_mul]

theorem signed_add (negative : Bool) (m n : Nat) :
    signed negative m + signed negative n = signed negative (m + n) := by
  cases negative
  · simp [signed]
  · simp only [signed, if_true]
    omega

/-- Reading with 128 bits stops at the numbers that do not fit, and only there. -/
theorem readDigits128_eq
    {base : Nat}
    (hbase : 0 < base)
    (negative : Bool)
    {acc : Nat}
    (hacc : Fits128 (signed negative acc))
    (cs : List Char) :
    readDigits128 base negative (signed negative acc) cs =
      (readDigits base acc cs).bind (fit128? ∘ signed negative) := by
  induction cs generalizing acc with
  | nil => simp [readDigits128, readDigits, fit128?, hacc]
  | cons c cs ih =>
      rw [readDigits128, readDigits, signed_mul]
      cases hd : digitOf base c with
      | none => cases fit128? (signed negative (acc * base)) <;> rfl
      | some d =>
          by_cases hnext : Fits128 (signed negative (acc * base + d))
          · have hshifted : Fits128 (signed negative (acc * base)) :=
              fits128_of_le (Nat.le_add_right _ _) hnext
            simp only [fit128?, hshifted, hnext, signed_add, if_true, Option.bind_eq_bind,
              Option.bind_some]
            exact ih hnext
          -- The digits that follow only take the number further from zero.
          · have hrest : (readDigits base (acc * base + d) cs).bind
                (fit128? ∘ signed negative) = none := by
              cases hread : readDigits base (acc * base + d) cs with
              | none => rfl
              | some n =>
                  have hn : ¬Fits128 (signed negative n) := fun hn =>
                    hnext (fits128_of_le (le_of_readDigits hbase hread) hn)
                  simp [fit128?, hn]
            rw [hrest]
            by_cases hshifted : Fits128 (signed negative (acc * base))
            · simp [fit128?, hshifted, hnext, signed_add]
            · simp [fit128?, hshifted]

theorem readMagnitude128_eq {base : Nat} (hbase : 0 < base) (negative : Bool) (cs : List Char) :
    readMagnitude128 base negative cs =
      (readNat base cs).bind (fit128? ∘ signed negative) := by
  cases cs with
  | nil => rfl
  | cons c cs =>
      have hzero : Fits128 (signed negative 0) := by
        cases negative <;> decide
      have hstart := readDigits128_eq hbase negative hzero (c :: cs)
      cases negative <;> exact hstart

/-- A number with a sign is read into 128 bits exactly if it fits. -/
theorem readInt128_eq {base : Nat} (hbase : 0 < base) (cs : List Char) :
    readInt128 base cs = (readInt base cs).bind fit128? := by
  unfold readInt128 readInt
  split <;> rw [readMagnitude128_eq hbase, Option.bind_map]

end Checked

section Bounded

/-- What is wrong with the text of a bounded number. -/
inductive NumeralError
  | empty
  | badDigit
  | tooLarge
  deriving DecidableEq, Repr

def NumeralError.message : NumeralError → String
  | .empty => "cannot parse integer from empty string"
  | .badDigit => "invalid digit found in string"
  | .tooLarge => "number too large to fit in target type"

/-- Reads decimal digits after the number `acc` while the number stays below `limit`. -/
def readDigitsBelow (limit : Nat) : Nat → List Char → Except NumeralError Nat
  | acc, [] => .ok acc
  | acc, c :: cs =>
      match digitOf 10 c with
      | none => .error .badDigit
      | some d =>
          if acc * 10 + d < limit then readDigitsBelow limit (acc * 10 + d) cs
          else .error .tooLarge

/-- Reads an optionally `+`-signed decimal number below `limit`. -/
def readBelow (limit : Nat) : List Char → Except NumeralError Nat
  | [] => .error .empty
  | ['+'] => .error .badDigit
  | '+' :: c :: cs => readDigitsBelow limit 0 (c :: cs)
  | c :: cs => readDigitsBelow limit 0 (c :: cs)

/-- The text after an optional `+`. -/
def dropPlus : List Char → List Char
  | '+' :: cs => cs
  | cs => cs

theorem dropPlus_eq_self {cs : List Char} (h : ∀ ds, cs ≠ '+' :: ds) : dropPlus cs = cs := by
  unfold dropPlus
  split
  · exact absurd rfl (h _)
  · rfl

theorem eq_dropPlus_or (cs : List Char) : cs = dropPlus cs ∨ cs = '+' :: dropPlus cs := by
  unfold dropPlus
  split
  · exact .inr rfl
  · exact .inl rfl

theorem dropPlus_decimal (n : Nat) : dropPlus (decimal n) = decimal n :=
  dropPlus_eq_self fun ds heq =>
    absurd rfl (head_decimal_not_sign n '+' (by simp [heq])).2

theorem readDigitsBelow_eq_ok_iff
    {limit acc n : Nat}
    {cs : List Char}
    (hacc : acc < limit) :
    readDigitsBelow limit acc cs = .ok n ↔
      n < limit ∧ readDigits 10 acc cs = some n := by
  induction cs generalizing acc with
  | nil =>
      simp only [readDigitsBelow, readDigits, Except.ok.injEq, Option.some.injEq]
      constructor
      · rintro rfl
        exact ⟨hacc, rfl⟩
      · exact fun h => h.2
  | cons c cs ih =>
      simp only [readDigitsBelow, readDigits]
      cases hd : digitOf 10 c with
      | none => simp
      | some d =>
          by_cases hlt : acc * 10 + d < limit
          · simpa [hlt] using ih hlt
          · simp only [hlt, if_false, reduceCtorEq, false_iff, not_and]
            intro hn hread
            have hle := le_of_readDigits (by decide) hread
            omega

/-- The bounded reader accepts exactly the numerals below its limit. -/
theorem readBelow_eq_ok_iff {limit n : Nat} (hlimit : 0 < limit) {cs : List Char} :
    readBelow limit cs = .ok n ↔ n < limit ∧ readNat 10 (dropPlus cs) = some n := by
  unfold readBelow
  split
  · simp [dropPlus, readNat]
  · simp [dropPlus, readNat]
  · rw [readDigitsBelow_eq_ok_iff hlimit]
    rfl
  · rename_i c cs hone hplus
    rw [readDigitsBelow_eq_ok_iff hlimit]
    have hdrop : dropPlus (c :: cs) = c :: cs := by
      apply dropPlus_eq_self
      rintro ds heq
      cases heq
      cases cs with
      | nil => exact absurd rfl (hone rfl)
      | cons d ds => exact absurd rfl (hplus d ds rfl)
    rw [hdrop, readNat]

/-- Only the empty text is reported as empty. -/
theorem readBelow_eq_empty_iff {limit : Nat} {cs : List Char} :
    readBelow limit cs = .error .empty ↔ cs = [] := by
  have hdigits : ∀ (acc : Nat) (cs : List Char),
      readDigitsBelow limit acc cs ≠ .error .empty := by
    intro acc cs
    induction cs generalizing acc with
    | nil => simp [readDigitsBelow]
    | cons c cs ih =>
        simp only [readDigitsBelow]
        split
        · simp
        · split
          · exact ih _
          · simp
  unfold readBelow
  split <;> simp [hdigits]

end Bounded

section Grammar

/-- A text that denotes `n`: one or more decimal digits, after a `+` or without one. -/
def IsNumeral (cs : List Char) (n : Nat) : Prop :=
  ∃ ds, (cs = ds ∨ cs = '+' :: ds) ∧ ds ≠ [] ∧ (∀ d ∈ ds, d.isDigit = true) ∧
    Nat.ofDigitChars 10 ds 0 = n

/-- A numeral for `n` with blanks around it or without. -/
def IsPaddedNumeral (cs : List Char) (n : Nat) : Prop :=
  ∃ inner, IsPadded cs inner ∧ IsNumeral inner n

theorem digitOf_ten_eq_some_iff {c : Char} {d : Nat} :
    digitOf 10 c = some d ↔ c.isDigit = true ∧ c.toNat - '0'.toNat = d := by
  have h0 : '0'.toNat = 48 := rfl
  have h9 : '9'.toNat = 57 := rfl
  rw [Char.isDigit_iff_toNat, h0, h9]
  unfold digitOf digitValue
  by_cases h : 48 ≤ c.toNat ∧ c.toNat ≤ 57
  · have hlt : c.toNat - 48 < 10 := by omega
    simp [h, hlt]
  -- The letters are digits of larger bases only.
  · by_cases hlower : 97 ≤ c.toNat ∧ c.toNat ≤ 102
    · have hge : ¬c.toNat - 87 < 10 := by omega
      simp [h, hlower, hge]
    · by_cases hupper : 65 ≤ c.toNat ∧ c.toNat ≤ 70
      · have hge : ¬c.toNat - 55 < 10 := by omega
        simp [h, hlower, hupper, hge]
      · simp [h, hlower, hupper]

theorem readDigits_ten_eq_some_iff {acc n : Nat} {ds : List Char} :
    readDigits 10 acc ds = some n ↔
      (∀ d ∈ ds, d.isDigit = true) ∧ Nat.ofDigitChars 10 ds acc = n := by
  induction ds generalizing acc with
  | nil => simp [readDigits]
  | cons c ds ih =>
      rw [readDigits, Nat.ofDigitChars_cons, Nat.mul_comm]
      cases hd : digitOf 10 c with
      | none =>
          have hc : ¬c.isDigit = true := fun hc => by
            rw [digitOf_ten_eq_some_iff.2 ⟨hc, rfl⟩] at hd
            cases hd
          simp [hc]
      | some d =>
          obtain ⟨hc, rfl⟩ := digitOf_ten_eq_some_iff.1 hd
          simp [ih, hc]

/-- The numerals are what is read as a number after an optional `+`. -/
theorem isNumeral_iff {cs : List Char} {n : Nat} :
    IsNumeral cs n ↔ readNat 10 (dropPlus cs) = some n := by
  have hread : ∀ ds : List Char, readNat 10 ds = some n ↔
      ds ≠ [] ∧ (∀ d ∈ ds, d.isDigit = true) ∧ Nat.ofDigitChars 10 ds 0 = n := by
    intro ds
    cases ds with
    | nil => simp [readNat]
    | cons d ds => simp [readNat, readDigits_ten_eq_some_iff]
  constructor
  · rintro ⟨ds, rfl | rfl, hds⟩
    -- Digits do not start with a sign, so nothing is dropped.
    · have hdrop : dropPlus cs = cs := by
        apply dropPlus_eq_self
        rintro ds rfl
        exact absurd (hds.2.1 '+' (by simp)) (by decide)
      rw [hdrop]
      exact (hread cs).2 hds
    · exact (hread ds).2 hds
  · intro h
    exact ⟨dropPlus cs, eq_dropPlus_or cs, (hread _).1 h⟩

theorem isNumeral_decimal (n : Nat) : IsNumeral (decimal n) n := by
  rw [isNumeral_iff, dropPlus_decimal, readNat_decimal]

theorem IsNumeral.not_blank {cs : List Char} {n : Nat} (h : IsNumeral cs n) :
    ∀ c ∈ cs, isBlank c = false := by
  obtain ⟨ds, hcs, _, hdigits, _⟩ := h
  have hds : ∀ d ∈ ds, isBlank d = false := fun d hd =>
    isBlank_of_digitOf (by decide) (digitOf_ten_eq_some_iff.2 ⟨hdigits d hd, rfl⟩)
  rcases hcs with rfl | rfl
  · exact hds
  · exact List.forall_mem_cons.2 ⟨rfl, hds⟩

/-- A numeral stands between blanks exactly if trimming leaves it. -/
theorem isPaddedNumeral_iff {cs : List Char} {n : Nat} :
    IsPaddedNumeral cs n ↔ IsNumeral (trim cs) n :=
  exists_isPadded_iff fun _ hinner => hinner.not_blank

theorem IsPadded.isPaddedNumeral {cs : List Char} {n : Nat} (h : IsPadded cs (decimal n)) :
    IsPaddedNumeral cs n :=
  ⟨decimal n, h, isNumeral_decimal n⟩

end Grammar

section Words

variable {α : Type} {cs : List Char}

/-- Reads a numeral for one of `size` words, which stand for the numbers below that. -/
def readWord (size : Nat) (ofNat : Nat → α) (cs : List Char) : Except NumeralError α :=
  (readBelow size cs).map ofNat

def readU32 : List Char → Except NumeralError UInt32 :=
  readWord UInt32.size UInt32.ofNat

def readU64 : List Char → Except NumeralError UInt64 :=
  readWord UInt64.size UInt64.ofNat

/-- Exactly the numerals for the words are accepted, however many there are. -/
theorem readWord_eq_ok_iff
    {size : Nat}
    {ofNat : Nat → α}
    {toNat : α → Nat}
    (hlt : ∀ a, toNat a < size)
    (hto : ∀ n, n < size → toNat (ofNat n) = n)
    (hof : ∀ a, ofNat (toNat a) = a)
    {a : α} :
    readWord size ofNat cs = .ok a ↔ IsNumeral cs (toNat a) := by
  have hsize : 0 < size := Nat.zero_lt_of_lt (hlt a)
  simp only [readWord, map_eq_ok_iff, readBelow_eq_ok_iff hsize, ← isNumeral_iff]
  constructor
  · intro ⟨n, ⟨hn, hnumeral⟩, ha⟩
    rwa [ha, hto n hn]
  · intro h
    exact ⟨toNat a, ⟨hlt a, h⟩, (hof a).symm⟩

theorem readU32_eq_ok_iff {n : UInt32} : readU32 cs = .ok n ↔ IsNumeral cs n.toNat :=
  readWord_eq_ok_iff UInt32.toNat_lt (fun _ => UInt32.toNat_ofNat_of_lt')
    fun _ => UInt32.ofNat_toNat

theorem readU64_eq_ok_iff {n : UInt64} : readU64 cs = .ok n ↔ IsNumeral cs n.toNat :=
  readWord_eq_ok_iff UInt64.toNat_lt (fun _ => UInt64.toNat_ofNat_of_lt')
    fun _ => UInt64.ofNat_toNat

end Words

end Text
end KernelLaunch
