import KernelLaunch.Scalar.Literal
import Mathlib.Data.List.Forall2
import Mathlib.Data.Nat.Digits.Defs

/-!
# Literals of whole numbers

What a literal of a whole number is, is said here by a grammar with values, without the
reader.  The digits of a literal denote one number, whatever the kind it is read for; a kind
accepts the literal exactly if it contains that number.

The reader keeps to 128 bits on its way.  Every kind is narrower, so a literal that does not
fit is refused like any other that is out of range.

**Results.**
* `digitOf_eq_some_iff`, `readDigits_eq_some_iff`: digits are read by their places in the
  alphabet of the base.
* `readWhole_eq_some_iff`: exactly the literals of numbers with 128 bits are read.
* `ScalarKind.readsExactly_parse`: a kind reads the literals of its numbers and no others.
-/

namespace KernelLaunch

section Grammar

/-- The digits up to base 16, with lower-case letters. -/
def lowerDigits : List Char :=
  ['0', '1', '2', '3', '4', '5', '6', '7', '8', '9', 'a', 'b', 'c', 'd', 'e', 'f']

/-- The digits up to base 16, with upper-case letters. -/
def upperDigits : List Char :=
  ['0', '1', '2', '3', '4', '5', '6', '7', '8', '9', 'A', 'B', 'C', 'D', 'E', 'F']

/-- A digit of the base stands for its place among the digits. -/
def IsDigit (base : Nat) (c : Char) (d : Nat) : Prop :=
  d < base ∧ (lowerDigits[d]? = some c ∨ upperDigits[d]? = some c)

/-- One or more digits, from the highest place to the lowest. -/
def IsMagnitude (base : Nat) (cs : List Char) (n : Nat) : Prop :=
  cs ≠ [] ∧ ∃ ds, List.Forall₂ (IsDigit base) cs ds ∧ Nat.ofDigits base ds.reverse = n

/-- An optional sign, and whether it is that of a negative number. -/
inductive IsSign : List Char → Bool → Prop
  | none : IsSign [] false
  | plus : IsSign ['+'] false
  | minus : IsSign ['-'] true

/-- The mark of a base. -/
inductive IsMark : List Char → Nat → Prop
  | decimal : IsMark [] 10
  | lower : IsMark ['0', 'x'] 16
  | upper : IsMark ['0', 'X'] 16

/-- A sign and digits for the number `n`. -/
def IsSigned (base : Nat) (cs : List Char) (n : Int) : Prop :=
  ∃ sign negative digits magnitude, IsSign sign negative ∧ IsMagnitude base digits magnitude ∧
    cs = sign ++ digits ∧ n = Text.signed negative magnitude

/-- A literal of the number `n`: the mark of a base, and a sign and digits behind it. -/
def IsWhole (cs : List Char) (n : Int) : Prop :=
  ∃ mark base rest, IsMark mark base ∧ IsSigned base rest n ∧ cs = mark ++ rest

/-- A literal of the number with blanks around it or without. -/
def IsPaddedWhole (cs : List Char) (n : Int) : Prop :=
  ∃ inner, Text.IsPadded cs inner ∧ IsWhole inner n

end Grammar

section Digits

variable {base acc n : Nat} {cs : List Char}

theorem IsDigit.mem {c : Char} {d : Nat} (h : IsDigit base c d) :
    c ∈ lowerDigits ++ upperDigits :=
  List.mem_append.2 (h.2.imp List.mem_of_getElem? List.mem_of_getElem?)

theorem IsDigit.not_blank {c : Char} {d : Nat} (h : IsDigit base c d) :
    Text.isBlank c = false := by
  have hall : (lowerDigits ++ upperDigits).all (fun c => !Text.isBlank c) = true := by rfl
  simpa using List.all_eq_true.1 hall c h.mem

theorem digitValue_of_place {c : Char} {d : Nat}
    (hd : d < 16)
    (h : lowerDigits[d]? = some c ∨ upperDigits[d]? = some c) :
    Text.digitValue c = d := by
  have hall : ∀ d < 16, lowerDigits[d]?.map Text.digitValue = some d ∧
      upperDigits[d]?.map Text.digitValue = some d := by decide
  obtain ⟨hlower, hupper⟩ := hall d hd
  rcases h with h | h
  · rw [h] at hlower
    exact Option.some.inj hlower
  · rw [h] at hupper
    exact Option.some.inj hupper

theorem place_of_digitValue {c : Char} (hc : Text.digitValue c < 16) :
    lowerDigits[Text.digitValue c]? = some c ∨ upperDigits[Text.digitValue c]? = some c := by
  -- Only ASCII characters up to the last letter have a value.
  have hall : ∀ m < 103, Text.digitValue (Char.ofNat m) < 16 →
      lowerDigits[Text.digitValue (Char.ofNat m)]? = some (Char.ofNat m) ∨
        upperDigits[Text.digitValue (Char.ofNat m)]? = some (Char.ofNat m) := by decide
  have hlt : c.toNat < 103 := by
    unfold Text.digitValue at hc
    dsimp only at hc
    split_ifs at hc <;> omega
  have hplace := hall c.toNat hlt
  rw [Char.ofNat_toNat] at hplace
  exact hplace hc

/-- A digit is read as its place. -/
theorem digitOf_eq_some_iff {c : Char} {d : Nat} (hbase : base ≤ 16) :
    Text.digitOf base c = some d ↔ IsDigit base c d := by
  rw [Text.digitOf, Option.ite_none_right_eq_some, Option.some.injEq, IsDigit]
  constructor
  · rintro ⟨hlt, rfl⟩
    exact ⟨hlt, place_of_digitValue (by omega)⟩
  · rintro ⟨hlt, hplace⟩
    obtain rfl := digitValue_of_place (by omega) hplace
    exact ⟨hlt, rfl⟩

/-- Digits after a number move it up by their places. -/
theorem readDigits_eq_some_iff (hbase : base ≤ 16) :
    Text.readDigits base acc cs = some n ↔
      ∃ ds, List.Forall₂ (IsDigit base) cs ds ∧
        Nat.ofDigits base ds.reverse + base ^ ds.length * acc = n := by
  induction cs generalizing acc with
  | nil => simp [Text.readDigits, List.forall₂_nil_left_iff]
  | cons c cs ih =>
      rw [Text.readDigits]
      cases hc : Text.digitOf base c with
      | none =>
          simp only [reduceCtorEq, false_iff, not_exists, not_and]
          rintro ds hds
          cases hds with
          | cons hd _ =>
              rw [(digitOf_eq_some_iff hbase).2 hd] at hc
              cases hc
      | some d =>
          have hd := (digitOf_eq_some_iff hbase).1 hc
          have hstep : ∀ ds : List Nat,
              Nat.ofDigits base (d :: ds).reverse + base ^ (d :: ds).length * acc =
                Nat.ofDigits base ds.reverse + base ^ ds.length * (acc * base + d) := by
            intro ds
            rw [Nat.ofDigits_reverse_cons, List.length_cons]
            ring
          simp only [ih]
          constructor
          · rintro ⟨ds, hds, rfl⟩
            exact ⟨d :: ds, .cons hd hds, hstep ds⟩
          · rintro ⟨_, hds, rfl⟩
            cases hds with
            | @cons _ e _ ds he hds =>
                obtain rfl : d = e := by
                  rw [(digitOf_eq_some_iff hbase).2 he] at hc
                  exact (Option.some.inj hc).symm
                exact ⟨ds, hds, (hstep ds).symm⟩

theorem readNat_eq_some_iff (hbase : base ≤ 16) :
    Text.readNat base cs = some n ↔ IsMagnitude base cs n := by
  cases cs with
  | nil => simp [Text.readNat, IsMagnitude]
  | cons c cs => simp [Text.readNat, IsMagnitude, readDigits_eq_some_iff hbase]

theorem IsDigit.ne_sign {c : Char} {d : Nat} (h : IsDigit base c d) :
    c ≠ '-' ∧ c ≠ '+' := by
  constructor
  · rintro rfl
    exact absurd h.mem (by decide)
  · rintro rfl
    exact absurd h.mem (by decide)

theorem not_isDigit_mark {c : Char} {d : Nat} (hc : c = 'x' ∨ c = 'X') : ¬IsDigit base c d := by
  intro h
  rcases hc with rfl | rfl
  · exact absurd h.mem (by decide)
  · exact absurd h.mem (by decide)

theorem IsMagnitude.isDigit (h : IsMagnitude base cs n) : ∀ c ∈ cs, ∃ d, IsDigit base c d := by
  obtain ⟨_, ds, hds, _⟩ := h
  clear * - hds
  induction hds with
  | nil => simp
  | cons hd _ ih =>
      intro c hc
      rcases List.mem_cons.1 hc with rfl | hc
      · exact ⟨_, hd⟩
      · exact ih c hc

/-- More zeros in front do not change the number. -/
theorem IsMagnitude.leadingZeros (h : IsMagnitude base cs n) (hbase : 0 < base) (k : Nat) :
    IsMagnitude base (List.replicate k '0' ++ cs) n := by
  obtain ⟨hne, ds, hds, hn⟩ := h
  refine ⟨by simp [hne], List.replicate k 0 ++ ds, ?_, ?_⟩
  · induction k with
    | zero => exact hds
    | succ k ih => exact .cons ⟨hbase, .inl rfl⟩ ih
  · rw [List.reverse_append, List.reverse_replicate, Nat.ofDigits_append_replicate_zero, hn]

end Digits

section Numbers

variable {base : Nat} {cs : List Char} {m n : Int}

/-- A sign is read only in front of digits. -/
theorem readInt_eq_some_iff (hbase : base ≤ 16) :
    Text.readInt base cs = some n ↔ IsSigned base cs n := by
  constructor
  · intro h
    unfold Text.readInt at h
    split at h <;> obtain ⟨magnitude, hread, rfl⟩ := Option.map_eq_some_iff.1 h
    · exact ⟨_, _, _, _, .minus, (readNat_eq_some_iff hbase).1 hread, rfl, rfl⟩
    · exact ⟨_, _, _, _, .plus, (readNat_eq_some_iff hbase).1 hread, rfl, rfl⟩
    · exact ⟨_, _, _, _, .none, (readNat_eq_some_iff hbase).1 hread, rfl, rfl⟩
  · rintro ⟨sign, negative, digits, magnitude, hsign, hdigits, rfl, rfl⟩
    have hread := (readNat_eq_some_iff hbase).2 hdigits
    cases hsign with
    | plus => exact Option.map_eq_some_iff.2 ⟨magnitude, hread, rfl⟩
    | minus => exact Option.map_eq_some_iff.2 ⟨magnitude, hread, rfl⟩
    | none =>
        have hhead : ∀ c ∈ digits.head?, c ≠ '-' ∧ c ≠ '+' := by
          intro c hc
          obtain ⟨d, hd⟩ := hdigits.isDigit c (List.mem_of_mem_head? hc)
          exact hd.ne_sign
        rw [List.nil_append, Text.readInt_of_not_sign hhead, hread]
        rfl

/-- No mark of a base stands in a sign and digits. -/
theorem IsSigned.notMem_mark {x : Char} (h : IsSigned base cs n) (hx : x = 'x' ∨ x = 'X') :
    x ∉ cs := by
  obtain ⟨sign, negative, digits, magnitude, hsign, hdigits, rfl, _⟩ := h
  intro hmem
  rcases List.mem_append.1 hmem with hmem | hmem
  · rcases hx with rfl | rfl <;> cases hsign <;> simp at hmem
  · obtain ⟨d, hd⟩ := hdigits.isDigit x hmem
    exact not_isDigit_mark hx hd

theorem isWhole_marked {x : Char} (hx : x = 'x' ∨ x = 'X') :
    IsWhole ('0' :: x :: cs) n ↔ IsSigned 16 cs n := by
  constructor
  · rintro ⟨mark, base, rest, hmark, hrest, heq⟩
    cases hmark with
    | decimal =>
        obtain rfl : '0' :: x :: cs = rest := heq
        exact absurd (by simp) (hrest.notMem_mark hx)
    | lower =>
        obtain ⟨rfl, rfl⟩ : x = 'x' ∧ cs = rest := by simpa using heq
        exact hrest
    | upper =>
        obtain ⟨rfl, rfl⟩ : x = 'X' ∧ cs = rest := by simpa using heq
        exact hrest
  · intro h
    rcases hx with rfl | rfl
    · exact ⟨_, _, cs, .lower, h, rfl⟩
    · exact ⟨_, _, cs, .upper, h, rfl⟩

theorem isWhole_unmarked
    (hlower : ∀ rest, cs ≠ '0' :: 'x' :: rest)
    (hupper : ∀ rest, cs ≠ '0' :: 'X' :: rest) :
    IsWhole cs n ↔ IsSigned 10 cs n := by
  constructor
  · rintro ⟨mark, base, rest, hmark, hrest, heq⟩
    cases hmark with
    | decimal =>
        obtain rfl : cs = rest := heq
        exact hrest
    | lower => exact absurd heq (hlower rest)
    | upper => exact absurd heq (hupper rest)
  · exact fun h => ⟨_, _, cs, .decimal, h, rfl⟩

/-- The mark in front of a literal decides the base that it is read in. -/
theorem readMarked_eq_some_iff :
    ScalarKind.readMarked Text.readInt cs = some n ↔ IsWhole cs n := by
  unfold ScalarKind.readMarked
  split
  · rw [isWhole_marked (.inl rfl), readInt_eq_some_iff (by decide)]
  · rw [isWhole_marked (.inr rfl), readInt_eq_some_iff (by decide)]
  · rename_i hlower hupper
    rw [isWhole_unmarked (fun rest h => hlower rest h) (fun rest h => hupper rest h),
      readInt_eq_some_iff (by decide)]

/-- A text is a literal of one number at most. -/
theorem IsWhole.unique (hm : IsWhole cs m) (hn : IsWhole cs n) : m = n := by
  rw [← readMarked_eq_some_iff] at hm hn
  exact Option.some.inj (hm.symm.trans hn)

theorem IsMark.not_blank {mark : List Char} (h : IsMark mark base) :
    ∀ c ∈ mark, Text.isBlank c = false := by
  cases h <;> simp [Text.isBlank]

theorem IsSign.not_blank {sign : List Char} {negative : Bool} (h : IsSign sign negative) :
    ∀ c ∈ sign, Text.isBlank c = false := by
  cases h <;> simp [Text.isBlank]

/-- No mark, sign or digit is a blank. -/
theorem IsWhole.not_blank (h : IsWhole cs n) : ∀ c ∈ cs, Text.isBlank c = false := by
  obtain ⟨mark, base, rest, hmark, ⟨sign, _, digits, _, hsign, hdigits, rfl, _⟩, rfl⟩ := h
  intro c hc
  rcases List.mem_append.1 hc with hc | hc
  · exact hmark.not_blank c hc
  · rcases List.mem_append.1 hc with hc | hc
    · exact hsign.not_blank c hc
    · obtain ⟨d, hd⟩ := hdigits.isDigit c hc
      exact hd.not_blank

/-- A literal stands between blanks exactly if trimming leaves it. -/
theorem isPaddedWhole_iff : IsPaddedWhole cs n ↔ IsWhole (Text.trim cs) n :=
  Text.exists_isPadded_iff fun _ hinner => hinner.not_blank

theorem IsPaddedWhole.unique (hm : IsPaddedWhole cs m) (hn : IsPaddedWhole cs n) : m = n :=
  (isPaddedWhole_iff.1 hm).unique (isPaddedWhole_iff.1 hn)

/-- Exactly the literals of numbers that fit in 128 bits are read. -/
theorem readWhole_eq_some_iff :
    ScalarKind.readWhole cs = some n ↔ IsWhole cs n ∧ Text.Fits128 n := by
  have hfit : ScalarKind.readWhole cs =
      (ScalarKind.readMarked Text.readInt cs).bind Text.fit128? := by
    unfold ScalarKind.readWhole ScalarKind.readMarked
    split <;> rw [Text.readInt128_eq (by decide)]
  rw [hfit, Option.bind_eq_some_iff]
  simp only [readMarked_eq_some_iff, Text.fit128?_eq_some_iff]
  constructor
  · rintro ⟨m, hm, hfits, rfl⟩
    exact ⟨hm, hfits⟩
  · rintro ⟨hn, hfits⟩
    exact ⟨n, hn, hfits, rfl⟩

end Numbers

section Kinds

variable {k : IntKind} {n : Int}

/-- Every kind is narrower than 128 bits. -/
theorem IntKind.Contains.fits128 (h : k.Contains n) : Text.Fits128 n := by
  have hbounds : -(Text.limit128 : Int) ≤ k.least ∧ k.limit ≤ Text.limit128 := by
    rcases k with ⟨_ | _, _ | _ | _ | _⟩ <;> decide
  exact ⟨le_trans hbounds.1 h.1, lt_of_lt_of_le h.2 hbounds.2⟩

theorem IntKind.parse_eq_ok_iff {s : String} {v : ScalarValue} :
    (ScalarKind.int k).parse s = .ok v ↔
      ∃ n, IsPaddedWhole s.toList n ∧ ∃ h : k.Contains n, v = .int k n h := by
  rw [ScalarKind.parse_eq_ok_iff, ScalarKind.read_int_eq_some_iff]
  simp only [readWhole_eq_some_iff, ← isPaddedWhole_iff]
  constructor
  · rintro ⟨n, ⟨hn, _⟩, h, rfl⟩
    exact ⟨n, hn, h, rfl⟩
  · rintro ⟨n, hn, h, rfl⟩
    exact ⟨n, ⟨hn, h.fits128⟩, h, rfl⟩

theorem IntKind.exists_parse_iff {s : String} :
    (∃ v, (ScalarKind.int k).parse s = .ok v) ↔
      ∃ n, IsPaddedWhole s.toList n ∧ k.Contains n := by
  simp only [IntKind.parse_eq_ok_iff]
  constructor
  · rintro ⟨_, n, hn, h, _⟩
    exact ⟨n, hn, h⟩
  · rintro ⟨n, hn, h⟩
    exact ⟨_, n, hn, h, rfl⟩

theorem IntKind.parse_eq_error_iff {s : String} {e : LiteralError} :
    (ScalarKind.int k).parse s = .error e ↔
      (∀ n, IsPaddedWhole s.toList n → ¬k.Contains n) ∧ e = ⟨.int k, s⟩ := by
  have hnone : (ScalarKind.int k).read (Text.trim s.toList) = none ↔
      ¬∃ v, (ScalarKind.int k).parse s = .ok v := by
    simp only [ScalarKind.parse_eq_ok_iff, Option.eq_none_iff_forall_ne_some, not_exists, ne_eq]
  rw [ScalarKind.parse_eq_error_iff, hnone, IntKind.exists_parse_iff]
  simp only [not_exists, not_and]

/-- What the kinds of whole numbers make of a text. -/
structure ReadsExactly (s : String) : Prop where
  accepted : ∀ (k : IntKind) (v : ScalarValue), (ScalarKind.int k).parse s = .ok v ↔
    ∃ n, IsPaddedWhole s.toList n ∧ ∃ h : k.Contains n, v = .int k n h
  /-- A text that is no literal, or that of a number outside the kind, is refused as it is. -/
  refused : ∀ (k : IntKind) (e : LiteralError), (ScalarKind.int k).parse s = .error e ↔
    (∀ n, IsPaddedWhole s.toList n → ¬k.Contains n) ∧ e = ⟨.int k, s⟩
  /-- Numbers that are too large for the 128 bits on the way are refused like the others. -/
  tooWide : ∀ n, IsPaddedWhole s.toList n → ¬Text.Fits128 n → ∀ k : IntKind,
    (ScalarKind.int k).parse s = .error ⟨.int k, s⟩
  /-- Zeros in front of the digits change nothing. -/
  leadingZeros : ∀ {mark sign digits : List Char} {base magnitude : Nat} {negative : Bool},
    IsMark mark base → IsSign sign negative → IsMagnitude base digits magnitude →
      Text.IsPadded s.toList (mark ++ (sign ++ digits)) → ∀ (zeros : Nat) (t : String),
        Text.IsPadded t.toList (mark ++ (sign ++ (List.replicate zeros '0' ++ digits))) →
          ∀ (k : IntKind) (v : ScalarValue),
            (ScalarKind.int k).parse t = .ok v ↔ (ScalarKind.int k).parse s = .ok v
  /-- Two kinds that accept the text agree on its number. -/
  agree : ∀ (k l : IntKind) (m n : Int) (hm : k.Contains m) (hn : l.Contains n),
    (ScalarKind.int k).parse s = .ok (.int k m hm) →
      (ScalarKind.int l).parse s = .ok (.int l n hn) → m = n
  /-- The kinds that accept a literal are those that contain its number. -/
  accepting : ∀ n, IsPaddedWhole s.toList n → ∀ k : IntKind,
    (∃ v, (ScalarKind.int k).parse s = .ok v) ↔ k.Contains n

/-- A kind of whole numbers reads the literals of its numbers and nothing else. -/
theorem ScalarKind.readsExactly_parse (s : String) : ReadsExactly s where
  accepted := fun _ _ => IntKind.parse_eq_ok_iff
  refused := fun _ _ => IntKind.parse_eq_error_iff
  tooWide := by
    intro n hn hwide k
    refine IntKind.parse_eq_error_iff.2 ⟨fun m hm hcontains => hwide ?_, rfl⟩
    rw [hn.unique hm]
    exact hcontains.fits128
  leadingZeros := by
    intro mark sign digits base magnitude negative hmark hsign hdigits hs zeros t ht k v
    have hpos : 0 < base := by
      cases hmark <;> simp
    have hwhole : IsPaddedWhole s.toList (Text.signed negative magnitude) :=
      ⟨_, hs, _, _, _, hmark, ⟨_, _, _, _, hsign, hdigits, rfl, rfl⟩, rfl⟩
    have hzeros : IsPaddedWhole t.toList (Text.signed negative magnitude) :=
      ⟨_, ht, _, _, _, hmark,
        ⟨_, _, _, _, hsign, hdigits.leadingZeros hpos zeros, rfl, rfl⟩, rfl⟩
    rw [IntKind.parse_eq_ok_iff, IntKind.parse_eq_ok_iff]
    constructor
    · rintro ⟨n, hn, h, rfl⟩
      exact ⟨n, hzeros.unique hn ▸ hwhole, h, rfl⟩
    · rintro ⟨n, hn, h, rfl⟩
      exact ⟨n, hwhole.unique hn ▸ hzeros, h, rfl⟩
  agree := by
    intro k l m n hm hn hk hl
    obtain ⟨_, hwhole, _, heq⟩ := IntKind.parse_eq_ok_iff.1 hk
    obtain ⟨_, hwhole', _, heq'⟩ := IntKind.parse_eq_ok_iff.1 hl
    cases heq
    cases heq'
    exact hwhole.unique hwhole'
  accepting := by
    intro n hn k
    rw [IntKind.exists_parse_iff]
    constructor
    · rintro ⟨m, hm, h⟩
      exact hn.unique hm ▸ h
    · exact fun h => ⟨n, hn, h⟩

/-- The sign stands behind the mark, and zeros do not count. -/
example : (ScalarKind.int ⟨.signed, .w8⟩).parse " 0X-0080\n" =
    .ok (.int ⟨.signed, .w8⟩ (-128) (by decide)) := by
  decide +kernel

/-- The mark does not stand behind the sign. -/
example : (ScalarKind.int ⟨.signed, .w8⟩).parse "-0x80" =
    .error ⟨.int ⟨.signed, .w8⟩, "-0x80"⟩ := by
  decide +kernel

end Kinds

end KernelLaunch
