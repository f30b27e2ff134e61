import KernelLaunch.Proofs.WholeLiterals
import KernelLaunch.Scalar.Payload

/-!
# The encodings of a scalar

A truth value or a whole number is printed as a text, stored as bytes and widened to a number
of 64 bits.  What a text and what bytes stand for is said here without the functions that
make them: a text by the grammar of decimal numbers, bytes as a number of their width, with
the sign in its highest bit where the kind has one.

    -2 as i16    text "-2"    bytes FE FF    no widened number
    258 as u16   text "258"   bytes 02 01    258

**Results.**
* `prints_text_iff`, `stores_payload_iff`: the text of a value, and its bytes, stand for the
  value and nothing else.
* `parse_of_isPadded`: the text is read back with any blanks around it.
* `encodingsAgree`: all encodings of a value stand for one thing, and determine it.
-/

namespace KernelLaunch

section Meaning

/-- What a truth value or a whole number stands for. -/
inductive Datum
  | truth (value : Bool)
  | number (value : Int)
  deriving DecidableEq

/-- What a value stands for, unless it is a floating-point number. -/
def ScalarValue.datum? : ScalarValue → Option Datum
  | .bool b => some (.truth b)
  | .int _ n _ => some (.number n)
  | .float _ _ => none

/-- What a text says: a truth value by its name, a number in decimal. -/
inductive Prints : List Char → Datum → Prop
  | yes : Prints ['t', 'r', 'u', 'e'] (.truth true)
  | no : Prints ['f', 'a', 'l', 's', 'e'] (.truth false)
  | number {cs : List Char} {n : Int} (decimal : IsSigned 10 cs n) : Prints cs (.number n)

/-- What bytes store for a kind: a truth value in one byte, a number in as many as the kind
has, the least significant first and with a sign in two's complement. -/
inductive Stores : ScalarKind → List UInt8 → Datum → Prop
  | no : Stores .bool [0] (.truth false)
  | yes : Stores .bool [1] (.truth true)
  | unsigned {w : Width} {bs : List UInt8} (length : bs.length = w.bytes) :
      Stores (.int ⟨.unsigned, w⟩) bs (.number (ofLittleEndian bs))
  | signed {w : Width} {bs : List UInt8} (length : bs.length = w.bytes) :
      Stores (.int ⟨.signed, w⟩) bs (.number (BitVec.ofNat w.bits (ofLittleEndian bs)).toInt)

/-- The encodings of a value all stand for the same. -/
structure EncodingsAgree (v : ScalarValue) (d : Datum) : Prop where
  printed : ∀ e, Prints v.text.toList e ↔ e = d
  readBack : ∀ s, Text.IsPadded s.toList v.text.toList → v.kind.parse s = .ok v
  size : v.payload.length = v.bytes ∧ v.bytes = v.kind.bytes
  stored : ∀ e, Stores v.kind v.payload e ↔ e = d
  decoded : ∀ (k : ScalarKind) (bs : List UInt8),
    k.decode? bs = some v ↔ v.kind = k ∧ v.payload = bs
  /-- Only numbers are widened, and only those that are not negative. -/
  widened : ∀ n : Nat, v.asNat? = some n ↔ d = .number n
  widenedFits : ∀ n, v.asNat? = some n → n < UInt64.size
  byText : ∀ w : ScalarValue, w.kind = v.kind → w.text = v.text → w = v
  byPayload : ∀ w : ScalarValue, w.kind = v.kind → w.payload = v.payload → w = v

end Meaning

section Texts

variable {v w : ScalarValue} {d e : Datum}

theorem toList_text_int {k : IntKind} {n : Int} (h : k.Contains n) :
    (ScalarValue.int k n h).text.toList = Text.decimalInt n :=
  String.toList_ofList

theorem isSigned_decimalInt (n : Int) : IsSigned 10 (Text.decimalInt n) n :=
  (readInt_eq_some_iff (by decide)).1 (Text.readInt_decimalInt n)

theorem not_blank_of_mem_text (h : v.datum? = some d) :
    ∀ c ∈ v.text.toList, Text.isBlank c = false := by
  cases v with
  | bool b => cases b <;> simp [ScalarValue.text, Text.isBlank]
  | int k n hn =>
      rw [toList_text_int hn]
      exact Text.not_isBlank_of_mem_decimalInt
  | float k w => cases h

theorem prints_text (h : v.datum? = some d) : Prints v.text.toList d := by
  cases v with
  | bool b =>
      cases h
      cases b
      · exact .no
      · exact .yes
  | int k n hn =>
      cases h
      rw [toList_text_int hn]
      exact .number (isSigned_decimalInt n)
  | float k w => cases h

theorem IsSigned.readInt {cs : List Char} {n : Int} (h : IsSigned 10 cs n) :
    Text.readInt 10 cs = some n :=
  (readInt_eq_some_iff (by decide)).2 h

/-- A text says one thing at most: the names of truth values are no numbers. -/
theorem Prints.unique {cs : List Char} (hd : Prints cs d) (he : Prints cs e) : e = d := by
  cases hd with
  | yes =>
      cases he with
      | yes => rfl
      | number h => cases h.readInt
  | no =>
      cases he with
      | no => rfl
      | number h => cases h.readInt
  | number h =>
      cases he with
      | yes => cases h.readInt
      | no => cases h.readInt
      | number h' => rw [Option.some.inj (h'.readInt.symm.trans h.readInt)]

/-- The text of a value stands for the value and nothing else. -/
theorem prints_text_iff (h : v.datum? = some d) : Prints v.text.toList e ↔ e = d := by
  constructor
  · exact (prints_text h).unique
  · rintro rfl
    exact prints_text h

/-- The text of a value is read back, whatever blanks stand around it. -/
theorem parse_of_isPadded
    (h : v.datum? = some d)
    {s : String}
    (hs : Text.IsPadded s.toList v.text.toList) :
    v.kind.parse s = .ok v := by
  cases v with
  | bool b =>
      have htrim := (Text.isPadded_iff (not_blank_of_mem_text h)).1 hs
      rw [ScalarValue.kind, ScalarKind.parse_eq_ok_iff, htrim]
      cases b <;> rfl
  | int k n hn =>
      rw [toList_text_int hn] at hs
      have hwhole : IsWhole (Text.decimalInt n) n :=
        ⟨[], 10, _, .decimal, isSigned_decimalInt n, rfl⟩
      exact IntKind.parse_eq_ok_iff.2 ⟨n, ⟨_, hs, hwhole⟩, hn, rfl⟩
  | float k w => cases h

end Texts

section Payloads

variable {v w : ScalarValue} {d e : Datum} {k : IntKind} {n : Int}

theorem Width.two_pow_bits (w : Width) : 2 ^ w.bits = w.count := by
  rw [Width.count_eq_shift, Nat.one_shiftLeft]

theorem toInt_payload {w : Width} (h : (⟨.signed, w⟩ : IntKind).Contains n) :
    (BitVec.ofNat w.bits (ofLittleEndian (ScalarValue.int ⟨.signed, w⟩ n h).payload)).toInt =
      n := by
  have hhalf := w.two_mul_half
  have hrange := IntKind.contains_signed.1 h
  have hword : (ofLittleEndian (ScalarValue.int ⟨.signed, w⟩ n h).payload : Int) =
      n % w.count := ScalarValue.ofLittleEndian_payload_int h
  rw [BitVec.toInt_ofNat', w.two_pow_bits, hword, Int.emod_bmod]
  exact Int.bmod_eq_of_le_mul_two (by omega) (by omega)

theorem natCast_payload {w : Width} (h : (⟨.unsigned, w⟩ : IntKind).Contains n) :
    (ofLittleEndian (ScalarValue.int ⟨.unsigned, w⟩ n h).payload : Int) = n := by
  rw [ScalarValue.ofLittleEndian_payload_int, h.emod_count,
    if_pos (IntKind.contains_unsigned.1 h).1]

theorem stores_payload (h : v.datum? = some d) : Stores v.kind v.payload d := by
  cases v with
  | bool b =>
      cases h
      cases b
      · exact .no
      · exact .yes
  | int k n hn =>
      cases h
      obtain ⟨s, w⟩ := k
      cases s with
      | signed =>
          have hstores := Stores.signed (ScalarValue.length_payload (.int ⟨.signed, w⟩ n hn))
          rwa [toInt_payload hn] at hstores
      | unsigned =>
          have hstores := Stores.unsigned (ScalarValue.length_payload (.int ⟨.unsigned, w⟩ n hn))
          rwa [natCast_payload hn] at hstores
  | float k w => cases h

/-- Bytes store one thing at most. -/
theorem Stores.unique {k : ScalarKind} {bs : List UInt8} (hd : Stores k bs d)
    (he : Stores k bs e) :
    e = d := by
  cases hd <;> cases he <;> rfl

/-- The bytes of a value stand for the value and nothing else. -/
theorem stores_payload_iff (h : v.datum? = some d) : Stores v.kind v.payload e ↔ e = d := by
  constructor
  · exact (stores_payload h).unique
  · rintro rfl
    exact stores_payload h

end Payloads

section Agreement

variable {v w : ScalarValue} {d : Datum}

theorem exists_datum?_of_kind_eq (h : v.datum? = some d) (hkind : w.kind = v.kind) :
    ∃ e, w.datum? = some e := by
  cases w with
  | bool b => exact ⟨_, rfl⟩
  | int k n hn => exact ⟨_, rfl⟩
  | float k x =>
      cases v with
      | bool b => cases hkind
      | int l n hn => cases hkind
      | float l y => cases h

theorem asNat?_eq_some_iff (h : v.datum? = some d) {n : Nat} :
    v.asNat? = some n ↔ d = .number n := by
  cases v with
  | bool b =>
      cases h
      simp [ScalarValue.asNat?]
  | int k m hm =>
      cases h
      rw [ScalarValue.asNat?, Datum.number.injEq, Option.ite_none_right_eq_some,
        Option.some.injEq]
      omega
  | float k w => cases h

/-- A widened number fits in 64 bits. -/
theorem lt_of_asNat?_eq_some {n : Nat} (h : v.asNat? = some n) : n < UInt64.size := by
  cases v with
  | bool b => cases h
  | float k w => cases h
  | int k m hm =>
      rw [ScalarValue.asNat?, Option.ite_none_right_eq_some, Option.some.injEq] at h
      have hlimit : k.limit ≤ UInt64.size := by
        rcases k with ⟨_ | _, _ | _ | _ | _⟩ <;> decide
      have hm := hm.2
      omega

/-- Two values of a kind with the same text are read back from it as one value. -/
theorem eq_of_text_eq (h : v.datum? = some d) (hkind : w.kind = v.kind) (htext : w.text = v.text) :
    w = v := by
  obtain ⟨e, he⟩ := exists_datum?_of_kind_eq h hkind
  have hv := parse_of_isPadded h (Text.isPadded_self v.text.toList)
  have hw := parse_of_isPadded he (Text.isPadded_self w.text.toList)
  rw [htext, hkind, hv] at hw
  exact (Except.ok.inj hw).symm

theorem eq_of_payload_eq (hkind : w.kind = v.kind) (hpayload : w.payload = v.payload) :
    w = v := by
  have hv := ScalarKind.decode?_payload v
  rw [ScalarKind.decode?_eq_some_iff.2 ⟨hkind, hpayload⟩] at hv
  exact Option.some.inj hv

/-- The encodings of a truth value or a whole number agree: its text, its bytes and its
widened form all stand for the value, and the text as well as the bytes determine it within
its kind. -/
theorem encodingsAgree (h : v.datum? = some d) : EncodingsAgree v d where
  printed := fun _ => prints_text_iff h
  readBack := fun _ hs => parse_of_isPadded h hs
  size := ⟨ScalarValue.length_payload v, rfl⟩
  stored := fun _ => stores_payload_iff h
  decoded := fun _ _ => ScalarKind.decode?_eq_some_iff
  widened := fun _ => asNat?_eq_some_iff h
  widenedFits := fun _ hn => lt_of_asNat?_eq_some hn
  byText := fun _ hkind htext => eq_of_text_eq h hkind htext
  byPayload := fun _ hkind hpayload => eq_of_payload_eq hkind hpayload

/-- The least number of a kind has no positive counterpart in it. -/
theorem encodingsAgree_least :
    (ScalarValue.int ⟨.signed, .w16⟩ (-32768) (by decide)).datum? = some (.number (-32768)) ∧
      EncodingsAgree (.int ⟨.signed, .w16⟩ (-32768) (by decide)) (.number (-32768)) :=
  ⟨rfl, encodingsAgree rfl⟩

end Agreement

end KernelLaunch
