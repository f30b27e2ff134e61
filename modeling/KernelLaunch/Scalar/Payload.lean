import KernelLaunch.Scalar.Value

/-!
# The bytes of a scalar argument

A scalar argument is handed over as its bytes, the least significant first.
Negative numbers are in two's complement; a truth value is one byte, `1` or `0`.

**Results.**
* `ofLittleEndian_littleEndian`, `littleEndian_ofLittleEndian`: the bytes determine the number
  up to its width, and the number its bytes.
* `length_payload`: a value has as many bytes as its kind says.
* `decode?_eq_some_iff`: a kind decodes exactly the bytes of its values, each to that value.
-/

namespace KernelLaunch

section Bytes

/-- The lowest `count` bytes of a number, the least significant first. -/
def littleEndian : Nat → Nat → List UInt8
  | 0, _ => []
  | count + 1, n => UInt8.ofNat n :: littleEndian count (n / 256)

/-- The number whose bytes are given, the least significant first. -/
def ofLittleEndian : List UInt8 → Nat
  | [] => 0
  | b :: bs => b.toNat + 256 * ofLittleEndian bs

@[simp] theorem length_littleEndian (count n : Nat) :
    (littleEndian count n).length = count := by
  induction count generalizing n with
  | zero => rfl
  | succ count ih => simp [littleEndian, ih]

/-- The bytes determine the number up to its width. -/
theorem ofLittleEndian_littleEndian (count n : Nat) :
    ofLittleEndian (littleEndian count n) = n % (1 <<< (8 * count)) := by
  induction count generalizing n with
  | zero => simp [littleEndian, ofLittleEndian, Nat.mod_one]
  | succ count ih =>
      rw [littleEndian, ofLittleEndian, ih, Nat.one_shiftLeft, Nat.one_shiftLeft,
        Nat.mul_succ, Nat.pow_add, Nat.mul_comm (2 ^ (8 * count)), Nat.mod_mul]
      simp

theorem ofLittleEndian_lt (bs : List UInt8) : ofLittleEndian bs < 1 <<< (8 * bs.length) := by
  induction bs with
  | nil => decide
  | cons b bs ih =>
      have hb : b.toNat < 256 := b.toNat_lt
      rw [Nat.one_shiftLeft] at ih ⊢
      rw [ofLittleEndian, List.length_cons, Nat.mul_succ, Nat.pow_add]
      omega

/-- The number determines the bytes. -/
theorem littleEndian_ofLittleEndian (bs : List UInt8) :
    littleEndian bs.length (ofLittleEndian bs) = bs := by
  induction bs with
  | nil => rfl
  | cons b bs ih =>
      have hb : b.toNat < 256 := b.toNat_lt
      have hhead : UInt8.ofNat (b.toNat + 256 * ofLittleEndian bs) = b := by
        apply UInt8.toNat_inj.1
        simp only [UInt8.toNat_ofNat']
        omega
      have htail : (b.toNat + 256 * ofLittleEndian bs) / 256 = ofLittleEndian bs := by omega
      rw [ofLittleEndian, List.length_cons, littleEndian, hhead, htail, ih]

end Bytes

namespace IntKind

section Residues

variable {k : IntKind} {n : Int} {m : Nat}

/-- The number that a word of the width stands for; with a sign, the upper half of the words
stands for the negative numbers. -/
def ofWord (k : IntKind) (m : Nat) : Int :=
  match k.signedness with
  | .unsigned => m
  | .signed => if m < k.width.half then m else m - k.width.count

/-- A number of the kind below zero has the word of its complement. -/
theorem Contains.emod_count (h : k.Contains n) :
    n % k.width.count = if 0 ≤ n then n else n + k.width.count := by
  have hrange : -(k.width.count : Int) ≤ n ∧ n < k.width.count := by
    have hhalf := k.width.two_mul_half
    obtain ⟨s, w⟩ := k
    cases s with
    | signed =>
        rw [contains_signed] at h
        dsimp only at hhalf ⊢
        omega
    | unsigned =>
        rw [contains_unsigned] at h
        dsimp only
        omega
  split
  · exact Int.emod_eq_of_lt (by omega) hrange.2
  · rw [← Int.add_emod_right, Int.emod_eq_of_lt (by omega) (by omega)]

/-- The word of a number of the kind stands for that number. -/
theorem ofWord_of_emod (h : k.Contains n) (hm : (m : Int) = n % k.width.count) :
    k.ofWord m = n := by
  rw [h.emod_count] at hm
  have hhalf := k.width.two_mul_half
  obtain ⟨s, w⟩ := k
  dsimp only at hm hhalf
  cases s with
  | signed =>
      rw [contains_signed] at h
      simp only [ofWord]
      by_cases hn : 0 ≤ n
      · rw [if_pos hn] at hm
        rw [if_pos (by omega), hm]
      · rw [if_neg hn] at hm
        rw [if_neg (by omega)]
        omega
  | unsigned =>
      rw [contains_unsigned] at h
      rw [if_pos h.1] at hm
      exact hm

theorem ofWord_emod (h : m < k.width.count) : k.ofWord m % k.width.count = m := by
  have hword : (m : Int) % k.width.count = m := Int.emod_eq_of_lt (by omega) (by omega)
  unfold ofWord
  split
  · exact hword
  · split
    · exact hword
    · rw [Int.sub_emod_right, hword]

end Residues

end IntKind

namespace ScalarValue

/-- The bytes of the value as the kernel receives them. -/
def payload : ScalarValue → List UInt8
  | .bool b => [if b then 1 else 0]
  | .int k n _ => littleEndian k.width.bytes (n % k.width.count).toNat
  | .float k w => littleEndian (k.format.width / 8) w.toNat

/-- A value has as many bytes as its kind says. -/
theorem length_payload (v : ScalarValue) : v.payload.length = v.bytes := by
  cases v <;> simp [payload, bytes, kind, ScalarKind.bytes]

/-- The bytes of a whole number are those of its residue. -/
theorem ofLittleEndian_payload_int {k : IntKind} {n : Int} (h : k.Contains n) :
    (ofLittleEndian (int k n h).payload : Int) = n % k.width.count := by
  have hpos : 0 < k.width.count := by
    cases k.width <;> decide
  have hnonneg : 0 ≤ n % k.width.count := Int.emod_nonneg _ (by omega)
  have hlt : n % k.width.count < k.width.count := Int.emod_lt_of_pos _ (by omega)
  rw [payload, ofLittleEndian_littleEndian, ← Width.bits, ← Width.count_eq_shift,
    Nat.mod_eq_of_lt (by omega), Int.toNat_of_nonneg hnonneg]

end ScalarValue

namespace ScalarKind

/-- The value of the kind that has the given bytes. -/
def decode? : ScalarKind → List UInt8 → Option ScalarValue
  | .bool, [b] => if b = 0 then some (.bool false) else if b = 1 then some (.bool true) else none
  | .bool, _ => none
  | .int k, bs =>
      if bs.length = k.width.bytes then
        match k.signedness with
        | .unsigned => k.value? (ofLittleEndian bs)
        | .signed =>
            if ofLittleEndian bs < k.width.half then k.value? (ofLittleEndian bs)
            else k.value? (ofLittleEndian bs - k.width.count)
      else none
  | .float k, bs =>
      if bs.length = k.format.width / 8 then
        some (.float k (BitVec.ofNat k.format.width (ofLittleEndian bs)))
      else none

section Decoding

variable {bs : List UInt8} {v : ScalarValue} {k : IntKind}

theorem decode?_int (h : bs.length = k.width.bytes) :
    (ScalarKind.int k).decode? bs = k.value? (k.ofWord (ofLittleEndian bs)) := by
  simp only [decode?, if_pos h, IntKind.ofWord]
  cases k.signedness with
  | unsigned => rfl
  | signed => exact (apply_ite k.value? _ _ _).symm

/-- The bytes of a value are decoded to it. -/
theorem decode?_payload (v : ScalarValue) : v.kind.decode? v.payload = some v := by
  cases v with
  | bool b => cases b <;> rfl
  | int k n h =>
      have hlength : (ScalarValue.int k n h).payload.length = k.width.bytes :=
        ScalarValue.length_payload _
      rw [ScalarValue.kind, decode?_int hlength,
        IntKind.ofWord_of_emod h (ScalarValue.ofLittleEndian_payload_int h), IntKind.value?,
        dif_pos h]
  | float k w =>
      have hlength : (ScalarValue.float k w).payload.length = k.format.width / 8 :=
        ScalarValue.length_payload _
      have hword : ofLittleEndian (ScalarValue.float k w).payload = w.toNat := by
        rw [ScalarValue.payload, ofLittleEndian_littleEndian]
        have hlt := w.isLt
        cases k <;> exact Nat.mod_eq_of_lt hlt
      simp only [ScalarValue.kind, decode?, if_pos hlength, hword, BitVec.ofNat_toNat,
        BitVec.setWidth_eq]

theorem payload_of_decode?_bool (h : ScalarKind.bool.decode? bs = some v) :
    v.kind = .bool ∧ v.payload = bs := by
  cases bs with
  | nil => cases h
  | cons b bs =>
      cases bs with
      | cons c bs => cases h
      | nil =>
          simp only [decode?] at h
          split at h
          · rename_i hb
            cases h
            exact ⟨rfl, by rw [hb]; rfl⟩
          · split at h
            · rename_i hb
              cases h
              exact ⟨rfl, by rw [hb]; rfl⟩
            · cases h

theorem payload_of_decode?_int (h : (ScalarKind.int k).decode? bs = some v) :
    v.kind = .int k ∧ v.payload = bs := by
  by_cases hlength : bs.length = k.width.bytes
  · have hlt : ofLittleEndian bs < k.width.count := by
      rw [Width.count_eq_shift, Width.bits, ← hlength]
      exact ofLittleEndian_lt bs
    rw [decode?_int hlength, IntKind.value?] at h
    split at h
    · cases h
      refine ⟨rfl, ?_⟩
      rw [ScalarValue.payload, IntKind.ofWord_emod hlt, Int.toNat_natCast, ← hlength,
        littleEndian_ofLittleEndian]
    · cases h
  · simp [decode?, hlength] at h

theorem payload_of_decode?_float
    {k : FloatKind}
    (h : (ScalarKind.float k).decode? bs = some v) :
    v.kind = .float k ∧ v.payload = bs := by
  by_cases hlength : bs.length = k.format.width / 8
  · have hlt : ofLittleEndian bs < 1 <<< k.format.width := by
      have hwidth : 8 * (k.format.width / 8) = k.format.width := by
        cases k <;> rfl
      rw [← hwidth, ← hlength]
      exact ofLittleEndian_lt bs
    simp only [decode?, if_pos hlength, Option.some.injEq] at h
    subst h
    refine ⟨rfl, ?_⟩
    rw [Nat.one_shiftLeft] at hlt
    rw [ScalarValue.payload, BitVec.toNat_ofNat, Nat.mod_eq_of_lt hlt, ← hlength,
      littleEndian_ofLittleEndian]
  · simp [decode?, hlength] at h

/-- A kind decodes exactly the bytes of its values, each to that value. -/
theorem decode?_eq_some_iff {k : ScalarKind} :
    k.decode? bs = some v ↔ v.kind = k ∧ v.payload = bs := by
  constructor
  · intro h
    cases k with
    | bool => exact payload_of_decode?_bool h
    | int k => exact payload_of_decode?_int h
    | float k => exact payload_of_decode?_float h
  · rintro ⟨rfl, rfl⟩
    exact decode?_payload v

end Decoding

end ScalarKind

end KernelLaunch
