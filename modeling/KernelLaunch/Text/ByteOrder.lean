/-!
# The order of texts by their bytes

Texts are compared by their characters here, and elsewhere by their bytes in UTF-8.
The two orders are the same.  A smaller character has a smaller first byte or, if the
first bytes are equal, a smaller one at the first place where the two differ; and no
character's bytes go on from those of another.

**Results.**
* `utf8EncodeChar_append_lt`: a smaller character decides the order of the bytes, whatever
  follows it.
* `bytes_lt_iff`: one text is before another exactly if its bytes are.
-/

namespace KernelLaunch
namespace Text

open String (utf8EncodeChar)

/-- The bytes of a text in UTF-8. -/
def bytes (s : String) : List UInt8 := s.toUTF8.data.toList

theorem bytes_eq_flatMap (s : String) : bytes s = s.toList.flatMap utf8EncodeChar := by
  have h : s.toUTF8 = s.toList.utf8Encode := by
    rw [← String.toByteArray_ofList, String.ofList_toList]
    rfl
  rw [bytes, h, List.utf8Encode, List.data_toByteArray]

section Characters

/-- Two lists of bytes are in order by their first bytes or, if these are equal, by the rest. -/
theorem ofNat_cons_lt
    {m n : Nat} {u v : List UInt8}
    (hn : n < UInt8.size)
    (hle : m ≤ n)
    (hrest : m = n → u < v) :
    UInt8.ofNat m :: u < UInt8.ofNat n :: v := by
  rw [List.cons_lt_cons_iff]
  rcases Nat.lt_or_eq_of_le hle with hlt | heq
  · left
    rw [UInt8.lt_iff_toNat_lt, UInt8.toNat_ofNat_of_lt' (Nat.lt_trans hlt hn),
      UInt8.toNat_ofNat_of_lt' hn]
    exact hlt
  · exact .inr ⟨by rw [heq], hrest heq⟩

/-- The bytes of a smaller character are before those of a larger one, whatever follows. -/
theorem utf8EncodeChar_append_lt
    {c d : Char}
    (h : c < d)
    (u v : List UInt8) :
    utf8EncodeChar c ++ u < utf8EncodeChar d ++ v := by
  have hsize : UInt8.size = 256 := rfl
  have hlt : c.val.toNat < d.val.toNat := UInt32.lt_iff_toNat_lt.1 h
  have hd : d.val.toNat < 1114112 := by
    rcases d.valid with hv | hv <;> omega
  unfold utf8EncodeChar
  dsimp only
  generalize c.val.toNat = m, d.val.toNat = n at hlt hd
  -- The first byte tells how many there are; with as many, they are compared one by one.
  split
  · split
    · exact ofNat_cons_lt (by omega) (by omega) fun h₁ => by omega
    · split
      · exact ofNat_cons_lt (by omega) (by omega) fun h₁ => by omega
      · split <;> exact ofNat_cons_lt (by omega) (by omega) fun h₁ => by omega
  · rw [if_neg (by omega : ¬n ≤ 127)]
    split
    · split
      · exact ofNat_cons_lt (by omega) (by omega) fun h₁ =>
          ofNat_cons_lt (by omega) (by omega) fun h₂ => by omega
      · split <;> exact ofNat_cons_lt (by omega) (by omega) fun h₁ => by omega
    · rw [if_neg (by omega : ¬n ≤ 2047)]
      split
      · split
        · exact ofNat_cons_lt (by omega) (by omega) fun h₁ =>
            ofNat_cons_lt (by omega) (by omega) fun h₂ =>
              ofNat_cons_lt (by omega) (by omega) fun h₃ => by omega
        · exact ofNat_cons_lt (by omega) (by omega) fun h₁ => by omega
      · rw [if_neg (by omega : ¬n ≤ 65535)]
        exact ofNat_cons_lt (by omega) (by omega) fun h₁ =>
          ofNat_cons_lt (by omega) (by omega) fun h₂ =>
            ofNat_cons_lt (by omega) (by omega) fun h₃ =>
              ofNat_cons_lt (by omega) (by omega) fun h₄ => by omega

end Characters

section Texts

theorem nil_lt_utf8EncodeChar_append (c : Char) (u : List UInt8) :
    [] < utf8EncodeChar c ++ u := by
  obtain ⟨b, bs, hbs⟩ := List.exists_cons_of_ne_nil (String.utf8EncodeChar_ne_nil (c := c))
  rw [hbs]
  exact List.nil_lt_cons b _

theorem flatMap_utf8EncodeChar_lt
    {cs ds : List Char}
    (h : cs < ds) :
    cs.flatMap utf8EncodeChar < ds.flatMap utf8EncodeChar := by
  induction h with
  | nil => exact nil_lt_utf8EncodeChar_append _ _
  | rel hcd => exact utf8EncodeChar_append_lt hcd _ _
  | cons _ ih => exact List.append_left_lt ih

theorem bytes_lt_bytes
    {s t : String}
    (h : s < t) :
    bytes s < bytes t := by
  rw [bytes_eq_flatMap, bytes_eq_flatMap]
  exact flatMap_utf8EncodeChar_lt h

/-- One text is before another exactly if its bytes are. -/
theorem bytes_lt_iff {s t : String} : bytes s < bytes t ↔ s < t := by
  constructor
  · intro hbytes
    by_cases hst : s < t
    · exact hst
    -- The other text is before this one or the same, and so are its bytes.
    · exfalso
      by_cases hts : t < s
      · exact List.lt_asymm hbytes (bytes_lt_bytes hts)
      · obtain rfl : s = t := String.le_antisymm (String.not_lt.1 hts) (String.not_lt.1 hst)
        exact List.lt_irrefl _ hbytes
  · exact bytes_lt_bytes

end Texts

end Text
end KernelLaunch
