import Mathlib.Order.Compare
import Mathlib.Tactic.SplitIfs

/-! The order of texts. Comparing two texts character by character gives the same result as comparing
the bytes that they are written in. -/
namespace SeriesExport.Text
set_option autoImplicit false

/-- The bytes of a text, in UTF-8. -/
def bytes (s : String) : List UInt8 := s.toUTF8.data.toList

theorem bytes_eq (s : String) : bytes s = s.toList.flatMap String.utf8EncodeChar := by
  have hbytes : bytes (String.ofList s.toList) = s.toList.flatMap String.utf8EncodeChar := by
    change (s.toList.flatMap String.utf8EncodeChar).toByteArray.data.toList = _
    rw [List.data_toByteArray]
  rwa [String.ofList_toList] at hbytes

/-! ## One character -/

theorem encode_ne_nil (c : Char) : String.utf8EncodeChar c ≠ [] := by
  unfold String.utf8EncodeChar
  dsimp only
  split_ifs <;> exact List.cons_ne_nil _ _

theorem val_lt (c : Char) : c.val.toNat < 1114112 := by
  rcases c.valid with hc | hc
  · exact Nat.lt_trans hc (by decide)
  · exact hc.2

/-- The first digit to the base 64 in which two numbers differ is less in the smaller number. -/
theorem digits_lt {m n : Nat} (h : m < n) : m / 262144 < n / 262144 ∨
    m / 262144 = n / 262144 ∧ (m / 4096 % 64 < n / 4096 % 64 ∨
      m / 4096 % 64 = n / 4096 % 64 ∧ (m / 64 % 64 < n / 64 % 64 ∨
        m / 64 % 64 = n / 64 % 64 ∧ m % 64 < n % 64)) := by
  omega

/-- Bytes that encode two different characters are in the order of the characters, whatever follows. -/
theorem encode_append_lt {c d : Char} (h : c < d) (x y : List UInt8) :
    String.utf8EncodeChar c ++ x < String.utf8EncodeChar d ++ y := by
  have hval : c.val.toNat < d.val.toNat := h
  have hmax := val_lt d
  have hdigits := digits_lt hval
  unfold String.utf8EncodeChar
  dsimp only
  generalize c.val.toNat = m at hval hdigits
  generalize d.val.toNat = n at hval hmax hdigits
  by_cases hm : m ≤ 65535
  · split_ifs <;>
      simp only [List.cons_append, List.nil_append, List.cons_lt_cons_iff, UInt8.lt_iff_toNat_lt,
        ← UInt8.toNat_inj, UInt8.toNat_ofNat'] <;>
      omega
  · -- Four bytes for both, and their digits decide.
    have hm1 : m / 262144 < 8 := by omega
    have hn1 : n / 262144 < 8 := by omega
    rw [if_neg (by omega), if_neg (by omega), if_neg hm, if_neg (by omega), if_neg (by omega),
      if_neg (by omega)]
    simp only [List.cons_append, List.nil_append, List.cons_lt_cons_iff, UInt8.lt_iff_toNat_lt,
      ← UInt8.toNat_inj, UInt8.toNat_ofNat']
    rw [Nat.mod_eq_of_lt hm1, Nat.mod_eq_of_lt hn1]
    clear hval hmax hm
    rcases hdigits with hd | ⟨h1, hd | ⟨h2, hd | ⟨h3, hd⟩⟩⟩ <;> omega

/-! ## Whole texts -/

theorem encodeAll_lt {l m : List Char} (h : l < m) :
    l.flatMap String.utf8EncodeChar < m.flatMap String.utf8EncodeChar := by
  induction l generalizing m with
  | nil =>
    cases m with
    | nil => exact absurd h (List.lt_irrefl [])
    | cons d m =>
      obtain ⟨b, bs, hb⟩ := List.exists_cons_of_ne_nil (encode_ne_nil d)
      rw [List.flatMap_nil, List.flatMap_cons, hb, List.cons_append]
      exact List.nil_lt_cons _ _
  | cons c l ih =>
    cases m with
    | nil => exact absurd h (List.not_lt_nil _)
    | cons d m =>
      rw [List.flatMap_cons, List.flatMap_cons]
      rcases List.cons_lt_cons_iff.1 h with hcd | ⟨rfl, hlm⟩
      · exact encode_append_lt hcd _ _
      · exact List.append_left_lt (ih hlm)

theorem bytes_lt_of_compare {s t : String} (h : compare s t = .lt) : bytes s < bytes t := by
  have hlt : s < t := compareOfLessAndEq_eq_lt.1 h
  rw [bytes_eq, bytes_eq]
  exact encodeAll_lt hlt

end SeriesExport.Text
