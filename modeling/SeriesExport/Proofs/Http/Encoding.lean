import SeriesExport.Http.Percent
import SeriesExport.Proofs.Text.ByteOrder

/-! Percent-encoded text read back. Main statement: `percentDecode?_percentEncode`, that decoding an
encoded text gives the text, whatever may stand plain in it but the percent sign. -/
namespace SeriesExport.Http
open SeriesExport.Text
set_option autoImplicit false

/-! ## Bytes -/

theorem decodeBytes_cons {b : UInt8} (h : b ≠ 37) (rest : List UInt8) :
    decodeBytes (b :: rest) = b :: decodeBytes rest := by
  rcases rest with _ | ⟨x, _ | ⟨y, rest⟩⟩
  · rfl
  · rfl
  · rw [decodeBytes]
    split
    · rw [if_neg h]
    · rfl

theorem decodeBytes_append {bs : List UInt8} (h : 37 ∉ bs) (rest : List UInt8) :
    decodeBytes (bs ++ rest) = bs ++ decodeBytes rest := by
  induction bs with
  | nil => rfl
  | cons b bs ih =>
    obtain ⟨hb, hbs⟩ := not_or.1 (mt List.mem_cons.2 h)
    rw [List.cons_append, decodeBytes_cons (Ne.symm hb), ih hbs, List.cons_append]

theorem hexDigit_mod (n : Nat) : hexDigit (n % 16) = hexDigit n := by
  rw [hexDigit, Nat.mod_mod, hexDigit]

/-- A digit is one byte, from which its value is read. -/
theorem byteDigit?_hexDigit (n : Nat) : ∃ b, String.utf8EncodeChar (hexDigit n) = [b] ∧
    byteDigit? b = some (n % 16) := by
  have hall : ∀ d < 16,
      String.utf8EncodeChar (hexDigit d) = [UInt8.ofNat (hexDigit d).toNat] ∧
        byteDigit? (UInt8.ofNat (hexDigit d).toNat) = some d := by decide
  have h := hall (n % 16) (Nat.mod_lt n (by decide))
  rw [hexDigit_mod] at h
  exact ⟨_, h⟩

theorem decodeBytes_encodeByte (b : UInt8) (rest : List UInt8) :
    decodeBytes ((encodeByte b).flatMap String.utf8EncodeChar ++ rest) = b :: decodeBytes rest := by
  obtain ⟨high, hhigh, hhighDigit⟩ := byteDigit?_hexDigit (b.toNat / 16)
  obtain ⟨low, hlow, hlowDigit⟩ := byteDigit?_hexDigit b.toNat
  have hb := b.toNat_lt
  have hvalue : b.toNat / 16 % 16 * 16 + b.toNat % 16 = b.toNat := by omega
  have hpercent : String.utf8EncodeChar '%' = [37] := rfl
  simp only [encodeByte, List.flatMap_cons, List.flatMap_nil, hpercent, hhigh, hlow,
    List.append_nil, List.cons_append, List.nil_append]
  rw [decodeBytes]
  simp only [hhighDigit, hlowDigit, hvalue, if_pos, UInt8.ofNat_toNat]

theorem decodeBytes_encodeBytes (bs rest : List UInt8) :
    decodeBytes ((bs.flatMap encodeByte).flatMap String.utf8EncodeChar ++ rest) =
      bs ++ decodeBytes rest := by
  induction bs with
  | nil => rfl
  | cons b bs ih =>
    rw [List.flatMap_cons, List.flatMap_append, List.append_assoc, decodeBytes_encodeByte, ih]
    rfl

/-! ## Characters -/

theorem percent_not_mem_encode {c : Char} (h : c ≠ '%') : 37 ∉ String.utf8EncodeChar c := by
  have hval : c.val.toNat ≠ 37 := fun hval => h (Char.ext (UInt32.toNat_inj.1 hval))
  unfold String.utf8EncodeChar
  dsimp only
  generalize c.val.toNat = n at hval
  split_ifs <;>
    simp only [List.mem_cons, List.not_mem_nil, or_false, ← UInt8.toNat_inj, UInt8.toNat_ofNat',
      UInt8.reduceToNat] <;>
    omega

theorem decodeBytes_encodeChar {plain : Char → Bool} (hpercent : plain '%' = false) (c : Char)
    (rest : List UInt8) :
    decodeBytes ((encodeChar plain c).flatMap String.utf8EncodeChar ++ rest) =
      String.utf8EncodeChar c ++ decodeBytes rest := by
  unfold encodeChar
  by_cases hplain : plain c = true
  · have hc : c ≠ '%' := by
      rintro rfl
      rw [hpercent] at hplain
      cases hplain
    rw [if_pos hplain, List.flatMap_singleton]
    exact decodeBytes_append (percent_not_mem_encode hc) rest
  · rw [if_neg hplain]
    exact decodeBytes_encodeBytes (String.utf8EncodeChar c) rest

/-! ## Texts -/

theorem decodeBytes_encodeChars {plain : Char → Bool} (hpercent : plain '%' = false)
    (cs : List Char) :
    decodeBytes ((cs.flatMap (encodeChar plain)).flatMap String.utf8EncodeChar) =
      cs.flatMap String.utf8EncodeChar := by
  induction cs with
  | nil => rfl
  | cons c cs ih =>
    rw [List.flatMap_cons, List.flatMap_append, decodeBytes_encodeChar hpercent, ih,
      List.flatMap_cons]

theorem decodeBytes_percentEncode {plain : Char → Bool} (hpercent : plain '%' = false) (s : String) :
    decodeBytes (bytes (percentEncode plain s)) = bytes s := by
  rw [bytes_eq, bytes_eq, percentEncode, String.toList_ofList, decodeBytes_encodeChars hpercent]

theorem fromUTF8?_bytes (s : String) : String.fromUTF8? (bytes s).toByteArray = some s := by
  have hbytes : (bytes s).toByteArray = s.toUTF8 := by
    refine ByteArray.ext ?_
    rw [List.data_toByteArray]
    rfl
  rw [hbytes, String.fromUTF8?]
  exact dif_pos s.isValidUTF8

theorem percentDecode?_percentEncode {plain : Char → Bool} (hpercent : plain '%' = false)
    (s : String) : percentDecode? (percentEncode plain s) = some s := by
  show String.fromUTF8? (decodeBytes (bytes (percentEncode plain s))).toByteArray = some s
  rw [decodeBytes_percentEncode hpercent, fromUTF8?_bytes]

end SeriesExport.Http
