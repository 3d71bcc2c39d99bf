import SeriesExport.Text.Hex

/-! Percent-encoding of text: bytes of a character that may not stand as they are become `%` and two
capital hexadecimal digits. -/
namespace SeriesExport.Http
open SeriesExport.Text
set_option autoImplicit false

/-! ## Encoding -/

def hexDigit (n : Nat) : Char := (Nat.digitChar (n % 16)).toUpper

def encodeByte (b : UInt8) : List Char := ['%', hexDigit (b.toNat / 16), hexDigit b.toNat]

/-- A character, encoded unless it may stand as it is. -/
def encodeChar (plain : Char → Bool) (c : Char) : List Char :=
  if plain c then [c] else (String.utf8EncodeChar c).flatMap encodeByte

def percentEncode (plain : Char → Bool) (s : String) : String :=
  String.ofList (s.toList.flatMap (encodeChar plain))

def isUnreserved (c : Char) : Bool := c.isAlphanum || c == '-' || c == '.' || c == '_' || c == '~'

/-- Controls and characters beyond ASCII are always encoded, the given ones besides. -/
def isPlainBut (encoded : List Char) (c : Char) : Bool :=
  32 ≤ c.toNat && c.toNat < 127 && !encoded.contains c

/-! ## Decoding -/

def byteDigit? (b : UInt8) : Option Nat := hexValue? (Char.ofNat b.toNat)

/-- Bytes with the encoded ones decoded; a `%` without two digits behind it stands for itself. -/
def decodeBytes : List UInt8 → List UInt8
  | p :: a :: b :: rest =>
    match byteDigit? a, byteDigit? b with
    | some high, some low =>
      if p = 37 then UInt8.ofNat (high * 16 + low) :: decodeBytes rest
      else p :: decodeBytes (a :: b :: rest)
    | _, _ => p :: decodeBytes (a :: b :: rest)
  | bs => bs

def percentDecode? (s : String) : Option String :=
  String.fromUTF8? (decodeBytes s.toUTF8.data.toList).toByteArray

end SeriesExport.Http
