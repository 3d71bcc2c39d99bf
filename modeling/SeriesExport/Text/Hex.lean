/-! Hexadecimal digits, small and capital. -/
namespace SeriesExport.Text
set_option autoImplicit false

def hexValue? (c : Char) : Option Nat :=
  if c.isDigit then some (c.toNat - 48)
  else if 'a' ≤ c ∧ c ≤ 'f' then some (c.toNat - 87)
  else if 'A' ≤ c ∧ c ≤ 'F' then some (c.toNat - 55)
  else none

/-- The number that hexadecimal digits denote, none at all denoting zero. -/
def ofHex? (ds : List Char) : Option Nat :=
  ds.foldlM (fun n c => (hexValue? c).map (n * 16 + ·)) 0

def hexText (n : Nat) : String := String.ofList (Nat.toDigits 16 n)

end SeriesExport.Text
