import SeriesExport.Text.Traceless

/-! Text as it is shown to someone who has to see every character: between quotes, and with marks for
the characters that could not be told apart on paper. -/
namespace SeriesExport.Text
set_option autoImplicit false

def inspectChar (c : Char) : List Char :=
  if c = '\x00' then ['\\', '0']
  else if c = '\t' then ['\\', 't']
  else if c = '\r' then ['\\', 'r']
  else if c = '\n' then ['\\', 'n']
  else if c = '\\' then ['\\', '\\']
  else if c = '"' then ['\\', '"']
  else if isTraceless c then
    ['\\', 'u', '\x7b'] ++ Nat.toDigits 16 c.toNat ++ ['\x7d']
  else [c]

def inspect (s : String) : String := "\"" ++ String.ofList (s.toList.flatMap inspectChar) ++ "\""

end SeriesExport.Text
