import SeriesExport.Text.Hex

/-! Hosts that are numbers: four bytes with points between them. The last number may fill the bytes of
those that are missing, and numbers may be octal or hexadecimal. -/
namespace SeriesExport.Http.Host
open SeriesExport.Text
set_option autoImplicit false

/-- A number, octal behind a zero and hexadecimal behind `0x`, which alone is zero. -/
def number? : List Char → Option Nat
  | [] => none
  | '0' :: 'x' :: ds => ofHex? ds
  | '0' :: d :: ds =>
    if (d :: ds).all fun c => '0' ≤ c && c ≤ '7' then some (Nat.ofDigitChars 8 (d :: ds) 0) else none
  | ds => if ds.all Char.isDigit then some (Nat.ofDigitChars 10 ds 0) else none

/-- The parts of a name between its points; one point at the end does not count. -/
def partsOf (name : String) : List (List Char) :=
  let parts := (name.splitOn ".").map (·.toList)
  if parts.getLast? = some [] then parts.dropLast else parts

/-- Whether the last part of a name is a number or has digits only; such a name is no domain. -/
def endsInNumber (parts : List (List Char)) : Bool :=
  match parts.getLast? with
  | none => false
  | some last => (last != [] && last.all Char.isDigit) || (number? last).isSome

/-- The address that numbers denote: each but the last is a byte, and the last is the rest. -/
def addressOf? : List Nat → Option Nat
  | [d] => if d < 4294967296 then some d else none
  | [a, d] => if a < 256 ∧ d < 16777216 then some (a * 16777216 + d) else none
  | [a, b, d] => if a < 256 ∧ b < 256 ∧ d < 65536 then some ((a * 256 + b) * 65536 + d) else none
  | [a, b, c, d] =>
    if a < 256 ∧ b < 256 ∧ c < 256 ∧ d < 256 then some (((a * 256 + b) * 256 + c) * 256 + d) else none
  | _ => none

def dottedText (address : Nat) : String :=
  ".".intercalate ([16777216, 65536, 256, 1].map fun unit => toString (address / unit % 256))

def dotted? (parts : List (List Char)) : Option String := do
  return dottedText (← addressOf? (← parts.mapM number?))

end SeriesExport.Http.Host
