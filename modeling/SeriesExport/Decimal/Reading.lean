import SeriesExport.Text.Digits
import SeriesExport.Decimal.Binary

/-! Decimal numerals with a point and an exponent, read as the nearest double. -/
namespace SeriesExport.Decimal
open Text
set_option autoImplicit false

/-- The digits before and after the point of a numeral and its exponent. -/
structure Numeral where
  whole : List Char
  fraction : List Char
  exponent : Int

/-- The double nearest to a numeral. Numerals whose first digit lies far outside the range of doubles
are settled by its place alone. -/
def Numeral.toFloat (negative : Bool) (n : Numeral) : Float :=
  let digits := (n.whole ++ n.fraction).dropWhile (· == '0')
  let value := valueOfDigits digits
  let scale := n.exponent - n.fraction.length
  let place := scale + digits.length
  if value = 0 ∨ place < -400 then nearest negative 0 1
  else if 400 < place then infinity negative
  else nearest negative (value * tenTo scale.toNat) (tenTo (-scale).toNat)

/-- A sign in front of a numeral, and whether it is a minus. -/
def takeSign : List Char → Bool × List Char
  | '-' :: cs => (true, cs)
  | '+' :: cs => (false, cs)
  | cs => (false, cs)

/-- Everything up to the first character that is not a digit. -/
def digitRun (cs : List Char) : List Char × List Char :=
  (cs.takeWhile Char.isDigit, cs.dropWhile Char.isDigit)

/-- The exponent that ends a numeral, zero when there is none. -/
def exponent? : List Char → Option Int
  | [] => some 0
  | e :: cs =>
    if e = 'e' ∨ e = 'E' then
      let (negative, cs) := takeSign cs
      if cs ≠ [] ∧ cs.all Char.isDigit then
        some (if negative then -(valueOfDigits cs : Int) else valueOfDigits cs)
      else none
    else none

/-- A numeral needs a digit before or after its point. -/
def numeral? (cs : List Char) : Option Numeral := do
  let (whole, cs) := digitRun cs
  let (fraction, cs) := match cs with
    | '.' :: cs => digitRun cs
    | cs => ([], cs)
  if whole = [] ∧ fraction = [] then none
  else return ⟨whole, fraction, ← exponent? cs⟩

/-- Reads a signed numeral, or the name of infinity or of no number in any case. -/
def float? (text : String) : Option Float :=
  let (negative, cs) := takeSign text.toList
  let name := cs.map Char.toLower
  if name = "inf".toList ∨ name = "infinity".toList then some (infinity negative)
  else if name = "nan".toList then some (0.0 / 0.0)
  else (numeral? cs).map (·.toFloat negative)

end SeriesExport.Decimal
