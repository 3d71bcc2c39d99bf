/-! Runs of ASCII digits: cutting one off the front of a text, and fixed-width decimal writing. -/
namespace SeriesExport.Text
set_option autoImplicit false

def tenTo (n : Nat) : Nat := Nat.pow 10 n

/-- The number a run of decimal digits denotes. -/
def valueOfDigits (ds : List Char) : Nat := Nat.ofDigitChars 10 ds 0

/-- At most `limit` leading digits, and what follows them. -/
def takeDigits : (limit : Nat) → List Char → List Char × List Char
  | 0, cs => ([], cs)
  | _ + 1, [] => ([], [])
  | limit + 1, c :: cs =>
    if c.isDigit then
      let (ds, rest) := takeDigits limit cs
      (c :: ds, rest)
    else ([], c :: cs)

def digitsOf (n : Nat) : List Char := Nat.toDigits 10 n

/-- A decimal numeral filled up with zeros on the left to at least `width` digits. -/
def padDigits (width n : Nat) : List Char :=
  let ds := digitsOf n
  List.replicate (width - ds.length) '0' ++ ds

def padded (width n : Nat) : String := String.ofList (padDigits width n)

theorem valueOfDigits_digitsOf (n : Nat) : valueOfDigits (digitsOf n) = n :=
  Nat.ofDigitChars_toDigits (by decide) (by decide)

end SeriesExport.Text
