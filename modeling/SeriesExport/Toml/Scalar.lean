import SeriesExport.Decimal.Reading
import SeriesExport.Document
import SeriesExport.Time.Calendar
import SeriesExport.Toml.Lexical

/-! Numbers, dates and times in TOML text. -/
namespace SeriesExport.Toml
open Text
set_option autoImplicit false

/-! ## Numbers -/

/-- A run of digits in which single underscores may stand between two digits. -/
def grouped? (isDigit : Char → Bool) : Reader (List Char)
  | [] => none
  | c :: cs =>
    if isDigit c then
      match cs with
      | '_' :: d :: rest =>
        if isDigit d then do
          let (ds, rest) ← grouped? isDigit (d :: rest)
          return (c :: ds, rest)
        else none
      | d :: rest =>
        if isDigit d then do
          let (ds, rest) ← grouped? isDigit (d :: rest)
          return (c :: ds, rest)
        else some ([c], cs)
      | [] => some ([c], [])
    else none

def sign? : List Char → List Char × List Char
  | '+' :: cs => (['+'], cs)
  | '-' :: cs => (['-'], cs)
  | cs => ([], cs)

/-- A whole number without leading zeros, its digits and sign. -/
def whole? (cs : List Char) : Option (List Char × List Char) := do
  let (sign, cs) := sign? cs
  match cs with
  | '0' :: rest => return (sign ++ ['0'], rest)
  | cs => do
    let (ds, rest) ← grouped? Char.isDigit cs
    return (sign ++ ds, rest)

def exponentPart? : Reader (List Char)
  | e :: cs =>
    if e = 'e' ∨ e = 'E' then do
      let (sign, cs) := sign? cs
      let (ds, rest) ← grouped? Char.isDigit cs
      return ('e' :: (sign ++ ds), rest)
    else none
  | [] => none

/-- A point and an exponent after a whole number, of which one at least must be there. -/
def fractionPart? (cs : List Char) : Option (List Char × List Char) :=
  match cs with
  | '.' :: cs => do
    let (ds, rest) ← grouped? Char.isDigit cs
    match rest with
    | 'e' :: _ | 'E' :: _ => do
      let (es, rest) ← exponentPart? rest
      return ('.' :: (ds ++ es), rest)
    | _ => return ('.' :: ds, rest)
  | cs => exponentPart? cs

/-- A number with a fraction or an exponent; one too large for a double is refused. -/
def fractional? (cs : List Char) : Option (Document × List Char) := do
  let (ws, rest) ← whole? cs
  let (fs, rest) ← fractionPart? rest
  let x ← Decimal.float? (String.ofList (ws ++ fs))
  if x.isInf && !Decimal.isNegative x then none else return (.real x, rest)

def special? (cs : List Char) : Option (Document × List Char) :=
  let (sign, cs) := sign? cs
  match cs with
  | 'i' :: 'n' :: 'f' :: rest =>
    some (.real (Decimal.infinity (sign = ['-'])), rest)
  | 'n' :: 'a' :: 'n' :: rest => some (.real (0.0 / 0.0), rest)
  | _ => none

def ranged? (n : Int) (rest : List Char) : Option (Document × List Char) :=
  if -9223372036854775808 ≤ n ∧ n ≤ 9223372036854775807 then some (.integer n, rest) else none

def isDigitIn (base : Nat) (c : Char) : Bool := (hexValue? c).any (· < base)

def inBase? (base : Nat) (cs : List Char) : Option (Document × List Char) := do
  let (ds, rest) ← grouped? (isDigitIn base) cs
  ranged? (ds.foldl (fun n c => n * base + (hexValue? c).getD 0) 0 : Nat) rest

def decimalInteger? (cs : List Char) : Option (Document × List Char) := do
  let (ds, rest) ← whole? cs
  let n : Int := match ds with
    | '-' :: ds => -(valueOfDigits ds : Int)
    | '+' :: ds => valueOfDigits ds
    | ds => valueOfDigits ds
  ranged? n rest

def integer? : Reader Document
  | '0' :: 'x' :: cs => inBase? 16 cs
  | '0' :: 'o' :: cs => inBase? 8 cs
  | '0' :: 'b' :: cs => inBase? 2 cs
  | cs => decimalInteger? cs

/-! ## Dates and times -/

/-- A number of exactly `width` digits within bounds. -/
def fixed? (width least most : Nat) (cs : List Char) : Option (Nat × List Char) :=
  let (ds, rest) := takeDigits width cs
  let n := valueOfDigits ds
  if ds.length = width ∧ least ≤ n ∧ n ≤ most then some (n, rest) else none

def mark? (c : Char) : List Char → Option (List Char)
  | d :: cs => if c = d then some cs else none
  | [] => none

def date? (cs : List Char) : Option (List Char × List Char) := do
  let (year, cs) ← fixed? 4 0 9999 cs
  let (month, cs) ← fixed? 2 1 12 (← mark? '-' cs)
  let (day, cs) ← fixed? 2 1 (Calendar.daysInMonth year month) (← mark? '-' cs)
  return (padDigits 4 year ++ '-' :: padDigits 2 month ++ '-' :: padDigits 2 day, cs)

/-- The nine digits of a fraction that count, without zeros at the end. -/
def fractionText (ds : List Char) : List Char :=
  match ((ds.take 9).reverse.dropWhile (· == '0')).reverse with
  | [] => []
  | kept => '.' :: kept

def timeFraction? : List Char → Option (List Char × List Char)
  | '.' :: cs =>
    if (cs.head?.map Char.isDigit).getD false then
      some (fractionText (cs.takeWhile Char.isDigit), cs.dropWhile Char.isDigit)
    else none
  | cs => some ([], cs)

def time? (cs : List Char) : Option (List Char × List Char) := do
  let (hour, cs) ← fixed? 2 0 23 cs
  let (minute, cs) ← fixed? 2 0 59 (← mark? ':' cs)
  let (second, cs) ← fixed? 2 0 60 (← mark? ':' cs)
  let (fraction, cs) ← timeFraction? cs
  return (padDigits 2 hour ++ ':' :: padDigits 2 minute ++ ':' :: padDigits 2 second ++ fraction, cs)

/-- An offset; no offset at all is written with a plus. -/
def offset? : List Char → Option (List Char × List Char)
  | [] => some ([], [])
  | c :: cs =>
    if c = 'Z' ∨ c = 'z' then some (['Z'], cs)
    else if c = '+' ∨ c = '-' then do
      let (hours, cs) ← fixed? 2 0 23 cs
      let (minutes, cs) ← fixed? 2 0 59 (← mark? ':' cs)
      let sign := if hours = 0 ∧ minutes = 0 then '+' else c
      return (sign :: padDigits 2 hours ++ ':' :: padDigits 2 minutes, cs)
    else some ([], c :: cs)

/-- A time and perhaps an offset, after the mark that ends a date. -/
def timeAfterDate? : List Char → Option (List Char × List Char)
  | [] => none
  | c :: cs =>
    if c = 'T' ∨ c = 't' ∨ c = ' ' then do
      let (time, cs) ← time? cs
      let (offset, cs) ← offset? cs
      return ('T' :: time ++ offset, cs)
    else none

/-- A date, a time or both, in their normal form. -/
def moment? (cs : List Char) : Option (Document × List Char) := do
  let (text, rest) ← match date? cs with
    | some (date, rest) =>
      let (time, rest) := (timeAfterDate? rest).getD ([], rest)
      some (date ++ time, rest)
    | none => time? cs
  return (.moment (String.ofList text), rest)

/-! ## Values without parts -/

def scalar? (cs : List Char) : Option (Document × List Char) :=
  match cs with
  | '"' :: _ | '\'' :: _ => (string? cs).map fun (s, rest) => (.text s, rest)
  | 't' :: 'r' :: 'u' :: 'e' :: rest => some (.boolean true, rest)
  | 'f' :: 'a' :: 'l' :: 's' :: 'e' :: rest => some (.boolean false, rest)
  | _ => moment? cs <|> fractional? cs <|> special? cs <|> integer? cs

end SeriesExport.Toml
