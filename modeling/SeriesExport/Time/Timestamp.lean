import SeriesExport.Text.Blank
import SeriesExport.Text.Digits
import SeriesExport.Time.Instant

/-! Timestamps as text: one written form, and two grammars to read them by. The strict grammar
fixes every digit; the lenient one admits blanks between the parts, short numbers and signed
years. -/
namespace SeriesExport.Timestamp
open Text Calendar
set_option autoImplicit false

/-! ## Writing -/

/-- A year has four digits; outside 0 to 9999 it also has a sign. -/
def writeYear (year : Int) : String :=
  if 0 ≤ year ∧ year ≤ 9999 then padded 4 year.toNat
  else (if year < 0 then "-" else "+") ++ padded 4 year.natAbs

/-- Fractions of a second have nine, six or three digits, the fewest that lose nothing. -/
def writeFraction (nano : Nat) : String :=
  if nano = 0 then ""
  else if nano % 1000000 = 0 then "." ++ padded 3 (nano / 1000000)
  else if nano % 1000 = 0 then "." ++ padded 6 (nano / 1000)
  else "." ++ padded 9 nano

/-- A moment as a timestamp that ends in the given offset mark. A leap second is second 60. -/
def write (offset : String) (t : Instant) : String :=
  let date := dateOfDay (t.second / 86400)
  let clock := t.secondOfDay.toNat
  let extra := t.nano / 1000000000
  writeYear date.year ++ "-" ++ padded 2 date.month ++ "-" ++ padded 2 date.day ++ "T" ++
    padded 2 (clock / 3600) ++ ":" ++ padded 2 (clock / 60 % 60) ++ ":" ++
    padded 2 (clock % 60 + extra) ++ writeFraction (t.nano % 1000000000) ++ offset

/-! ## Parts of a timestamp -/

/-- What a timestamp spells out. The offset is in minutes east. -/
structure Fields where
  date : Date
  hour : Nat
  minute : Nat
  second : Nat
  nano : Nat
  offset : Int

/-- The moment that the fields name, when the calendar and the clock have it. -/
def Fields.instant? (f : Fields) : Option Instant :=
  if minYear ≤ f.date.year ∧ f.date.year ≤ maxYear ∧ f.date.Exists ∧
      f.hour ≤ 23 ∧ f.minute ≤ 59 ∧ f.second ≤ 60 ∧ f.offset.natAbs < 1440 then
    let clock := f.hour * 3600 + f.minute * 60 + min f.second 59
    let leap := if f.second = 60 then 1000000000 else 0
    Instant.ofParts? (dayNumber f.date * 86400 + clock - f.offset * 60) (f.nano + leap)
  else none

/-- A number of `least` to `most` digits; it ends early only where the digits do. -/
def number? (least most : Nat) (cs : List Char) : Option (Nat × List Char) :=
  let (ds, rest) := takeDigits most cs
  if ds.length < least then none else some (valueOfDigits ds, rest)

def expect? (c : Char) : List Char → Option (List Char)
  | d :: rest => if c = d then some rest else none
  | [] => none

def separator? : List Char → Option (List Char)
  | 'T' :: rest | 't' :: rest | ' ' :: rest => some rest
  | _ => none

/-- Nanoseconds after the point: nine digits count, all further ones are dropped. -/
def fraction? : List Char → Option (Nat × List Char)
  | '.' :: cs =>
    let (ds, rest) := takeDigits 9 cs
    if ds = [] then none
    else some (valueOfDigits ds * tenTo (9 - ds.length), rest.dropWhile Char.isDigit)
  | cs => some (0, cs)

/-- Two digits each for hours and minutes of an offset, with `gap?` between them. -/
def clockOffset? (gap? : List Char → Option (List Char)) (cs : List Char) :
    Option (Nat × List Char) := do
  let (hours, cs) ← number? 2 2 cs
  let cs ← gap? cs
  let (minutes, cs) ← number? 2 2 cs
  if minutes ≤ 59 then some (hours * 60 + minutes, cs) else none

/-- An offset from universal time in minutes. The minus may be U+2212. -/
def offset? (gap? : List Char → Option (List Char)) : List Char → Option (Int × List Char)
  | 'Z' :: rest | 'z' :: rest => some (0, rest)
  | '+' :: rest => (clockOffset? gap? rest).map fun (m, rest) => ((m : Int), rest)
  | '-' :: rest | '\u2212' :: rest => (clockOffset? gap? rest).map fun (m, rest) => (-(m : Int), rest)
  | _ => none

/-! ## The strict grammar -/

def readStrict? (text : String) : Option Instant := do
  let (year, cs) ← number? 4 4 text.toList
  let cs ← expect? '-' cs
  let (month, cs) ← number? 2 2 cs
  let cs ← expect? '-' cs
  let (day, cs) ← number? 2 2 cs
  let cs ← separator? cs
  let (hour, cs) ← number? 2 2 cs
  let cs ← expect? ':' cs
  let (minute, cs) ← number? 2 2 cs
  let cs ← expect? ':' cs
  let (second, cs) ← number? 2 2 cs
  let (nano, cs) ← fraction? cs
  let (offset, cs) ← offset? (expect? ':') cs
  if cs = [] then (Fields.mk ⟨year, month, day⟩ hour minute second nano offset).instant? else none

/-! ## The lenient grammar -/

/-- A year of up to four digits, or of any length behind a sign. -/
def signedYear? : List Char → Option (Int × List Char)
  | '-' :: cs => (number? 1 cs.length cs).map fun (y, rest) => (-(y : Int), rest)
  | '+' :: cs => (number? 1 cs.length cs).map fun (y, rest) => ((y : Int), rest)
  | cs => (number? 1 4 cs).map fun (y, rest) => ((y : Int), rest)

/-- One or two digits after any blanks. -/
def twoDigits? (cs : List Char) : Option (Nat × List Char) := number? 1 2 (trimStart cs)

def colonsOrBlanks? (cs : List Char) : Option (List Char) :=
  some (cs.dropWhile fun c => c == ':' || isBlank c)

/-- An offset, or the name of universal time in any case. -/
def namedOffset? : List Char → Option (Int × List Char)
  | u :: t :: c :: rest =>
    if [u, t, c].map Char.toUpper = ['U', 'T', 'C'] then some (0, rest)
    else offset? colonsOrBlanks? (u :: t :: c :: rest)
  | cs => offset? colonsOrBlanks? cs

def readLenient? (text : String) : Option Instant := do
  let (year, cs) ← signedYear? (trimStart text.toList)
  let cs ← expect? '-' (trimStart cs)
  let (month, cs) ← twoDigits? cs
  let cs ← expect? '-' (trimStart cs)
  let (day, cs) ← twoDigits? cs
  let cs ← separator? cs
  let (hour, cs) ← twoDigits? cs
  let cs ← expect? ':' (trimStart cs)
  let (minute, cs) ← twoDigits? cs
  let cs ← expect? ':' (trimStart cs)
  let (second, cs) ← twoDigits? cs
  let (nano, cs) ← fraction? cs
  let (offset, cs) ← namedOffset? (trimStart cs)
  if trimStart cs = [] then
    (Fields.mk ⟨year, month, day⟩ hour minute second nano offset).instant?
  else none

end SeriesExport.Timestamp
