import SeriesExport.Text.Digits
import SeriesExport.Decimal.Shortest

/-! Trees of plain data, as configuration files and messages hold them, and their JSON text. -/
namespace SeriesExport
open Text
set_option autoImplicit false

inductive Format where
  | json
  | toml
  deriving DecidableEq

/-- A piece of data. A `moment` is a date or time that the format itself marks as one. -/
inductive Document where
  | null
  | boolean (b : Bool)
  | integer (n : Int)
  | real (x : Float)
  | text (s : String)
  | moment (literal : String)
  | list (items : List Document)
  | record (entries : List (String × Document))
  deriving Inhabited

namespace Document

def text? : Document → Option String
  | text s => some s
  | _ => none

def integer? : Document → Option Int
  | integer n => some n
  | _ => none

def list? : Document → Option (List Document)
  | list ds => some ds
  | _ => none

def record? : Document → Option (List (String × Document))
  | record es => some es
  | _ => none

/-- The name under which a moment stands where a map of texts is wanted. -/
def momentName : String := "$__toml_private_datetime"

/-- The entries of a map; a moment is a map with one entry. -/
def entries? : Document → Option (List (String × Document))
  | record es => some es
  | moment literal => some [(momentName, text literal)]
  | _ => none

/-- Whether a value stands for nothing. TOML has no null and takes what is empty. -/
def isNothing : Format → Document → Bool
  | .json, null => true
  | .toml, list [] => true
  | .toml, record [] => true
  | _, _ => false

/-- The value under a name; the last one where a name is repeated. -/
def get? (name : String) : Document → Option Document
  | record es => es.reverse.lookup name
  | _ => none

/-! ## Numbers -/

/-- The form of numbers: positional while the first digit stands between the fifth place behind the
point and the sixteenth before it, else with an exponent; a whole number keeps one zero behind the
point. -/
def writeDigits (digits : List Char) (exponent : Int) : String :=
  let point := digits.length + exponent
  if 0 ≤ exponent ∧ point ≤ 16 then
    String.ofList (digits ++ List.replicate exponent.toNat '0') ++ ".0"
  else if 0 < point ∧ point ≤ 16 then
    String.ofList (digits.take point.toNat) ++ "." ++ String.ofList (digits.drop point.toNat)
  else if -5 < point ∧ point ≤ 0 then
    "0." ++ String.ofList (List.replicate (-point).toNat '0' ++ digits)
  else
    let lead := String.ofList (digits.take 1)
    let tail := if digits.length = 1 then "" else "." ++ String.ofList (digits.drop 1)
    let sign := if 0 < point then "+" else ""
    lead ++ tail ++ "e" ++ sign ++ toString (point - 1)

/-- A number without trailing zeros, and how many there were. -/
def dropZeros : List Char → List Char × Nat
  | [] => ([], 0)
  | c :: cs =>
    match dropZeros cs with
    | ([], k) => if c = '0' then ([], k + 1) else ([c], k)
    | (ds, k) => (c :: ds, k)

/-- Text of a double; infinities and undefined results have none. -/
def realText (x : Float) : String :=
  if x.isNaN || x.isInf then "null"
  else
    let sign := if Decimal.isNegative x then "-" else ""
    let m := Decimal.magnitude x
    if m.mantissa = 0 then sign ++ "0.0"
    else
      let s := Decimal.shortest m
      let (digits, zeros) := dropZeros (digitsOf s.digits)
      sign ++ writeDigits digits (s.exponent + zeros)

/-! ## Text -/

def hexDigit (n : Nat) : Char := Nat.digitChar (n % 16)

/-- Quotes, backslashes and control characters are escaped, everything else stands for itself. -/
def escape (c : Char) : List Char :=
  if c = '"' then ['\\', '"']
  else if c = '\\' then ['\\', '\\']
  else if c = '\n' then ['\\', 'n']
  else if c = '\r' then ['\\', 'r']
  else if c = '\t' then ['\\', 't']
  else if c.toNat = 8 then ['\\', 'b']
  else if c.toNat = 12 then ['\\', 'f']
  else if c.toNat < 32 then ['\\', 'u', '0', '0', hexDigit (c.toNat / 16), hexDigit c.toNat]
  else [c]

def quoted (s : String) : String := "\"" ++ String.ofList (s.toList.flatMap escape) ++ "\""

/-! ## Trees -/

mutual

/-- Text without any blanks. -/
def compact : Document → String
  | null => "null"
  | boolean b => if b then "true" else "false"
  | integer n => toString n
  | real x => realText x
  | text s => quoted s
  | moment s => quoted s
  | list ds => "[" ++ ",".intercalate (compactItems ds) ++ "]"
  | record es => "\x7b" ++ ",".intercalate (compactEntries es) ++ "\x7d"

def compactItems : List Document → List String
  | [] => []
  | d :: ds => d.compact :: compactItems ds

def compactEntries : List (String × Document) → List String
  | [] => []
  | (k, d) :: es => (quoted k ++ ":" ++ d.compact) :: compactEntries es

end

def bracketed (opening closing : String) (depth : Nat) : List String → String
  | [] => opening ++ closing
  | items =>
    let margin := String.ofList (List.replicate (2 * depth) ' ')
    let inner := "\n" ++ margin ++ "  "
    opening ++ inner ++ ("," ++ inner).intercalate items ++ "\n" ++ margin ++ closing

mutual

def pretty (depth : Nat) : Document → String
  | null => "null"
  | boolean b => if b then "true" else "false"
  | integer n => toString n
  | real x => realText x
  | text s => quoted s
  | moment s => quoted s
  | list ds => bracketed "[" "]" depth (prettyItems (depth + 1) ds)
  | record es => bracketed "\x7b" "\x7d" depth (prettyEntries (depth + 1) es)

def prettyItems (depth : Nat) : List Document → List String
  | [] => []
  | d :: ds => d.pretty depth :: prettyItems depth ds

def prettyEntries (depth : Nat) : List (String × Document) → List String
  | [] => []
  | (k, d) :: es => (quoted k ++ ": " ++ d.pretty depth) :: prettyEntries depth es

end

end Document
end SeriesExport
