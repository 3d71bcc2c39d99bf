import SeriesExport.Text.Hex

/-! The small parts of TOML text: blanks, comments, line ends, strings and keys. A reader takes the
part off the front of a text and returns what follows, or fails. -/
namespace SeriesExport.Toml
open Text
set_option autoImplicit false

/-- Takes one part off a text. -/
abbrev Reader (α : Type) := List Char → Option (α × List Char)

def isGap (c : Char) : Bool := c == ' ' || c == '\t'

def skipGap (cs : List Char) : List Char := cs.dropWhile isGap

def lineEnd? : List Char → Option (List Char)
  | '\n' :: cs => some cs
  | '\r' :: '\n' :: cs => some cs
  | _ => none

/-- Characters that may stand in a comment, and in a string on one line. -/
def isPrintable (c : Char) : Bool := c == '\t' || (' ' ≤ c && c != '\x7f')

def skipComment : List Char → List Char
  | '#' :: cs => cs.dropWhile isPrintable
  | cs => cs

/-- What may end a line: blanks and a comment. The text ends here or goes on with the next line. -/
def endOfLine? (cs : List Char) : Option (List Char) :=
  match skipComment (skipGap cs) with
  | [] => some []
  | cs => lineEnd? cs

/-! ## Strings -/

def charOf? (n : Nat) : Option Char := if n.isValidChar then some (Char.ofNat n) else none

/-- The character whose number stands in exactly `n` hexadecimal digits. -/
def escapedChar? (n : Nat) (cs : List Char) : Option Char :=
  if cs.length < n then none else (ofHex? (cs.take n)).bind charOf?

def shortEscape? (c : Char) : Option Char :=
  if c = 'b' then some '\x08'
  else if c = 't' then some '\t'
  else if c = 'n' then some '\n'
  else if c = 'f' then some '\x0c'
  else if c = 'r' then some '\r'
  else if c = '"' then some '"'
  else if c = '\\' then some '\\'
  else none

/-- How far the escape that was begun reaches: this many characters still belong to it. -/
def escapeRest (c : Char) : Nat := if c = 'u' then 4 else if c = 'U' then 8 else 0

/-- The character of an escape, given what follows its backslash. -/
def escape? : List Char → Option Char
  | [] => none
  | c :: cs =>
    if escapeRest c = 0 then shortEscape? c else escapedChar? (escapeRest c) cs

/-- The rest of a string in double quotes on one line. `skip` characters belong to an escape that is
already read. -/
def basicRest (skip : Nat) : Reader (List Char)
  | [] => none
  | c :: cs =>
    match skip with
    | skip + 1 => basicRest skip cs
    | 0 =>
      if c = '"' then some ([], cs)
      else if c = '\\' then do
        let d ← escape? cs
        let (ds, rest) ← basicRest (1 + escapeRest (cs.headD ' ')) cs
        return (d :: ds, rest)
      else if isPrintable c then do
        let (ds, rest) ← basicRest 0 cs
        return (c :: ds, rest)
      else none

def literalRest : Reader (List Char)
  | [] => none
  | c :: cs =>
    if c = '\'' then some ([], cs)
    else if isPrintable c then do
      let (ds, rest) ← literalRest cs
      return (c :: ds, rest)
    else none

/-- The end of a string over several lines: three quotes, before which one or two more belong to the
string. -/
def closing? (q : Char) : Reader (List Char)
  | a :: b :: c :: cs =>
    if a = q ∧ b = q ∧ c = q then
      match cs with
      | d :: e :: rest =>
        if d = q ∧ e = q then some ([q, q], rest)
        else if d = q then some ([q], e :: rest)
        else some ([], cs)
      | [d] => if d = q then some ([q], []) else some ([], [d])
      | [] => some ([], [])
    else none
  | _ => none

/-- Whether only blanks stand before the next line end. -/
def endsLine (cs : List Char) : Bool := (lineEnd? (skipGap cs)).isSome

/-- The rest of a string in double quotes over several lines. A backslash at the end of a line joins
it to the next text; while `joining`, blanks and line ends are skipped. -/
def longBasicRest (joining : Bool) (skip : Nat) : Reader (List Char)
  | [] => none
  | c :: cs =>
    match skip with
    | skip + 1 => longBasicRest joining skip cs
    | 0 =>
      if joining && (isGap c || c == '\n') then longBasicRest true 0 cs
      else if c = '\r' then
        if cs.head? = some '\n' then
          if joining then longBasicRest true 1 cs
          else do
            let (ds, rest) ← longBasicRest false 1 cs
            return ('\n' :: ds, rest)
        else none
      else
        match closing? '"' (c :: cs) with
        | some end? => some end?
        | none =>
          if c = '\\' then
            if endsLine cs then longBasicRest true 0 cs
            else do
              let d ← escape? cs
              let (ds, rest) ← longBasicRest false (1 + escapeRest (cs.headD ' ')) cs
              return (d :: ds, rest)
          else if isPrintable c || c == '\n' then do
            let (ds, rest) ← longBasicRest false 0 cs
            return (c :: ds, rest)
          else none

def longLiteralRest : Reader (List Char)
  | [] => none
  | c :: cs =>
    match closing? '\'' (c :: cs) with
    | some end? => some end?
    | none =>
      if c = '\r' then
        if cs.head? = some '\n' then longLiteralRest cs else none
      else if isPrintable c || c == '\n' then do
        let (ds, rest) ← longLiteralRest cs
        return (c :: ds, rest)
      else none

/-- A line end right after the opening quotes does not count. -/
def dropFirstLineEnd (cs : List Char) : List Char := (lineEnd? cs).getD cs

def text (r : Option (List Char × List Char)) : Option (String × List Char) :=
  r.map fun (ds, rest) => (String.ofList ds, rest)

def shortString? : Reader String
  | '"' :: cs => text (basicRest 0 cs)
  | '\'' :: cs => text (literalRest cs)
  | _ => none

def string? : Reader String
  | '"' :: '"' :: '"' :: cs => text (longBasicRest false 0 (dropFirstLineEnd cs))
  | '\'' :: '\'' :: '\'' :: cs => text (longLiteralRest (dropFirstLineEnd cs))
  | cs => shortString? cs

/-! ## Keys -/

def isBareKey (c : Char) : Bool := c.isAlphanum || c == '_' || c == '-'

def simpleKey? (cs : List Char) : Option (String × List Char) :=
  match cs with
  | '"' :: _ | '\'' :: _ => shortString? cs
  | _ =>
    let name := cs.takeWhile isBareKey
    if name = [] then none else some (String.ofList name, cs.dropWhile isBareKey)

/-- Keys joined by points, with blanks around each. Every key but the first comes after a point, so
`limit` bounds their number. -/
def keys? : (limit : Nat) → Reader (List String)
  | 0, _ => none
  | limit + 1, cs => do
    let (k, cs) ← simpleKey? (skipGap cs)
    match skipGap cs with
    | '.' :: cs => do
      let (ks, cs) ← keys? limit cs
      return (k :: ks, cs)
    | cs => return ([k], cs)

def maxDepth : Nat := 79

def path? : Reader (List String) := keys? maxDepth

end SeriesExport.Toml
