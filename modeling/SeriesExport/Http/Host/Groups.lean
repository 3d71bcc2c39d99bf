import SeriesExport.Text.Hex

/-! Hosts in brackets: eight groups of hexadecimal digits with colons between them. A double colon
stands for as many zeros as are missing, and the last two groups may be four bytes with points. -/
namespace SeriesExport.Http.Host
open SeriesExport.Text
set_option autoImplicit false

/-! ## Reading -/

def group? (cs : List Char) : Option Nat := if cs = [] ∨ 4 < cs.length then none else ofHex? cs

def byte? (cs : List Char) : Option Nat :=
  if cs = [] ∨ 3 < cs.length ∨ !cs.all Char.isDigit ∨ (1 < cs.length ∧ cs.head? = some '0') then none
  else
    let n := Nat.ofDigitChars 10 cs 0
    if n < 256 then some n else none

/-- Four numbers with points between them, as two groups. -/
def fourBytes? (cs : List Char) : Option (List Nat) := do
  match ← ((String.ofList cs).splitOn ".").mapM fun s => byte? s.toList with
  | [a, b, c, d] => some [a * 256 + b, c * 256 + d]
  | _ => none

/-- Groups between colons; the last may be written with points. -/
def groups? (s : String) : Option (List Nat) :=
  if s.isEmpty then some []
  else
    let parts := s.splitOn ":"
    match parts.reverse with
    | last :: earlier => do
      let final ← if last.toList.contains '.' then fourBytes? last.toList
        else (group? last.toList).map fun n => [n]
      let front ← earlier.reverse.mapM fun p => group? p.toList
      return front ++ final
    | [] => none

def address? (s : String) : Option (List Nat) :=
  match s.splitOn "::" with
  | [all] => do
    let gs ← groups? all
    if gs.length = 8 then some gs else none
  | [front, back] => do
    let a ← groups? front
    let b ← groups? back
    if a.length + b.length < 8 ∧ !front.toList.contains '.' then
      some (a ++ List.replicate (8 - a.length - b.length) 0 ++ b)
    else none
  | _ => none

/-! ## Writing -/

/-- The length of the run of zeros that starts at each place. -/
def zeroRuns : List Nat → List Nat
  | [] => []
  | g :: gs =>
    let runs := zeroRuns gs
    (if g = 0 then runs.headD 0 + 1 else 0) :: runs

/-- Eight groups, the first longest run of two or more zeros shortened to a double colon. -/
def groupsText (gs : List Nat) : String :=
  let runs := zeroRuns gs
  let longest := runs.foldl max 0
  let join (gs : List Nat) : String := ":".intercalate (gs.map hexText)
  if longest < 2 then join gs
  else
    let start := runs.findIdx (· == longest)
    join (gs.take start) ++ "::" ++ join (gs.drop (start + longest))

end SeriesExport.Http.Host
