import SeriesExport.Text.Hex

/-! Tables that give values to runs of characters. The runs lie in increasing order of their
characters' numbers, so a character is found by halving. Tables are written in lines of words such as
`300-36F=M`: the first and last number of a run in hexadecimal, and the value of the run. -/
namespace SeriesExport.Text
set_option autoImplicit false

structure Run (α : Type) where
  first : Nat
  last : Nat
  value : α

abbrev RunTable (α : Type) := Array (Run α)

namespace RunTable
variable {α : Type}

/-! ## Lookup -/

/-- The last run between two places that starts at a number or before it. -/
def lastFrom (runs : RunTable α) (n lo hi : Nat) (h : hi ≤ runs.size) : Option (Run α) :=
  if hlt : lo < hi then
    let mid := lo + (hi - lo) / 2
    have hmid : mid < runs.size := by omega
    if runs[mid].first ≤ n then (lastFrom runs n (mid + 1) hi h).or (some runs[mid])
    else lastFrom runs n lo mid (by omega)
  else none
termination_by hi - lo

def run? (runs : RunTable α) (c : Char) : Option (Run α) :=
  (lastFrom runs c.toNat 0 runs.size (Nat.le_refl _)).filter fun r => c.toNat ≤ r.last

def value? (runs : RunTable α) (c : Char) : Option α := (runs.run? c).map (·.value)

def contains (runs : RunTable α) (c : Char) : Bool := (runs.run? c).isSome

/-! ## Written tables -/

def hexNumber (s : String) : Nat := (ofHex? s.toList).getD 0

/-- One word of a table; a run of a single character names it once. -/
def readRun (read : String → α) (word : String) : Run α :=
  let (run, value) := match word.splitOn "=" with
    | [run, value] => (run, value)
    | _ => (word, "")
  match run.splitOn "-" with
  | [first, last] => ⟨hexNumber first, hexNumber last, read value⟩
  | _ => ⟨hexNumber run, hexNumber run, read value⟩

def ofLines (read : String → α) (lines : List String) : RunTable α :=
  (lines.flatMap fun line => (line.splitOn " ").map (readRun read)).toArray

end RunTable
end SeriesExport.Text
