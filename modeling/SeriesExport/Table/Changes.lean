import SeriesExport.Table.Cell

/-! Which rows of a series to keep: where its value changes, or where it steps too far. The first and
the last row are always kept. -/
namespace SeriesExport
set_option autoImplicit false

/-- The numbers below `n` that are first, last or pass a test. -/
def keptIndices (n : Nat) (test : Nat → Bool) : List Nat :=
  (List.range n).filter fun i => i == 0 || i + 1 == n || test i

def changesAt (cells : List Cell) (i : Nat) : Bool :=
  match cells[i]?, cells[i - 1]? with
  | some a, some b => !(a == b)
  | _, _ => false

def changedIndices (cells : List Cell) : List Nat :=
  keptIndices cells.length (changesAt cells)

structure Band where
  low : Float
  high : Float

namespace Band

def standard : Band := ⟨0.0, 150.0⟩

/-- A missing step leaves no band. -/
def isLeftBy (b : Band) : Option Float → Bool
  | some d => d < b.low || b.high < d
  | none => false

end Band

/-- The step into the row with a given number, if there is one. -/
def stepAt (steps : List (Option Float)) (i : Nat) : Option Float := (steps[i]?).join

/-- The rows on either side of a step that leaves the band. -/
def discontinuityIndices (band : Band) (steps : List (Option Float)) : List Nat :=
  keptIndices steps.length fun i =>
    band.isLeftBy (stepAt steps i) || band.isLeftBy (stepAt steps (i + 1))

end SeriesExport
