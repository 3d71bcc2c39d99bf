import SeriesExport.Decimal.Binary
import SeriesExport.Text.Digits

/-! The shortest decimal that reads back as a given double. Of the decimals of that length the
nearest is taken, and of two equally near ones the even one. -/
namespace SeriesExport.Decimal
open Text
set_option autoImplicit false

/-- The decimal `digits · 10 ^ exponent`. -/
structure Scaled where
  digits : Nat
  exponent : Int
  deriving DecidableEq

/-- Four times a magnitude, the distances to the ends of its rounding interval, and four times
`10 ^ g`, all in one integral unit. -/
structure Grid where
  value : Nat
  below : Nat
  above : Nat
  step : Nat

def gridOf (m : Magnitude) (g : Int) : Grid :=
  let unit := twoTo m.exponent.toNat * tenTo (-g).toNat
  let tight := m.mantissa = twoTo 52 ∧ -1074 < m.exponent
  { value := 4 * m.mantissa * unit
    below := if tight then unit else 2 * unit
    above := 2 * unit
    step := 4 * (twoTo (-m.exponent).toNat * tenTo g.toNat) }

/-- The nearest multiple of the step that rounds to the value. The ends of the interval belong to it
when the mantissa is even. -/
def Grid.hit? (r : Grid) (even : Bool) : Option Nat :=
  let down := r.value / r.step
  let gapDown := r.value % r.step
  let gapUp := r.step - gapDown
  let downFits := down ≠ 0 ∧ (gapDown < r.below ∨ (even ∧ gapDown = r.below))
  let upFits := gapUp < r.above ∨ (even ∧ gapUp = r.above)
  if downFits ∧ upFits then
    if gapDown < gapUp ∨ (gapDown = gapUp ∧ down % 2 = 0) then some down else some (down + 1)
  else if downFits then some down
  else if upFits then some (down + 1)
  else none

/-- Tries ever finer grids, from `10 ^ g` on. -/
def search (m : Magnitude) : (fuel : Nat) → (g : Int) → Scaled
  | 0, g => ⟨(gridOf m g).value / (gridOf m g).step, g⟩
  | fuel + 1, g =>
    match (gridOf m g).hit? (m.mantissa % 2 = 0) with
    | some digits => ⟨digits, g⟩
    | none => search m fuel (g - 1)

/-- The shortest decimal of a positive magnitude. The search starts above the first digit and ends
within seventeen more. -/
def shortest (m : Magnitude) : Scaled :=
  search m 20 ((m.exponent + Nat.log2 m.mantissa + 1) * 30103 / 100000 + 1)

end SeriesExport.Decimal
