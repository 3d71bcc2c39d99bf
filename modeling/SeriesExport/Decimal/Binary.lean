/-! Double-precision numbers as integers times powers of two, and the double nearest to a
fraction. -/
namespace SeriesExport.Decimal
set_option autoImplicit false

def twoTo (n : Nat) : Nat := Nat.pow 2 n

/-- A finite double without its sign: `mantissa · 2 ^ exponent`. -/
structure Magnitude where
  mantissa : Nat
  exponent : Int
  deriving DecidableEq

def signBit : UInt64 := 0x8000000000000000

def isNegative (x : Float) : Bool := x.toBits ≥ signBit

def magnitude (x : Float) : Magnitude :=
  let bits := x.toBits.toNat % twoTo 63
  let field : Nat := bits / twoTo 52
  let fraction : Nat := bits % twoTo 52
  if field = 0 then ⟨fraction, -1074⟩ else ⟨twoTo 52 + fraction, (field : Int) - 1075⟩

/-- A quotient rounded to the nearest number, a tie to the even one. -/
def roundQuotient (num den : Nat) : Nat :=
  let q := num / den
  let twice := 2 * (num % den)
  if twice < den ∨ (twice = den ∧ q % 2 = 0) then q else q + 1

/-- `num · 2 ^ (-e)` over `den`, as numerator and denominator. -/
def scaleByTwo (num den : Nat) (e : Int) : Nat × Nat :=
  (num * twoTo (-e).toNat, den * twoTo e.toNat)

/-- The exponent of the largest power of two that is at most `num / den`. -/
def floorLog (num den : Nat) : Int :=
  let e : Int := (Nat.log2 num : Int) - Nat.log2 den
  let (n, d) := scaleByTwo num den e
  if d ≤ n then e else e - 1

/-- The bits of the double nearest to `num / den`, a tie going to the even mantissa; infinity where
the largest double is passed. -/
def nearestBits (num den : Nat) : Nat :=
  if num = 0 ∨ den = 0 then 0
  else
    let exponent := max (floorLog num den - 52) (-1074)
    let (n, d) := scaleByTwo num den exponent
    let mantissa := roundQuotient n d
    let bits := if mantissa < twoTo 52 then mantissa
      else (exponent + 1074).toNat * twoTo 52 + mantissa
    min bits (0x7FF * twoTo 52)

def nearest (negative : Bool) (num den : Nat) : Float :=
  let bits := UInt64.ofNat (nearestBits num den)
  Float.ofBits (if negative then bits ||| signBit else bits)

def infinity (negative : Bool) : Float := nearest negative (twoTo 1024) 1

end SeriesExport.Decimal
