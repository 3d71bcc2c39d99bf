/-! Lengths of time, counted in nanoseconds, and the divisions that cut a length into windows. -/
namespace SeriesExport
set_option autoImplicit false

structure Duration where
  nanos : Int
  deriving DecidableEq, Inhabited

namespace Duration

def nanosPerSecond : Int := 1000000000

/-- Lengths that can be written as a literal stay within this many seconds of zero. -/
def maxSeconds : Int := 9223372036854775

/-- Signed 64-bit numbers are below this bound. -/
def wordBound : Int := 9223372036854775808

def ofSeconds (s : Int) : Duration := ⟨s * nanosPerSecond⟩

def day : Duration := ofSeconds 86400

/-- Whole seconds, cut toward zero. -/
def wholeSeconds (d : Duration) : Int := d.nanos.tdiv nanosPerSecond

def floorSeconds (d : Duration) : Int := d.nanos / nanosPerSecond

/-- The nanoseconds above `floorSeconds`. -/
def subsecond (d : Duration) : Int := d.nanos % nanosPerSecond

def wholeMillis (d : Duration) : Int := d.nanos.tdiv 1000000

def IsPositive (d : Duration) : Prop := 0 < d.nanos

instance (d : Duration) : Decidable d.IsPositive := inferInstanceAs (Decidable (0 < d.nanos))

/-- The length `count` times as long, unless its seconds need more than a 64-bit word. -/
def scale? (d : Duration) (count : Nat) : Option Duration :=
  let product : Duration := ⟨d.nanos * count⟩
  if -wordBound < product.floorSeconds ∧ product.floorSeconds < wordBound - 1 then some product
  else none

/-- One of `count` equal parts of a length. Seconds, the seconds left over and nanoseconds are
divided one after another, and each quotient is rounded down. -/
def share (d : Duration) (count : Nat) : Duration :=
  let seconds := d.floorSeconds
  ⟨seconds / count * nanosPerSecond + seconds % count * nanosPerSecond / count + d.subsecond / count⟩

/-- The number of nanoseconds, when a 64-bit word holds it. -/
def wordNanos? (d : Duration) : Option Int :=
  if -wordBound ≤ d.nanos ∧ d.nanos < wordBound then some d.nanos else none

/-- Numerator and denominator in a common unit: nanoseconds when both fit a 64-bit word, else
milliseconds. -/
def ratio (d e : Duration) : Int × Int :=
  match d.wordNanos?, e.wordNanos? with
  | some m, some n => (m, n)
  | _, _ => (d.wholeMillis, e.wholeMillis)

theorem nanos_eq (d : Duration) : d.floorSeconds * nanosPerSecond + d.subsecond = d.nanos := by
  simp only [floorSeconds, subsecond, nanosPerSecond]
  omega

theorem subsecond_bounds (d : Duration) : 0 ≤ d.subsecond ∧ d.subsecond < nanosPerSecond := by
  simp only [subsecond, nanosPerSecond]
  omega

end Duration
end SeriesExport
