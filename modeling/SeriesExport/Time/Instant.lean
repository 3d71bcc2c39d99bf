import SeriesExport.Time.Duration
import SeriesExport.Time.Calendar

/-! Moments in universal time and their arithmetic with durations. A leap second is written as the
last second of its minute with more than a second's worth of nanoseconds. -/
namespace SeriesExport
set_option autoImplicit false

namespace Instant

/-- The first second of the first year, and the last one of the last. -/
def minSecond : Int := -8334601228800
def maxSecond : Int := 8210266876799

end Instant

/-- Seconds from 1970-01-01 and the nanoseconds after them. -/
structure Instant where
  second : Int
  nano : Nat
  inRange : Instant.minSecond ≤ second ∧ second ≤ Instant.maxSecond
  nano_lt : nano < 2000000000
  leap_last : 1000000000 ≤ nano → second % 60 = 59
  deriving DecidableEq

namespace Instant

def ofParts? (second : Int) (nano : Nat) : Option Instant :=
  if h : (minSecond ≤ second ∧ second ≤ maxSecond) ∧ nano < 2000000000 ∧
      (1000000000 ≤ nano → second % 60 = 59) then
    some ⟨second, nano, h.1, h.2.1, h.2.2⟩
  else none

def epoch : Instant := ⟨0, 0, by decide, by decide, by decide⟩

def IsLeap (t : Instant) : Prop := 1000000000 ≤ t.nano

instance (t : Instant) : Decidable t.IsLeap := inferInstanceAs (Decidable (1000000000 ≤ t.nano))

def secondOfDay (t : Instant) : Int := t.second % 86400

/-- The moment that lies `total` nanoseconds after 1970, outside any leap second. -/
def ofNanos? (total : Int) : Option Instant :=
  ofParts? (total / 1000000000) (total % 1000000000).toNat

/-- The moment a duration later, when the calendar has it. A leap second counts only for moments
inside it: whatever leaves it forward continues from the second it extends, whatever leaves it
backward from the second after. -/
def add? (t : Instant) (d : Duration) : Option Instant :=
  if t.IsLeap then
    if d.nanos ≥ Duration.nanosPerSecond ∨ (0 < d.nanos ∧ 2000000000 ≤ t.nano + d.nanos) then
      ofNanos? (t.second * 1000000000 + (t.nano - 1000000000) + d.nanos)
    else if d.nanos ≤ -Duration.nanosPerSecond then
      ofNanos? ((t.second + 1) * 1000000000 + (t.nano - 1000000000) + d.nanos)
    else ofParts? t.second (t.nano + d.nanos).toNat
  else ofNanos? (t.second * 1000000000 + t.nano + d.nanos)

def sub? (t : Instant) (d : Duration) : Option Instant := t.add? ⟨-d.nanos⟩

/-- The leap second that lies between two moments, judged by their seconds since midnight: the one
`b` is in when `a` is later in the day, less the one `a` is in when it is earlier. -/
def leapBetween (a b : Instant) : Int :=
  if b.secondOfDay < a.secondOfDay ∧ b.IsLeap then 1000000000
  else if a.secondOfDay < b.secondOfDay ∧ a.IsLeap then -1000000000
  else 0

def since (a b : Instant) : Duration :=
  ⟨(a.second - b.second) * 1000000000 + (a.nano - b.nano) + leapBetween a b⟩

end Instant
end SeriesExport
