import SeriesExport.Text.Blank
import SeriesExport.Text.Digits
import SeriesExport.Time.Duration

/-! Duration literals: a number and the letter of a unit. Writing picks the largest unit that leaves
no remainder. -/
namespace SeriesExport.Duration
open Text
set_option autoImplicit false

inductive Unit where
  | second | minute | hour | day | week
  deriving DecidableEq

namespace Unit

def letter : Unit → Char
  | second => 's'
  | minute => 'm'
  | hour => 'h'
  | day => 'd'
  | week => 'w'

def seconds : Unit → Nat
  | second => 1
  | minute => 60
  | hour => 3600
  | day => 86400
  | week => 604800

def ofLetter? : Char → Option Unit
  | 's' => some second
  | 'm' => some minute
  | 'h' => some hour
  | 'd' => some day
  | 'w' => some week
  | _ => none

theorem ofLetter?_eq_some {c : Char} {u : Unit} : ofLetter? c = some u ↔ c = u.letter := by
  constructor
  · intro h
    unfold ofLetter? at h
    split at h <;> simp_all <;> subst h <;> rfl
  · rintro rfl
    cases u <;> rfl

end Unit

/-- A number that a signed 64-bit word holds. -/
def wordOf? (n : Nat) : Option Nat := if n < wordBound then some n else none

/-- Takes one more digit into a number. -/
def readDigit? (n : Nat) (c : Char) : Option Nat :=
  if c.isDigit then wordOf? (10 * n + (c.toNat - '0'.toNat)) else none

/-- The duration of `n` units. Their seconds must fit a word, and there are no more than a literal may
have. -/
def ofUnits? (n : Nat) (u : Unit) : Option Duration := do
  let seconds ← wordOf? (n * u.seconds)
  if seconds ≤ maxSeconds then some (ofSeconds seconds) else none

def ofLiteralChars? (cs : List Char) : Option Duration := do
  let u ← cs.getLast?.bind Unit.ofLetter?
  let digits := cs.dropLast
  if digits = [] then none else ofUnits? (← digits.foldlM readDigit? 0) u

/-- Reads a literal; blanks around it do not count. -/
def ofLiteral? (text : String) : Option Duration := ofLiteralChars? (trim text.toList)

/-- The largest unit that divides a number of seconds; zero is counted in seconds. -/
def largestUnit (seconds : Int) : Unit :=
  ([.week, .day, .hour, .minute].find? fun u : Unit =>
    seconds ≠ 0 ∧ seconds % u.seconds = 0).getD .second

def literal (d : Duration) : String :=
  let u := largestUnit d.wholeSeconds
  toString (d.wholeSeconds / u.seconds) ++ u.letter.toString

end SeriesExport.Duration
