/-! The spelling of arbitrary text in letters, digits and hyphens that labels of domain names use. The
ASCII characters come first, then, behind a hyphen, the places of all others: for each, in increasing
order of the characters, how many steps lie between it and the one before, a step being a place in
the text or a higher character. Step counts are numerals in base 36 whose digits below a threshold
end them; the thresholds follow the sizes met so far. -/
namespace SeriesExport.Text.Punycode
set_option autoImplicit false

/-! ## Digits and thresholds -/

def digitChar (d : Nat) : Char := Char.ofNat (if d < 26 then 97 + d else 22 + d)

def digitValue? (c : Char) : Option Nat :=
  if c.isLower then some (c.toNat - 97)
  else if c.isUpper then some (c.toNat - 65)
  else if c.isDigit then some (c.toNat - 22)
  else none

/-- The threshold of the digit at `place`, which counts up in steps of 36. -/
def threshold (place bias : Nat) : Nat := min 26 (max 1 (place - bias))

theorem threshold_pos (place bias : Nat) : 1 ≤ threshold place bias := by
  unfold threshold
  omega

/-- How often a size is divided by 35 until it is small, in steps of 36, and what is left. -/
def shrink (size steps : Nat) : Nat × Nat :=
  if 455 < size then shrink (size / 35) (steps + 36) else (size, steps)
termination_by size
decreasing_by exact Nat.div_lt_self (by omega) (by omega)

/-- The bias after a count of steps, when `length` characters have been placed. -/
def adapt (count length : Nat) (isFirst : Bool) : Nat :=
  let scaled := if isFirst then count / 700 else count / 2
  let (size, steps) := shrink (scaled + scaled / length) 0
  steps + 36 * size / (size + 38)

/-! ## Spelling -/

/-- A count of steps as a numeral, its lowest digit first. -/
def countDigits (bias place count : Nat) : List Char :=
  let t := threshold place bias
  if count < t then [digitChar count]
  else digitChar (t + (count - t) % (36 - t)) :: countDigits bias (place + 36) ((count - t) / (36 - t))
termination_by count
decreasing_by
  have := threshold_pos place bias
  calc (count - threshold place bias) / (36 - threshold place bias)
      ≤ count - threshold place bias := Nat.div_le_self _ _
    _ < count := by omega

/-- What has been spelled, how many characters it places, and the steps since the last one. -/
structure Spelling where
  digits : List Char
  placed : Nat
  steps : Nat
  bias : Nat

/-- Passes one character of the text while all that equal `next` are placed. -/
def Spelling.pass (basic next : Nat) (s : Spelling) (c : Char) : Spelling :=
  if c.toNat < next then { s with steps := s.steps + 1 }
  else if c.toNat = next then {
    digits := s.digits ++ countDigits s.bias 36 s.steps
    placed := s.placed + 1
    steps := 0
    bias := adapt s.steps (s.placed + 1) (s.placed == basic) }
  else s

/-- Places all characters of a text with the given numbers, which increase from `low` on. -/
def placeAll (text : List Char) (basic : Nat) : List Nat → (low : Nat) → Spelling → Spelling
  | [], _, s => s
  | next :: rest, low, s =>
    let s := { s with steps := s.steps + (next - low) * (s.placed + 1) }
    let s := text.foldl (Spelling.pass basic next) s
    placeAll text basic rest (next + 1) { s with steps := s.steps + 1 }

def isAscii (c : Char) : Bool := c.toNat < 128

/-- The numbers of the characters beyond ASCII, each once, in increasing order. -/
def higherNumbers (text : List Char) : List Nat :=
  let numbers := (text.filter fun c => !isAscii c).map (·.toNat)
  (numbers.mergeSort (· ≤ ·)).eraseReps

def encode (text : List Char) : List Char :=
  let basic := text.filter isAscii
  let start : Spelling := ⟨[], basic.length, 0, 72⟩
  let digits := (placeAll text basic.length (higherNumbers text) 128 start).digits
  if basic = [] then digits else basic ++ '-' :: digits

/-! ## Reading -/

/-- Adds a numeral to a count of steps; `weight` is what a digit at `place` counts. -/
def readCount? (bias : Nat) : List Char → (place weight count : Nat) → Option (Nat × List Char)
  | [], _, _, _ => none
  | c :: rest, place, weight, count => do
    let d ← digitValue? c
    if d < threshold place bias then some (count + d * weight, rest)
    else readCount? bias rest (place + 36) (weight * (36 - threshold place bias)) (count + d * weight)

theorem length_lt_of_readCount? {bias : Nat} {cs : List Char} {place weight count : Nat}
    {r : Nat × List Char} (h : readCount? bias cs place weight count = some r) :
    r.2.length < cs.length := by
  induction cs generalizing place weight count with
  | nil => simp [readCount?] at h
  | cons c rest ih =>
    rw [readCount?, Option.bind_eq_bind, Option.bind_eq_some_iff] at h
    obtain ⟨d, _, h⟩ := h
    split at h
    · cases h
      simp
    · have := ih h
      simp only [List.length_cons]
      omega

def ofNumber? (n : Nat) : Option Char := if n.isValidChar then some (Char.ofNat n) else none

/-- Places the characters that step counts stand for into the text read so far. The next character
is `low` or higher and stands at `place` or behind it, or is higher than `low`. -/
def readPlaces? (bias low place : Nat) (text cs : List Char) : Option (List Char) :=
  match cs with
  | [] => some text
  | c :: cs =>
    match _h : readCount? bias (c :: cs) 36 1 place with
    | none => none
    | some (count, rest) =>
      let length := text.length + 1
      let next := low + count / length
      match ofNumber? next with
      | none => none
      | some d =>
        readPlaces? (adapt (count - place) length (place == 0)) next (count % length + 1)
          (text.insertIdx (count % length) d) rest
termination_by cs.length
decreasing_by
  have := length_lt_of_readCount? _h
  simpa using this

/-- Reads a spelling; what stands before the last hyphen is ASCII as it is, and with nothing before
it there is no hyphen. -/
def decode? (cs : List Char) : Option (List Char) :=
  let digits := (cs.reverse.takeWhile (· != '-')).reverse
  let basic := cs.take (cs.length - digits.length - 1)
  if !basic.all isAscii then none
  else readPlaces? 72 128 0 basic (if basic = [] then cs else digits)

end SeriesExport.Text.Punycode
