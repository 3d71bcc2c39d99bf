import SeriesExport.Span.Basic

/-! Resolving a requested span. The length of a span has three sources, of which one has to be
complete; what is missing altogether is first defaulted, one field at a time, and the rest then
follows from the fields that are known. -/
namespace SeriesExport
set_option autoImplicit false

def defaultWindowCount : UInt32 := 240

def defaultWidth : Duration := .day

namespace SpanSpec

/-- The period sources whose fields are all given. -/
def sources (s : SpanSpec) : List PeriodSource :=
  (if s.start.isSome ∧ s.stop.isSome then [.bounds] else []) ++
  (if s.width.isSome then [.width] else []) ++
  (if s.windowCount.isSome ∧ s.windowWidth.isSome then [.windows] else [])

def hasBound (s : SpanSpec) : Bool := s.start.isSome || s.stop.isSome

def hasWindow (s : SpanSpec) : Bool := s.windowCount.isSome || s.windowWidth.isSome

/-- A length, a bound and a window field are known. -/
def Settled (s : SpanSpec) : Prop := s.sources ≠ [] ∧ s.hasBound ∧ s.hasWindow

instance (s : SpanSpec) : Decidable s.Settled := by unfold Settled; infer_instance

/-- The number of open fields among those that have a default. -/
def open? (s : SpanSpec) : Nat :=
  (if s.windowCount.isSome then 0 else 1) + (if s.stop.isSome then 0 else 1) +
    (if s.width.isSome then 0 else 1)

/-- Fills the first open field that is due, if there is one. -/
def fillNext? (now : Instant) (s : SpanSpec) : Option SpanSpec :=
  if !s.hasWindow then some { s with windowCount := some defaultWindowCount }
  else if s.stop.isNone then some { s with stop := some now }
  else if s.width.isNone then some { s with width := some defaultWidth }
  else none

theorem open?_fillNext? {now : Instant} {s t : SpanSpec} (h : fillNext? now s = some t) :
    t.open? < s.open? := by
  unfold fillNext? hasWindow at h
  split at h
  · cases h
    rename_i hw
    simp only [Bool.not_eq_true', Bool.or_eq_false_iff] at hw
    simp [open?, hw.1]
  · split at h
    · cases h
      rename_i hs
      simp only [Option.isNone_iff_eq_none] at hs
      simp only [open?, hs, Option.isSome_none, Option.isSome_some]
      simp
    · split at h
      · cases h
        rename_i hs
        simp only [Option.isNone_iff_eq_none] at hs
        simp [open?, hs]
      · cases h

/-- Fills open fields until the request is settled. -/
def complete (now : Instant) (s : SpanSpec) : Except SpanError SpanSpec :=
  if s.Settled then .ok s
  else
    match _h : s.fillNext? now with
    | none => .error .unsettled
    | some t => if 1 < t.sources.length then .error .unsettled else t.complete now
  termination_by s.open?
  decreasing_by exact open?_fillNext? ‹_›

/-- A window count as a divisor, below 2^31. -/
def divisor (count : UInt32) : Except SpanError Nat :=
  if count.toNat < 2147483648 then .ok count.toNat else .error (.windowCountTooLarge count.toNat)

/-- The length that a number of windows makes up. -/
def windowsPeriod (count : UInt32) (window : Duration) : Except SpanError Duration := do
  match window.scale? (← divisor count) with
  | some period => .ok period
  | none => .error (.periodTooLong count.toNat window)

/-- The length of a settled request, from its first complete source. -/
def period (s : SpanSpec) : Except SpanError Duration :=
  match s.sources.head?, s.start, s.stop, s.width, s.windowCount, s.windowWidth with
  | some .bounds, some start, some stop, _, _, _ => .ok (stop.since start)
  | some .width, _, _, some width, _, _ => .ok width
  | some .windows, _, _, _, some count, some window => windowsPeriod count window
  | _, _, _, _, _, _ => .error .unsettled

/-- The bound that lies a period away from a given one. -/
def shift (anchor : Instant) (direction : Direction) (period : Duration) :
    Except SpanError Instant :=
  let moved? := match direction with
    | .forward => anchor.add? period
    | .backward => anchor.sub? period
  match moved? with
  | some moved => .ok moved
  | none => .error (.boundOutOfRange anchor direction period)

def bounds (s : SpanSpec) (period : Duration) : Except SpanError (Instant × Instant) :=
  match s.start, s.stop with
  | some start, some stop => .ok (start, stop)
  | some start, none => do return (start, ← shift start .forward period)
  | none, some stop => do return (← shift stop .backward period, stop)
  | none, none => .error .unsettled

/-- How many windows of a width cover a period, the last of them perhaps in part. -/
def windowsIn (period window : Duration) : Except SpanError UInt32 :=
  let (p, w) := period.ratio window
  if w ≤ 0 then .error .windowTooSmall
  else
    let count := p.tdiv w + (if p.tmod w = 0 then 0 else 1)
    if 0 ≤ count ∧ count < 4294967296 then .ok (UInt32.ofNat count.toNat)
    else .error (.tooManyWindows count)

def windows (s : SpanSpec) (period : Duration) :
    Except SpanError (UInt32 × Duration × WindowSource) :=
  match s.windowCount, s.windowWidth with
  | some count, some window => .ok (count, window, .width)
  | some count, none => do return (count, period.share (← divisor count), .count)
  | none, some window => do return (← windowsIn period window, window, .width)
  | none, none => .error .unsettled

def derive (s : SpanSpec) : Except SpanError Span := do
  let period ← s.period
  if period.IsPositive then
    let (start, stop) ← s.bounds period
    let (count, window, source) ← s.windows period
    return ⟨start, stop, period, count, window, source⟩
  else throw .nonPositivePeriod

/-- Refuses window fields that no span can have. -/
def checkWindows (s : SpanSpec) : Except SpanError Unit := do
  if s.windowCount = some 0 then throw .zeroWindows
  if let some window := s.windowWidth then
    unless window.IsPositive do throw .nonPositiveWindow

/-- The span that is asked for, with `now` as its end where nothing else fixes it. -/
def resolve (now : Instant) (s : SpanSpec) : Except SpanError Span := do
  s.checkWindows
  if 1 < s.sources.length then throw (.overConstrained s.sources)
  (← s.complete now).derive

end SpanSpec
end SeriesExport
