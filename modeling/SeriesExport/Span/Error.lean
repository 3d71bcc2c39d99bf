import SeriesExport.Time.Literal
import SeriesExport.Time.Timestamp

/-! Why a time span cannot be resolved. -/
namespace SeriesExport
set_option autoImplicit false

inductive PeriodSource where
  | bounds | width | windows
  deriving DecidableEq

def PeriodSource.describe : PeriodSource → String
  | bounds => "(start, end)"
  | width => "width"
  | windows => "(window_count, window_width)"

/-- Which way a missing bound lies from the given one. -/
inductive Direction where
  | forward | backward
  deriving DecidableEq

def Direction.sign : Direction → String
  | forward => "+"
  | backward => "-"

inductive SpanError where
  | overConstrained (sources : List PeriodSource)
  | nonPositivePeriod
  | zeroWindows
  | nonPositiveWindow
  | windowCountTooLarge (count : Nat)
  | windowTooSmall
  | tooManyWindows (count : Int)
  | periodTooLong (count : Nat) (window : Duration)
  | boundOutOfRange (anchor : Instant) (direction : Direction) (period : Duration)
  | invalidDuration (literal : String)
  /-- Completing the span made no progress; no input leads here. -/
  | unsettled
  deriving DecidableEq

namespace SpanError

def writeInstant (t : Instant) : String := Timestamp.write "+00:00" t

def detail : SpanError → String
  | overConstrained sources =>
    "period given by " ++ " and ".intercalate (sources.map PeriodSource.describe)
  | nonPositivePeriod => "ensure start is before end"
  | zeroWindows => "window_count must be at least 1"
  | nonPositiveWindow => "window_width must be positive"
  | windowCountTooLarge count => s!"window_count {count} is too large"
  | windowTooSmall => "window_width is too small for this period"
  | tooManyWindows count => s!"{count} windows exceed the supported count"
  | periodTooLong count window => s!"{count} windows of {window.literal}"
  | boundOutOfRange anchor direction period =>
    writeInstant anchor ++ " " ++ direction.sign ++ " " ++ period.literal
  | invalidDuration literal => literal
  | unsettled => "the span cannot be completed"

def heading : SpanError → String
  | overConstrained _ => "Query time span is over-constrained: "
  | nonPositivePeriod => "Time span is negative or zero: "
  | zeroWindows | nonPositiveWindow | windowCountTooLarge _ | windowTooSmall | tooManyWindows _ =>
    "Invalid window: "
  | periodTooLong _ _ | boundOutOfRange _ _ _ => "Time span out of range: "
  | invalidDuration _ => "Invalid duration: "
  | unsettled => "Time span unsettled: "

def message (e : SpanError) : String := e.heading ++ e.detail

end SpanError

def Duration.ofLiteral (text : String) : Except SpanError Duration :=
  match Duration.ofLiteral? text with
  | some d => .ok d
  | none => .error (.invalidDuration text)

end SeriesExport
