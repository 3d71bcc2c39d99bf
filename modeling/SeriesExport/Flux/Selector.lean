import SeriesExport.Flux.Program
import SeriesExport.Item.Basic

/-! Selecting the records of a series: a bucket, a range, and equality filters one after another. -/
namespace SeriesExport.Flux
set_option autoImplicit false

structure Selector where
  bucket : String
  filters : List (String × String)
  deriving DecidableEq

namespace Selector

/-- The measurement of an item first, then its tags in their order. -/
def ofItem (bucket : String) (i : Item) : Selector :=
  ⟨bucket, ("_measurement", i.measurement) :: i.tags.entries⟩

def andFilter (s : Selector) (key value : String) : Selector :=
  { s with filters := s.filters ++ [(key, value)] }

def filterStages (s : Selector) : List Stage := s.filters.map fun f => .filter f.1 f.2

/-- The records of one part of time, and what is done with them. -/
def pipeline (s : Selector) (r : Range) (rest : List Stage) : Pipeline :=
  ⟨.bucket s.bucket, .range r :: (s.filterStages ++ rest)⟩

end Selector

def rangeBefore (s : Span) : Range := .before s.start.second

def rangeOf (s : Span) : Range := .within s.start.second s.stop.second

def aggregateOver (s : Span) (a : Aggregator) : Stage := .aggregateWindow s.windowWidth.wholeSeconds a

/-- Reshapes one series to rows by time with a column for its measurement. Extra columns stay and
tell rows apart. -/
def reshapeSeries (extra : List String) : List Stage :=
  [.keep (["_measurement", "_time", "_value"] ++ extra), .pivotMeasurements ("_time" :: extra),
    .group, .sortByTime]

end SeriesExport.Flux
