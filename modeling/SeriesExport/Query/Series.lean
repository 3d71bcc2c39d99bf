import SeriesExport.Flux.Selector
import SeriesExport.Query.Error
import SeriesExport.Table.Changes

/-! Queries for the points of one series: all of them, those that change, or those around a step out
of band. -/
namespace SeriesExport
open Flux
set_option autoImplicit false

inductive PointFilter where
  | all
  | changes
  | discontinuities (band : Band)

structure SeriesQuery where
  item : Item
  selector : Selector
  keep : PointFilter := .all
  /-- Whether the last value before the span comes first. -/
  withOpenValue : Bool := true

namespace SeriesQuery

def compile (buckets : Buckets) (shape : RecordShape) (keep : PointFilter) (i : Item) :
    Except QueryError SeriesQuery := do
  shape.requireLoneValue
  return { item := i, selector := .ofItem (← buckets.find i.domain) i, keep }

def stepColumn : String := "difference"

/-- Adds the step into each point, zero for a step from nothing. -/
def addSteps : List Stage :=
  [.group, .duplicateValue stepColumn, .stepInto stepColumn, .fillZero stepColumn]

def shaping (q : SeriesQuery) : List Stage :=
  match q.keep with
  | .discontinuities _ => addSteps ++ reshapeSeries [stepColumn]
  | _ => reshapeSeries []

def program (q : SeriesQuery) : Program :=
  let span := q.item.span
  if q.withOpenValue then
    .statements [
      { binding := some "openValue", spaced := true
        pipeline := q.selector.pipeline (rangeBefore span) [.last] },
      { binding := some "rangeValues", spaced := true
        pipeline := q.selector.pipeline (rangeOf span) [] },
      { pipeline := ⟨.union ["openValue", "rangeValues"], q.shaping⟩ }]
  else .statements [{ pipeline := q.selector.pipeline (rangeOf span) q.shaping }]

/-- The columns of an answer that make up a row. -/
def sourceColumns (q : SeriesQuery) : List String := ["_time", q.item.measurement]

def columns (q : SeriesQuery) : List String := ["_time", q.item.exportName]

def strategy (q : SeriesQuery) : Strategy :=
  match q.keep with
  | .all => .raw
  | .changes => .changesOnly
  | .discontinuities _ => .discontinuitiesOnly

def wantsFrame (q : SeriesQuery) : Bool :=
  match q.keep with
  | .all => false
  | _ => true

def keptRows (q : SeriesQuery) (frame : Table) : Except MissingColumn (List Nat) :=
  match q.keep with
  | .all => .ok (List.range frame.size)
  | .changes => do return changedIndices (← frame.column q.item.measurement)
  | .discontinuities band => do
    return discontinuityIndices band ((← frame.column stepColumn).map Cell.number?)

def repack (q : SeriesQuery) (a : Answer) : Except QueryError (List Row) :=
  match q.keep with
  | .all => orMissing (a.project q.sourceColumns)
  | _ =>
    let frame := a.toFrame
    if frame.isEmpty then .ok []
    else orMissing (do frame.selectRows q.sourceColumns (← q.keptRows frame))

end SeriesQuery
end SeriesExport
