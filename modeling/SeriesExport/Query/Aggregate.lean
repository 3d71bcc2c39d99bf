import SeriesExport.Flux.Selector
import SeriesExport.Query.Error

/-! Queries for the windows of one series: one aggregate for each, or the least, the mean and the
greatest value. -/
namespace SeriesExport
open Flux
set_option autoImplicit false

inductive Aggregation where
  | one (a : Aggregator)
  | band
  deriving DecidableEq

def Strategy.aggregation? : Strategy → Option Aggregation
  | aggregateMean => some (.one .mean)
  | aggregateSum => some (.one .sum)
  | aggregateCount => some (.one .count)
  | aggregateBand => some .band
  | _ => none

structure AggregateQuery where
  item : Item
  selector : Selector
  aggregation : Aggregation

namespace AggregateQuery

def compile (buckets : Buckets) (shape : RecordShape) (i : Item) :
    Except QueryError AggregateQuery := do
  shape.requireLoneValue
  match i.exporter.aggregation? with
  | none => throw (.unsupportedAggregator i.exporter)
  | some aggregation =>
    return ⟨i, .ofItem (← buckets.find i.domain) i, aggregation⟩

def bandTables : List (String × Aggregator) :=
  [("bandMin", .min), ("bandMean", .mean), ("bandMax", .max)]

def program (q : AggregateQuery) : Program :=
  let span := q.item.span
  let windows (rest : Aggregator → List Stage) (a : Aggregator) : Pipeline :=
    q.selector.pipeline (rangeOf span) (aggregateOver span a :: rest a)
  match q.aggregation with
  | .one a => .statements [{ pipeline := windows (fun _ => reshapeSeries []) a }]
  | .band =>
    .statements (bandTables.map (fun t =>
        { binding := some t.1, spaced := true
          pipeline := windows (fun a => [.labelBand a]) t.2 }) ++
      [{ pipeline := ⟨.union (bandTables.map Prod.fst),
          [.group, .keep ["_time", "_value", "band"], .pivotBy "band", .sortByTime]⟩ }])

def bandNames : List String := bandTables.map fun t => t.2.name

/-- The columns of an answer that make up a row. -/
def sourceColumns (q : AggregateQuery) : List String :=
  "_time" :: match q.aggregation with
    | .one _ => [q.item.measurement]
    | .band => bandNames

def columns (q : AggregateQuery) : List String :=
  "_time" :: match q.aggregation with
    | .one _ => [q.item.exportName]
    | .band => bandNames.map fun n => q.item.exportName ++ "." ++ n

def repack (q : AggregateQuery) (a : Answer) : Except QueryError (List Row) :=
  orMissing (a.project q.sourceColumns)

end AggregateQuery
end SeriesExport
