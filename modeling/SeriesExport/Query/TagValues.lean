import SeriesExport.Flux.Selector
import SeriesExport.Query.Error

/-! Listings of the values that a tag takes. Without filters the store lists them itself; with
filters they are read from the records of a span. -/
namespace SeriesExport
open Flux
set_option autoImplicit false

structure TagValuesDraft where
  measurement : String
  tag : String
  selector : Selector
  span? : Option Span := none

inductive Listing where
  | byStore (span? : Option Span)
  | filtered (span : Span)

structure TagValuesQuery where
  measurement : String
  tag : String
  selector : Selector
  listing : Listing

namespace TagValuesDraft

def start (buckets : Buckets) (domain measurement tag : String) :
    Except QueryError TagValuesDraft := do
  let bucket ← buckets.find domain
  return { measurement, tag, selector := ⟨bucket, [("_measurement", measurement)]⟩ }

def withFilter (d : TagValuesDraft) (key value : String) : TagValuesDraft :=
  { d with selector := d.selector.andFilter key value }

def withField (d : TagValuesDraft) (field : String) : TagValuesDraft := d.withFilter "_field" field

def withSpan (d : TagValuesDraft) (span : Span) : TagValuesDraft := { d with span? := some span }

/-- Filters beyond the measurement call for a span. -/
def finish (d : TagValuesDraft) : Except QueryError TagValuesQuery :=
  if 1 < d.selector.filters.length then
    match d.span? with
    | some span => .ok ⟨d.measurement, d.tag, d.selector, .filtered span⟩
    | none => .error (.missingSpan d.tag)
  else .ok ⟨d.measurement, d.tag, d.selector, .byStore d.span?⟩

end TagValuesDraft

namespace TagValuesQuery

def isFiltered (q : TagValuesQuery) : Bool :=
  match q.listing with
  | .byStore _ => false
  | .filtered _ => true

def program (q : TagValuesQuery) : Program :=
  match q.listing with
  | .byStore span? =>
    .tagListing ⟨q.selector.bucket, q.measurement, q.tag,
      span?.map fun s => (s.start.second, s.stop.second)⟩
  | .filtered span =>
    .statements [{ pipeline :=
      q.selector.pipeline (rangeOf span) [.groupBy q.tag, .distinct q.tag] }]

def columns (q : TagValuesQuery) : List String := [q.tag]

def repack (_ : TagValuesQuery) (a : Answer) : Except QueryError (List Row) :=
  let frame := a.toFrame
  if frame.columns = [] then .ok []
  else orMissing (do return (← frame.column "_value").map fun c => [c])

end TagValuesQuery
end SeriesExport
