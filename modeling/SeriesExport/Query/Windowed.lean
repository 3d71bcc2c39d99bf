import SeriesExport.Flux.Selector
import SeriesExport.Query.Error

/-! Several series in one query. Each is a channel: its last value before the span and its windowed
aggregate; the channels become columns named after their exports. -/
namespace SeriesExport
open Flux
set_option autoImplicit false

structure Channel where
  item : Item
  /-- The variable its points are bound to. -/
  table : String
  selector : Selector
  aggregator : Aggregator

def Strategy.channelAggregator? : Strategy → Option Aggregator
  | windowedMean => some .mean
  | windowedSum => some .sum
  | _ => none

structure ChannelList where
  buckets : Buckets
  channels : List Channel := []

namespace ChannelList

/-- The bucket of a further channel, which is that of the first. -/
def bucketFor (cs : ChannelList) (i : Item) (table : String) : Except QueryError String :=
  match cs.channels with
  | [] => cs.buckets.find i.domain
  | first :: _ =>
    if i.domain ≠ first.item.domain then
      .error (.channelMismatch (.domain first.item.domain i.domain))
    else if ¬ i.span.Alike first.item.span then
      .error (.channelMismatch (.span first.item.span i.span))
    else
      match cs.channels.find? fun c => c.table == table with
      | some taken => .error (.channelMismatch (.table i.exportName taken.item.exportName))
      | none => .ok first.selector.bucket

/-- Appends a channel for an item, or says why it is refused. -/
def add (cs : ChannelList) (shape : RecordShape) (i : Item) : Except QueryError ChannelList := do
  shape.requireLoneValue
  match i.exporter.channelAggregator? with
  | none => throw (.unsupportedAggregator i.exporter)
  | some aggregator =>
    let table := identifier i.exportName
    let bucket ← cs.bucketFor i table
    return { cs with channels := cs.channels ++ [⟨i, table, .ofItem bucket i, aggregator⟩] }

end ChannelList

structure WindowedQuery where
  span : Span
  channels : List Channel

namespace WindowedQuery

def ofChannels (cs : ChannelList) : Except QueryError WindowedQuery :=
  match cs.channels with
  | [] => .error .noChannels
  | first :: _ => .ok ⟨first.item.span, cs.channels⟩

end WindowedQuery

namespace Channel

def openVariable (c : Channel) : String := c.table ++ "_openValue"

def rangeVariable (c : Channel) : String := c.table ++ "_rangeValues"

def statements (span : Span) (c : Channel) : List Statement :=
  [{ binding := some c.openVariable, spaced := true
     pipeline := c.selector.pipeline (rangeBefore span) [.last, .toFloat] },
   { binding := some c.rangeVariable, spaced := true
     pipeline := c.selector.pipeline (rangeOf span)
       [aggregateOver span c.aggregator, .toFloat] },
   { binding := some c.table
     pipeline := ⟨.union [c.openVariable, c.rangeVariable],
       [.group, .labelName c.item.exportName, .keep ["_time", "_value", "name"]]⟩ }]

end Channel

namespace WindowedQuery

def program (q : WindowedQuery) : Program :=
  .statements (q.channels.flatMap (Channel.statements q.span) ++
    [{ pipeline := ⟨.union (q.channels.map Channel.table),
        [.groupByTime, .pivotBy "name", .group, .sortByTime]⟩ }])

def columns (q : WindowedQuery) : List String :=
  "_time" :: q.channels.map fun c => c.item.exportName

def strategies (q : WindowedQuery) : SortedMap String Strategy :=
  SortedMap.ofList (q.channels.map fun c => (c.item.exportName, c.item.exporter))

def repack (q : WindowedQuery) (a : Answer) : Except QueryError (List Row) :=
  orMissing (a.project q.columns)

end WindowedQuery
end SeriesExport
