import SeriesExport.Query.Series
import SeriesExport.Query.Aggregate
import SeriesExport.Query.Windowed
import SeriesExport.Query.TagValues

/-! Compiled queries of all kinds: the program to run, and how its answer becomes rows. -/
namespace SeriesExport
set_option autoImplicit false

inductive Query where
  | series (q : SeriesQuery)
  | aggregate (q : AggregateQuery)
  | windowed (q : WindowedQuery)
  | tagValues (q : TagValuesQuery)

/-- What a query reports to have exported. -/
inductive QueryStrategy where
  | single (s : Strategy)
  | distinctTags
  | channels (names : SortedMap String Strategy)

def QueryStrategy.document : QueryStrategy → Document
  | single s => .text s.name
  | distinctTags => .text "DistinctTagsExtraction"
  | channels names => .record (names.entries.map fun e => (e.1, .text e.2.name))

namespace Query

def program : Query → Flux.Program
  | series q => q.program
  | aggregate q => q.program
  | windowed q => q.program
  | tagValues q => q.program

def repack : Query → Answer → Except QueryError (List Row)
  | series q => q.repack
  | aggregate q => q.repack
  | windowed q => q.repack
  | tagValues q => q.repack

def strategy : Query → QueryStrategy
  | series q => .single q.strategy
  | aggregate q => .single q.item.exporter
  | windowed q => .channels q.strategies
  | tagValues _ => .distinctTags

def columns : Query → List String
  | series q => q.columns
  | aggregate q => q.columns
  | windowed q => q.columns
  | tagValues q => q.columns

/-- Whether the answer should be merged into one table. -/
def wantsFrame : Query → Bool
  | series q => q.wantsFrame
  | tagValues _ => true
  | _ => false

end Query
end SeriesExport
