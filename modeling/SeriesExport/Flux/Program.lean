import SeriesExport.Span.Basic

/-! Flux programs as data, and their text. A program is a list of statements, each a pipeline that
may be bound to a name; a listing of tag values is a single call. Values are put between quotes as
they are. -/
namespace SeriesExport.Flux
set_option autoImplicit false

def quote (s : String) : String := "\"" ++ s ++ "\""

def quoteAll (names : List String) : String := ", ".intercalate (names.map quote)

/-- The part of time a pipeline reads, in seconds from 1970. -/
inductive Range where
  | before (stop : Int)
  | within (start stop : Int)
  deriving DecidableEq

def Range.text : Range → String
  | before stop => "range(start: -inf, stop: " ++ toString stop ++ ")"
  | within start stop => "range(start: " ++ toString start ++ ", stop: " ++ toString stop ++ ")"

def Range.bounds? : Range → Option (Int × Int)
  | before _ => none
  | within start stop => some (start, stop)

inductive Aggregator where
  | mean | sum | count | min | max
  deriving DecidableEq

def Aggregator.name : Aggregator → String
  | mean => "mean"
  | sum => "sum"
  | count => "count"
  | min => "min"
  | max => "max"

inductive Source where
  | bucket (name : String)
  | union (tables : List String)
  deriving DecidableEq

def Source.text : Source → String
  | bucket name => "from(bucket: " ++ quote name ++ ")\n"
  | union tables => "union(tables: [" ++ ", ".intercalate tables ++ "])\n"

inductive Stage where
  | range (r : Range)
  | filter (key value : String)
  | last
  | toFloat
  /-- Windows of the given number of seconds. -/
  | aggregateWindow (seconds : Int) (aggregator : Aggregator)
  | group
  | groupByTime
  | groupBy (column : String)
  | distinct (column : String)
  | keep (columns : List String)
  | pivotMeasurements (rowKey : List String)
  | pivotBy (column : String)
  | sortByTime
  | duplicateValue (column : String)
  | stepInto (column : String)
  | fillZero (column : String)
  | labelBand (aggregator : Aggregator)
  | labelName (name : String)
  deriving DecidableEq

def Stage.call : Stage → String
  | range r => r.text
  | filter key value => "filter(fn: (r) => r[" ++ quote key ++ "] == " ++ quote value ++ ")"
  | last => "last()"
  | toFloat => "toFloat()"
  | aggregateWindow seconds aggregator =>
    "aggregateWindow(every: " ++ toString seconds ++ "s, fn: " ++ aggregator.name ++
      ", createEmpty: false)"
  | group => "group()"
  | groupByTime => "group(columns: [\"_time\"], mode: \"by\")"
  | groupBy column => "group(columns: [" ++ quote column ++ "])"
  | distinct column => "distinct(column: " ++ quote column ++ ")"
  | keep columns => "keep(columns: [" ++ quoteAll columns ++ "])"
  | pivotMeasurements rowKey =>
    "pivot(rowKey:[" ++ quoteAll rowKey ++
      "], columnKey: [\"_measurement\"], valueColumn: \"_value\")"
  | pivotBy column =>
    "pivot(rowKey: [\"_time\"], columnKey: [" ++ quote column ++ "], valueColumn: \"_value\")"
  | sortByTime => "sort(columns: [\"_time\"], desc: false)"
  | duplicateValue column => "duplicate(column: \"_value\", as: " ++ quote column ++ ")"
  | stepInto column => "difference(columns: [" ++ quote column ++ "], keepFirst: true)"
  | fillZero column => "fill(column: " ++ quote column ++ ", value: 0)"
  | labelBand aggregator => "set(key: \"band\", value: " ++ quote aggregator.name ++ ")"
  | labelName name => "set(key: \"name\", value:" ++ quote name ++ ")"

def Stage.text (s : Stage) : String := " |> " ++ s.call ++ "\n"

structure Pipeline where
  source : Source
  stages : List Stage
  deriving DecidableEq

def Pipeline.text (p : Pipeline) : String := p.source.text ++ String.join (p.stages.map Stage.text)

/-- A pipeline bound to a name, or the result of the program. A blank line may follow. -/
structure Statement where
  binding : Option String := none
  pipeline : Pipeline
  spaced : Bool := false
  deriving DecidableEq

def Statement.text (s : Statement) : String :=
  (match s.binding with
    | some name => name ++ " = "
    | none => "") ++ s.pipeline.text ++ (if s.spaced then "\n" else "")

/-- A call that lists the values of a tag, within bounds if there are any. -/
structure TagListing where
  bucket : String
  measurement : String
  tag : String
  bounds : Option (Int × Int)
  deriving DecidableEq

def TagListing.text (l : TagListing) : String :=
  "import \"influxdata/influxdb/schema\"\n\n" ++
  "schema.measurementTagValues(\n" ++
  "  bucket: " ++ quote l.bucket ++ ",\n" ++
  "  measurement: " ++ quote l.measurement ++ ",\n" ++
  "  tag: " ++ quote l.tag ++ ",\n" ++
  (match l.bounds with
    | some (start, stop) =>
      "  start: " ++ toString start ++ ",\n" ++ "  stop: " ++ toString stop ++ ",\n"
    | none => "") ++
  ")\n\n" ++
  (Stage.distinct "_value").text

inductive Program where
  | statements (ss : List Statement)
  | tagListing (l : TagListing)
  deriving DecidableEq

def Program.text : Program → String
  | statements ss => String.join (ss.map Statement.text)
  | tagListing l => l.text

/-! ## What a program contains -/

namespace Program

def assigned : Program → List String
  | statements ss => ss.filterMap Statement.binding
  | tagListing _ => []

/-- The bounds of everything that is read between two moments. -/
def boundedRanges : Program → List (Int × Int)
  | statements ss => ss.flatMap fun s => s.pipeline.stages.filterMap fun
    | .range r => r.bounds?
    | _ => none
  | tagListing l => l.bounds.toList

def windowSeconds : Program → List Int
  | statements ss => ss.flatMap fun s => s.pipeline.stages.filterMap fun
    | .aggregateWindow seconds _ => some seconds
    | _ => none
  | tagListing _ => []

end Program

/-- A name whose characters other than ASCII letters, digits and the underscore became underscores. -/
def identifier (name : String) : String :=
  String.ofList (name.toList.map fun c => if c.isAlphanum || c == '_' then c else '_')

end SeriesExport.Flux
