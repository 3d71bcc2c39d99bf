import SeriesExport.Item.Basic
import SeriesExport.Table.Basic

/-! Why a query cannot be planned, compiled or repacked. -/
namespace SeriesExport
set_option autoImplicit false

inductive ChannelMismatch where
  | domain (expected actual : String)
  | span (expected actual : Span)
  | table (name taken : String)

def ChannelMismatch.message : ChannelMismatch → String
  | domain expected actual =>
    "all windowed channels must share one domain: expected '" ++ expected ++ "', got '" ++
      actual ++ "'"
  | span expected actual =>
    "all windowed channels must share one time span: expected " ++ expected.display ++ ", got " ++
      actual.display
  | table name taken => "channel '" ++ name ++ "' collides with '" ++ taken ++ "'"

inductive QueryError where
  | span (e : SpanError)
  | spanMismatch (expected actual : Span)
  | duplicateExportName (name : String)
  | unknownDomain (domain : String)
  | unsupportedShape (fields : List String)
  | channelMismatch (m : ChannelMismatch)
  | unsupportedAggregator (exporter : Strategy)
  | noChannels
  | missingSpan (tag : String)
  | missingColumn (name : String)

def QueryError.message : QueryError → String
  | span e => "Time span error: " ++ e.message
  | spanMismatch expected actual =>
    "Plan does not support different time spans: expected " ++ expected.display ++ ", got " ++
      actual.display
  | duplicateExportName name => "Duplicate export name: " ++ name
  | unknownDomain domain => "Unknown domain: " ++ domain
  | unsupportedShape fields =>
    "Unsupported record shape: builders assume each record holds a single field named 'value', got ["
      ++ ", ".intercalate fields ++ "]"
  | channelMismatch m => "Windowed channel mismatch: " ++ m.message
  | unsupportedAggregator exporter => "Unsupported aggregator: " ++ exporter.name
  | noChannels => "Windowed query has no channels"
  | missingSpan tag => "Missing time span: filtered listing of tag '" ++ tag ++ "' needs a time span"
  | missingColumn name => "Response is missing column: " ++ name

/-- A value, or the column it could not be read from. -/
def orMissing {α : Type} : Except MissingColumn α → Except QueryError α
  | .ok a => .ok a
  | .error e => .error (.missingColumn e.name)

/-- The bucket of each domain that has one. -/
abbrev Buckets := String → Option String

def Buckets.find (b : Buckets) (domain : String) : Except QueryError String :=
  match b domain with
  | some bucket => .ok bucket
  | none => .error (.unknownDomain domain)

theorem Buckets.find_eq_ok_iff {b : Buckets} {domain bucket : String} :
    b.find domain = .ok bucket ↔ b domain = some bucket := by
  unfold find
  cases b domain with
  | none => exact ⟨nofun, nofun⟩
  | some found => rw [Except.ok.injEq, Option.some_inj]

def RecordShape.requireLoneValue : RecordShape → Except QueryError Unit
  | loneValue => .ok ()
  | fields names => .error (.unsupportedShape names)

end SeriesExport
