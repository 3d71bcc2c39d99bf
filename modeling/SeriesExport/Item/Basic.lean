import SeriesExport.Item.Strategy
import SeriesExport.SortedMap
import SeriesExport.Span.Resolve

/-! Series to be exported: as requested, with a span still to be resolved, and as planned. -/
namespace SeriesExport
set_option autoImplicit false

abbrev Tags := SortedMap String String

structure Item where
  domain : String
  span : Span
  exportName : String
  measurement : String
  tags : Tags := .empty
  fields : List String := []
  exporter : Strategy

structure Request where
  domain : String
  span : SpanSpec := {}
  exportName : String
  measurement : String
  tags : Tags := .empty
  fields : List String := []
  exporter : Strategy

def Request.resolve (now : Instant) (r : Request) : Except SpanError Item := do
  let span ← r.span.resolve now
  return ⟨r.domain, span, r.exportName, r.measurement, r.tags, r.fields, r.exporter⟩

inductive RecordShape where
  | loneValue
  | fields (names : List String)
  deriving DecidableEq

/-- An item that names no field, or only the field `value`, reads lone values. -/
def Item.shape (i : Item) : RecordShape :=
  match i.fields with
  | [] => .loneValue
  | ["value"] => .loneValue
  | names => .fields names

end SeriesExport
