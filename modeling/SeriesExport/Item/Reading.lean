import SeriesExport.Item.Basic

/-! Requests as pieces of data. A record has no fields beyond the known ones; it may also be given as
the list of its fields in their order, cut short where the rest may be left out. In TOML such a list
may go on behind the last field. -/
namespace SeriesExport
set_option autoImplicit false

namespace Document

/-- The fields of a closed record, in the order of the given names. -/
def fields? (f : Format) (names : List String) : Document → Option (List (Option Document))
  | .record es =>
    if es.all fun e => names.contains e.1 then
      some (names.map fun n => (Document.record es).get? n)
    else none
  | .list ds =>
    if f = .toml ∨ ds.length ≤ names.length then
      some ((ds.take names.length).map some ++ List.replicate (names.length - ds.length) none)
    else none
  | _ => none

def optional? {α : Type} (read : Document → Option α) : Option Document → Option (Option α)
  | none => some none
  | some .null => some none
  | some d => (read d).map some

def defaulted? {α : Type} (read : Document → Option α) (default : α) : Option Document → Option α
  | none => some default
  | some d => read d

def instant? (d : Document) : Option Instant := d.text?.bind Timestamp.readLenient?

def duration? (d : Document) : Option Duration := d.text?.bind Duration.ofLiteral?

def windowCount? (d : Document) : Option UInt32 := do
  let n ← d.integer?
  if 0 ≤ n ∧ n < 4294967296 then some (UInt32.ofNat n.toNat) else none

def texts? (d : Document) : Option (List String) := do
  (← d.list?).mapM text?

def textMap? (d : Document) : Option Tags := do
  return SortedMap.ofList (← (← d.entries?).mapM fun e => e.2.text?.map fun v => (e.1, v))

def span? (f : Format) (d : Document) : Option SpanSpec := do
  match ← d.fields? f ["start", "end", "width", "window_count", "window_width"] with
  | [start, stop, width, count, window] =>
    return {
      start := ← optional? instant? start
      stop := ← optional? instant? stop
      width := ← optional? duration? width
      windowCount := ← optional? windowCount? count
      windowWidth := ← optional? duration? window }
  | _ => none

def request? (f : Format) (d : Document) : Option Request := do
  let names :=
    ["domain", "time_span", "export_name", "measurement", "tags", "fields", "exporter"]
  match ← d.fields? f names with
  | [some domain, span, some exportName, some measurement, tags, fields, some exporter] =>
    return {
      domain := ← domain.text?
      span := ← defaulted? (span? f) {} span
      exportName := ← exportName.text?
      measurement := ← measurement.text?
      tags := ← defaulted? textMap? .empty tags
      fields := ← defaulted? texts? [] fields
      exporter := ← Strategy.ofDocument? f exporter }
  | _ => none

/-- The requests of a plan, under the name `items`. -/
def requests? (f : Format) (d : Document) : Option (List Request) := do
  match ← d.fields? f ["items"] with
  | [items] => defaulted? (fun d => do (← d.list?).mapM (request? f)) [] items
  | _ => none

end Document
end SeriesExport
