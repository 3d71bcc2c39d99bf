import SeriesExport.Csv.Records
import SeriesExport.Decimal.Reading
import SeriesExport.Table.Basic

/-! Tables in annotated comma-separated text. Records whose first cell starts with `#` annotate the
table that follows them: they type its columns and fill its empty cells. The first cell of every
record serves annotations only. -/
namespace SeriesExport.Csv
open Text
set_option autoImplicit false

/-! ## Cells -/

inductive CellType where
  | text | double | long | unsigned | boolean | dateTime
  deriving DecidableEq

def CellType.ofAnnotation (s : String) : CellType :=
  if s = "double" then double
  else if s = "long" then long
  else if s = "unsigned" then unsigned
  else if s = "boolean" then boolean
  else if s.startsWith "dateTime" then dateTime
  else text

def CellType.name : CellType → String
  | text => "string"
  | double => "double"
  | long => "long"
  | unsigned => "unsigned"
  | boolean => "boolean"
  | dateTime => "dateTime"

inductive DecodeError where
  | badCell (type : CellType) (cell : String)
  /-- The store reports an error in place of a table. -/
  | reported (message : String)

def natural? (cs : List Char) : Option Nat :=
  let ds := match cs with
    | '+' :: ds => ds
    | ds => ds
  if ds ≠ [] ∧ ds.all Char.isDigit then some (valueOfDigits ds) else none

def integer? : List Char → Option Int
  | '-' :: '+' :: _ => none
  | '-' :: ds => (natural? ds).map fun n => -(n : Int)
  | cs => (natural? cs).map fun n => (n : Int)

def long? (s : String) : Option Cell := do
  let n ← integer? s.toList
  if -9223372036854775808 ≤ n ∧ n ≤ 9223372036854775807 then some (.integer (Int64.ofInt n)) else none

/-- Unsigned numbers above the signed range become real ones. -/
def unsigned? (s : String) : Option Cell := do
  let n ← natural? s.toList
  if n ≤ 9223372036854775807 then some (.integer (Int64.ofInt n))
  else if n ≤ 18446744073709551615 then some (.real (Decimal.nearest false n 1))
  else none

def double? (s : String) : Option Cell := (Decimal.float? s).map .real

def boolean? (s : String) : Option Cell :=
  if s = "true" then some (.boolean true)
  else if s = "false" then some (.boolean false)
  else none

def dateTime? (s : String) : Option Cell := (Timestamp.readStrict? s).map .time

def CellType.read? : CellType → String → Option Cell
  | text, s => some (.text s)
  | double, s => double? s
  | long, s => long? s
  | unsigned, s => unsigned? s
  | boolean, s => boolean? s
  | dateTime, s => dateTime? s

/-- An empty cell is missing whatever its type. -/
def CellType.decode (t : CellType) (s : String) : Except DecodeError Cell :=
  if s.isEmpty then .ok .missing
  else
    match t.read? s with
    | some c => .ok c
    | none => .error (.badCell t s)

/-! ## Tables -/

structure Annotations where
  types : List CellType := []
  defaults : List String := []

/-- The cells of a record, empty ones replaced by their defaults. -/
def Annotations.decodeRow (a : Annotations) (cells : List String) :
    Except DecodeError Row :=
  cells.zipIdx.mapM fun (s, i) =>
    let s := if s.isEmpty then (a.defaults[i]?).getD "" else s
    ((a.types[i]?).getD .text).decode s

/-- A table that is being read; it starts with its header. -/
structure OpenTable where
  annotations : Annotations
  table : Table

/-- A column that only answers reporting an error have. -/
def errorColumn : String := "error"

def OpenTable.close (t : OpenTable) : Except DecodeError Table :=
  match t.table.place? errorColumn with
  | none => .ok t.table
  | some place =>
    match t.table.rows.head?.bind (·[place]?) with
    | some (.text message) => .error (.reported message)
    | _ => .error (.reported "unknown store error")

/-- The tables read so far and the one that is open. Annotations in sequence belong together. -/
structure Reader where
  tables : List Table := []
  current : Option OpenTable := none
  annotations : Annotations := {}
  inAnnotations : Bool := false

namespace Reader

def close (r : Reader) : Except DecodeError Reader :=
  match r.current with
  | none => .ok r
  | some t => do return { r with tables := r.tables ++ [← t.close], current := none }

def annotate (a : Annotations) (name : String) (cells : List String) : Annotations :=
  if name = "#datatype" then { a with types := cells.map CellType.ofAnnotation }
  else if name = "#default" then { a with defaults := cells }
  else a

/-- Reads one record. The first annotation after other records closes their table. -/
def read (r : Reader) : List String → Except DecodeError Reader
  | [] => .ok r
  | first :: cells =>
    if (first :: cells).all String.isEmpty then .ok r
    else if first.startsWith "#" then do
      let r ← if r.inAnnotations then pure r
        else do pure { ← r.close with annotations := {}, inAnnotations := true }
      return { r with annotations := annotate r.annotations first cells }
    else
      match r.current with
      | none =>
        .ok { r with
          current := some ⟨r.annotations, ⟨cells, []⟩⟩, annotations := {}, inAnnotations := false }
      | some t => do
        let row ← t.annotations.decodeRow cells
        let table := { t.table with rows := t.table.rows ++ [row] }
        return { r with current := some { t with table }, inAnnotations := false }

end Reader

/-! ## Splitting -/

/-- Cuts rows where the cell at a place changes. `part` holds the rows since the last cut, in
reverse, and `last` the cell of the latest row, if it has one. -/
def splitRows (place : Nat) : (part : List Row) → (last : Option Cell) → List Row → List (List Row)
  | part, _, [] => [part.reverse]
  | part, last, row :: rows =>
    let id := row[place]?
    if last.isSome && id != last then part.reverse :: splitRows place [row] id rows
    else splitRows place (row :: part) id rows

def tableColumn : String := "table"

def splitTable (t : Table) : List Table :=
  match t.place? tableColumn with
  | none => [t]
  | some place => (splitRows place [] none t.rows).map fun rows => ⟨t.columns, rows⟩

def tablesOfRecords (rs : List (List String)) : Except DecodeError (List Table) := do
  let reader ← rs.foldlM Reader.read {}
  return (← reader.close).tables.flatMap splitTable

def decode (body : String) : Except DecodeError (List Table) := tablesOfRecords (records body)

end SeriesExport.Csv
