import SeriesExport.Table.Cell

/-! Tables with named columns, and answers of a store made of them. An answer is a stream of tables
or the one table they merge into; both are projected to named columns. -/
namespace SeriesExport
set_option autoImplicit false

/-- Named columns and rows. A row may be shorter or longer than the header, and a name may stand in
it more than once: then its first place counts. -/
structure Table where
  columns : List String
  rows : List Row
  deriving Inhabited

structure MissingColumn where
  name : String
  deriving DecidableEq

/-- The cell of a row at a place, if the column and the row have it. -/
def Row.cellAt (row : Row) (place : Option Nat) : Cell := (place.bind (row[·]?)).getD .missing

namespace Table

def place? (t : Table) (name : String) : Option Nat := t.columns.findIdx? (· == name)

def size (t : Table) : Nat := t.rows.length

def isEmpty (t : Table) : Bool := t.rows.isEmpty

def column (t : Table) (name : String) : Except MissingColumn (List Cell) :=
  match t.place? name with
  | some place => .ok (t.rows.map fun row => row.cellAt (some place))
  | none => .error ⟨name⟩

def project (t : Table) (names : List String) : List Row :=
  let places := names.map t.place?
  t.rows.map fun row => places.map row.cellAt

/-- The given columns of the rows with the given numbers. -/
def selectRows (t : Table) (names : List String) (numbers : List Nat) :
    Except MissingColumn (List Row) := do
  let places ← names.mapM fun name =>
    match t.place? name with
    | some place => .ok (some place)
    | none => .error ⟨name⟩
  return (numbers.filterMap (t.rows[·]?)).map fun row => places.map row.cellAt

/-! ## Merging -/

/-- Columns that a store adds to every table. -/
def isAnnotationColumn (name : String) : Bool := name == "result" || name == "table"

/-- Adds the names that are new and no annotation. -/
def unite (names : List String) : List String → List String
  | [] => names
  | name :: rest =>
    if isAnnotationColumn name || names.contains name then unite names rest
    else unite (names ++ [name]) rest

/-- The columns of all tables, each once, in order of appearance. -/
def unitedColumns (ts : List Table) : List String :=
  ts.foldl (fun names t => unite names t.columns) []

def merge (ts : List Table) : Table :=
  let names := unitedColumns ts
  ⟨names, ts.flatMap fun t => t.project names⟩

end Table

/-! ## Answers -/

inductive Answer where
  | records (tables : List Table)
  | frame (table : Table)

namespace Answer

def ofTables (ts : List Table) (tabular : Bool) : Answer :=
  if tabular then .frame (Table.merge ts) else .records ts

def tables : Answer → List Table
  | records ts => ts
  | frame t => [t]

def toFrame : Answer → Table
  | records ts => Table.merge ts
  | frame t => t

def absent? (ts : List Table) (names : List String) : Option String :=
  names.find? fun name => ts.all fun t => (t.place? name).isNone

/-- The named columns of every row. A name that only some tables have is missing in the rest; one that
none has is an error as soon as there is a row. -/
def project (a : Answer) (names : List String) : Except MissingColumn (List Row) :=
  if a.tables.any fun t => !t.isEmpty then
    match absent? a.tables names with
    | some name => .error ⟨name⟩
    | none => .ok (a.tables.flatMap fun t => t.project names)
  else .ok []

end Answer
end SeriesExport
