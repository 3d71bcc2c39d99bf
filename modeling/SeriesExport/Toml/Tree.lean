import SeriesExport.Document

/-! Tables of a TOML text while it is read. A table remembers how it came about, because that decides
what may still be added to it. -/
namespace SeriesExport.Toml
set_option autoImplicit false

inductive Origin where
  /-- By a heading of its own. -/
  | heading
  /-- As part of the path of a heading. -/
  | headingPath
  /-- As part of the dotted key of an entry. -/
  | dottedKey
  deriving DecidableEq

inductive Node where
  | value (d : Document)
  | table (origin : Origin) (entries : List (String × Node))
  /-- Tables under a repeated heading, the last one first. -/
  | tables (last : List (String × Node)) (earlier : List (List (String × Node)))

abbrev Entries := List (String × Node)

namespace Entries

/-- Makes a new node from what is under a key. -/
def alter (key : String) (f : Option Node → Option Node) : Entries → Option Entries
  | [] => do return [(key, ← f none)]
  | (k, n) :: es =>
    if k = key then do return (k, ← f (some n)) :: es
    else do return (k, n) :: (← alter key f es)

/-- Changes the table that a path of headings leads to. Missing tables are made on the way, and a
repeated heading stands for its last table. -/
def within (f : Entries → Option Entries) : (path : List String) → Entries → Option Entries
  | [], es => f es
  | key :: path, es => es.alter key fun
    | none => do return .table .headingPath (← within f path [])
    | some (.value _) => none
    | some (.table origin es) => do return .table origin (← within f path es)
    | some (.tables last earlier) => do return .tables (← within f path last) earlier

def addNew (key : String) (n : Node) (es : Entries) : Option Entries :=
  es.alter key fun
    | none => some n
    | some _ => none

/-- Adds an entry under a dotted key. The table it goes into has to be the current one or itself made
by a dotted key; `accepts` says whether that holds of this one. -/
def addDotted (d : Document) (key : String) :
    (accepts : Bool) → (path : List String) → Entries → Option Entries
  | accepts, [], es => if accepts then es.addNew key (.value d) else none
  | _, k :: path, es => es.alter k fun
    | none => do return .table .dottedKey (← addDotted d key true path [])
    | some (.value _) => none
    | some (.table .heading _) => none
    | some (.table origin es) => do
      return .table origin (← addDotted d key (origin = .dottedKey) path es)
    | some (.tables last earlier) => do
      return .tables (← addDotted d key false path last) earlier

/-- Opens the table of a heading, which may only have been part of other paths before. -/
def open? (key : String) (es : Entries) : Option Entries :=
  es.alter key fun
    | none => some (.table .heading [])
    | some (.table .headingPath es) => some (.table .heading es)
    | some _ => none

def openNext? (key : String) (es : Entries) : Option Entries :=
  es.alter key fun
    | none => some (.tables [] [])
    | some (.tables last earlier) => some (.tables [] (last :: earlier))
    | some _ => none

end Entries

mutual

def Node.document : Node → Document
  | .value d => d
  | .table _ es => .record (entryDocuments es)
  | .tables last earlier => .list (tableDocuments earlier [.record (entryDocuments last)])

def entryDocuments : List (String × Node) → List (String × Document)
  | [] => []
  | (k, n) :: es => (k, n.document) :: entryDocuments es

def tableDocuments : List (List (String × Node)) → List Document → List Document
  | [], later => later
  | es :: earlier, later => tableDocuments earlier (.record (entryDocuments es) :: later)

end

/-- The entries of a record on one line. Only dotted keys may add to a table of theirs. -/
def inlineRecord (pairs : List (List String × Document)) : Option Document := do
  let entries ← pairs.foldlM (fun es (path, d) =>
    match path.getLast? with
    | some key => Entries.addDotted d key true path.dropLast es
    | none => none) []
  return .record (entryDocuments entries)

end SeriesExport.Toml
