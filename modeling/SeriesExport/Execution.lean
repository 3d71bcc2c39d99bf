import SeriesExport.Csv.Annotated
import SeriesExport.Plan.Queries

/-! Running a plan. A store answers the calls of each domain in turn; every answer goes back to the
query that asked. All queries of a domain are compiled before its first call. -/
namespace SeriesExport
set_option autoImplicit false

inductive ExecuteError where
  | http
  | store (status : Nat) (message : String)
  | decode (type : Csv.CellType) (cell : String)
  | noConnection (domain : String)
  | query (e : QueryError)

namespace ExecuteError

def message : ExecuteError → String
  | http => "HTTP error"
  | store status message => "Store error (" ++ toString status ++ "): " ++ message
  | decode type cell => "Decode error: invalid " ++ type.name ++ " cell: '" ++ cell ++ "'"
  | noConnection domain => "No connection configured for domain: " ++ domain
  | query e => "Query error: " ++ e.message

def ofDecode : Csv.DecodeError → ExecuteError
  | .badCell type cell => decode type cell
  | .reported message => store 200 message

end ExecuteError

structure Call where
  domain : String
  program : String
  tabular : Bool
  deriving DecidableEq

/-- A store: its answer to a call that is the `turn`-th of its domain. -/
abbrev Store := (turn : Nat) → Call → Except ExecuteError Answer

structure Output where
  strategy : QueryStrategy
  columns : List String
  data : List Row

structure Run (α : Type) where
  result : Except ExecuteError α
  calls : List Call

abbrev DomainOutput := SortedMap String Output

abbrev PlanOutput := SortedMap String DomainOutput

def callOf (domain : String) (q : NamedQuery) : Call :=
  ⟨domain, q.query.program.text, q.query.wantsFrame⟩

def outputOf (q : NamedQuery) (a : Answer) : Except ExecuteError Output :=
  match q.query.repack a with
  | .ok data => .ok ⟨q.query.strategy, q.query.columns, data⟩
  | .error e => .error (.query e)

/-- Runs compiled queries one after another and files their outputs by name. -/
def runQueries (store : Store) (domain : String) :
    (turn : Nat) → DomainOutput → List NamedQuery → Run DomainOutput
  | _, outputs, [] => ⟨.ok outputs, []⟩
  | turn, outputs, q :: qs =>
    let call := callOf domain q
    match (store turn call).bind (outputOf q) with
    | .error e => ⟨.error e, [call]⟩
    | .ok output =>
      let rest := runQueries store domain (turn + 1) (outputs.insert q.name output) qs
      ⟨rest.result, call :: rest.calls⟩

def compileAll (rs : List (Except QueryError NamedQuery)) : Except QueryError (List NamedQuery) :=
  rs.mapM id

namespace Plan

def executeDomain (p : Plan) (buckets : Buckets) (store : Store) (domain : String) :
    Run DomainOutput :=
  match compileAll (p.queries buckets domain) with
  | .error e => ⟨.error (.query e), []⟩
  | .ok qs => runQueries store domain 0 .empty qs

/-- Runs the domains of a list, each to its end before the next. -/
def executeDomains (p : Plan) (buckets : Buckets) (store : Store) :
    PlanOutput → List String → Run PlanOutput
  | outputs, [] => ⟨.ok outputs, []⟩
  | outputs, domain :: rest =>
    let run := p.executeDomain buckets store domain
    match run.result with
    | .error e => ⟨.error e, run.calls⟩
    | .ok output =>
      let others := executeDomains p buckets store (outputs.insert domain output) rest
      ⟨others.result, run.calls ++ others.calls⟩

def execute (p : Plan) (buckets : Buckets) (store : Store) : Run PlanOutput :=
  p.executeDomains buckets store .empty p.domains

end Plan

/-! ## Results as data -/

def Output.document (o : Output) : Document :=
  .record [("strategy", o.strategy.document), ("columns", .list (o.columns.map .text)),
    ("data", .list (o.data.map fun row => .list (row.map Cell.document)))]

def DomainOutput.document (o : DomainOutput) : Document :=
  .record (o.entries.map fun e => (e.1, e.2.document))

def PlanOutput.document (o : PlanOutput) : Document :=
  .record (o.entries.map fun e => (e.1, DomainOutput.document e.2))

end SeriesExport
