import SeriesExport.Execution
import SeriesExport.Http.Request

/-! Exchanges with a store: what is sent to it for a program, and what is made of its reply. -/
namespace SeriesExport.Http
set_option autoImplicit false

/-! ## What is sent -/

/-- The annotations by which the cells of an answer are read. -/
def askedAnnotations : List String := ["datatype", "group", "default"]

def queryBody (program : String) : Document :=
  .record [("query", .text program), ("type", .text "flux"),
    ("dialect", .record [("annotations", .list (askedAnnotations.map .text))])]

structure Post where
  address : String
  authorization : String
  accept : String
  body : Document

def post (c : Connection) (program : String) : Post where
  address := queryAddress c
  authorization := "Token " ++ c.token
  accept := "application/csv"
  body := queryBody program

/-! ## What comes back -/

structure Reply where
  status : Nat
  body : String
  deriving DecidableEq

namespace Reply

def isSuccess (r : Reply) : Bool := 200 ≤ r.status && r.status < 300

/-- The tables of a reply. Without success it is an error of the store, in the words of its body. -/
def tables (r : Reply) : Except ExecuteError (List Table) :=
  if r.isSuccess then (Csv.decode r.body).mapError .ofDecode else .error (.store r.status r.body)

/-- A reply that has no tables. -/
def empty : Reply := ⟨200, ""⟩

end Reply

/-- A network: the reply to a domain's request in its turn, if one comes back and can be read. -/
abbrev Network := (domain : String) → (turn : Nat) → Post → Option Reply

/-- A store that is reached through connections. What is refused is not sent. -/
def store (connections : String → Option Connection) (network : Network) : Store := fun turn call =>
  match connections call.domain with
  | none => .error (.noConnection call.domain)
  | some c =>
    match refusal? c with
    | some _ => .error .http
    | none =>
      match network call.domain turn (post c call.program) with
      | none => .error .http
      | some r => r.tables.map fun ts => .ofTables ts call.tabular

end SeriesExport.Http
