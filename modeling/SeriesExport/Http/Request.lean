import SeriesExport.Http.Url
import SeriesExport.Settings.Basic

/-! Queries as requests to a store, and which requests cannot be sent at all. -/
namespace SeriesExport.Http
set_option autoImplicit false

def queryAddress (c : Connection) : String :=
  let base := String.ofList (c.url.toList.reverse.dropWhile (· == '/')).reverse
  base ++ "/api/v2/query?org=" ++ percentEncode isUnreserved c.org

/-- Whether a header may hold a text: it has no controls but tabs. -/
def fitsHeader (s : String) : Bool :=
  s.toList.all fun c => c == '\t' || (32 ≤ c.toNat && c.toNat != 127)

inductive Refusal where
  | badAddress
  | badToken
  /-- The address has a scheme or a form that requests cannot use. -/
  | unsupported (url : Url)
  deriving DecidableEq

/-- Characters that an authority may have but a request may not name. -/
def unnameable : List Char := ['"', '\x60', '\x7b', '\x7d']

def longestAddress : Nat := 65534

def canCarry (u : Url) : Bool :=
  (u.scheme == "http" || u.scheme == "https") && u.text.utf8ByteSize ≤ longestAddress &&
    !(u.authority.getD "").toList.any unnameable.contains

def refusal? (c : Connection) : Option Refusal :=
  match Url.parse? (queryAddress c) with
  | none => some .badAddress
  | some url =>
    if (url.authority.getD "").isEmpty then some (.unsupported url)
    else if !fitsHeader c.token then some .badToken
    else if canCarry url then none
    else some (.unsupported url)

def Refusal.url? : Refusal → Option String
  | unsupported url => some url.text
  | _ => none

end SeriesExport.Http
