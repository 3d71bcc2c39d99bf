import SeriesExport.Http.Authority
import SeriesExport.Http.Path

/-! Absolute addresses and their normal form. An address has a scheme and either an opaque rest or an
authority and a path; it may have a query and a fragment. -/
namespace SeriesExport.Http
set_option autoImplicit false

structure Url where
  scheme : String
  authority : Option String
  path : String
  query : Option String
  fragment : Option String
  deriving DecidableEq

namespace Url

def text (u : Url) : String :=
  u.scheme ++ ":" ++ (match u.authority with
    | some a => "//" ++ a
    | none => "") ++ u.path ++
    (match u.query with
    | some q => "?" ++ q
    | none => "") ++
    (match u.fragment with
    | some f => "#" ++ f
    | none => "")

/-! ## Schemes -/

/-- The usual ports of schemes that always have a host. -/
def usualPort? (scheme : String) : Option Nat :=
  if scheme = "http" ∨ scheme = "ws" then some 80
  else if scheme = "https" ∨ scheme = "wss" then some 443
  else if scheme = "ftp" then some 21
  else none

def isFile (scheme : String) : Bool := scheme == "file"

/-- Schemes whose hosts are domain names and whose paths take backslashes for slashes. -/
def isSpecial (scheme : String) : Bool := (usualPort? scheme).isSome || isFile scheme

def isSchemeChar (c : Char) : Bool := c.isAlphanum || c == '+' || c == '-' || c == '.'

/-- The scheme in small letters and what follows its colon. -/
def scheme? (cs : List Char) : Option (String × List Char) :=
  match cs.takeWhile isSchemeChar, cs.dropWhile isSchemeChar with
  | c :: name, ':' :: rest =>
    if c.isAlpha then some (String.ofList ((c :: name).map Char.toLower), rest) else none
  | _, _ => none

/-! ## Authority and path -/

def isSlash (special : Bool) (c : Char) : Bool := c == '/' || (special && c == '\\')

def dropSlash (special : Bool) : List Char → List Char
  | [] => []
  | c :: cs => if isSlash special c then cs else c :: cs

def cutSlash (special : Bool) (cs : List Char) : List Char × List Char :=
  (cs.takeWhile fun c => !isSlash special c, cs.dropWhile fun c => !isSlash special c)

def withAuthority? (scheme : String) (cs : List Char) : Option (Option String × String) := do
  let special := isSpecial scheme
  let (front, path) := cutSlash special cs
  let (authority, rest) ← Authority.read? special (usualPort? scheme) front
  let path := rest ++ path
  if path = [] ∧ !special then return (some authority, "")
  else return (some authority, (Path.walk false (isSlash special) (dropSlash special path)).text)

/-- Authority and path of a file. A file on a drive has no host, nor has one on this machine. -/
def filePlace? (cs : List Char) : Option (Option String × String) :=
  let path (cs : List Char) : Path.Walk := Path.walk true (isSlash true) cs
  match cs with
  | c :: d :: rest =>
    if isSlash true c && isSlash true d then
      let (host, after) := cutSlash true rest
      if Path.isDrive host then some (some "", (path rest).fileText)
      else do
        let host ← if host = [] then some "" else Host.normal? true host
        let walk := path (dropSlash true after)
        return (some (if host = "localhost" || walk.onDrive then "" else host), walk.fileText)
    else some (some "", (path (dropSlash true cs)).fileText)
  | _ => some (some "", (path (dropSlash true cs)).fileText)

/-- Authority and path of what follows a scheme. A path without an authority may not begin with two
slashes. -/
def hierarchy? (scheme : String) (cs : List Char) : Option (Option String × String) :=
  if isFile scheme then filePlace? cs
  else if isSpecial scheme then withAuthority? scheme (cs.dropWhile (isSlash true))
  else
    match cs with
    | '/' :: '/' :: rest => withAuthority? scheme rest
    | '/' :: rest =>
      let path := (Path.walk false (isSlash false) rest).text
      some (none, if path.startsWith "//" then "/." ++ path else path)
    | _ => some (none, percentEncode (isPlainBut []) (String.ofList cs))

/-! ## Query and fragment -/

def plainInQuery (special : Bool) : Char → Bool :=
  isPlainBut ([' ', '"', '#', '<', '>'] ++ if special then ['\''] else [])

def plainInFragment : Char → Bool := isPlainBut [' ', '"', '<', '>', '\x60']

def cutAt (p : Char → Bool) (cs : List Char) : List Char × Option (List Char) :=
  match cs.dropWhile fun c => !p c with
  | [] => (cs, none)
  | _ :: rest => (cs.takeWhile fun c => !p c, some rest)

/-! ## Addresses -/

/-- Blanks and controls around an address do not count, nor do tabs and line ends inside. -/
def clean (s : String) : List Char :=
  let isEdge (c : Char) : Bool := c.toNat ≤ 32
  let cs := (s.toList.dropWhile isEdge).reverse.dropWhile isEdge
  cs.reverse.filter fun c => !(['\t', '\n', '\r'].contains c)

def parse? (s : String) : Option Url := do
  let (scheme, cs) ← scheme? (clean s)
  let (cs, fragment) := cutAt (· == '#') cs
  let (cs, query) := cutAt (· == '?') cs
  let (authority, path) ← hierarchy? scheme cs
  return {
    scheme, authority, path
    query := query.map fun q => percentEncode (plainInQuery (isSpecial scheme)) (String.ofList q)
    fragment := fragment.map fun f => percentEncode plainInFragment (String.ofList f) }

end Url
end SeriesExport.Http
