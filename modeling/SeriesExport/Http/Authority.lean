import SeriesExport.Http.Host.Basic

/-! Authorities of addresses: a user name and password, a host and a port. User names and passwords
are taken out of an address and sent on their own, unless they cannot be read. -/
namespace SeriesExport.Http.Authority
set_option autoImplicit false

/-! ## Users -/

/-- What follows the last `@`, and what stands before it, if there is one. -/
def cutUser (cs : List Char) : Option (List Char) × List Char :=
  let rest := (cs.reverse.takeWhile (· != '@')).reverse
  if rest.length = cs.length then (none, cs)
  else (some (cs.take (cs.length - rest.length - 1)), rest)

def plainInUser : Char → Bool :=
  isPlainBut [' ', '"', '#', '<', '>', '?', '\x60', '\x7b', '\x7d', '/', ':', ';', '=', '@', '[',
    '\\', ']', '^', '|']

/-- What an address keeps of a user: nothing if the name can be read, or, where there is none, the
password. -/
def keptUser (cs : List Char) : String :=
  let encode (cs : List Char) : String := percentEncode plainInUser (String.ofList cs)
  let name := encode (cs.takeWhile (· != ':'))
  let password := encode ((cs.dropWhile (· != ':')).drop 1)
  let isNamed := (percentDecode? name).isSome && !name.isEmpty
  if isNamed || (name.isEmpty && (percentDecode? password).isSome) then ""
  else name ++ (if password.isEmpty then "" else ":" ++ password) ++ "@"

/-! ## Hosts and ports -/

/-- Cuts a host from its port at the first colon outside brackets. -/
def cutPort : (inBrackets : Bool) → List Char → List Char × Option (List Char)
  | _, [] => ([], none)
  | inBrackets, c :: cs =>
    if c = ':' ∧ !inBrackets then ([], some cs)
    else
      let inBrackets := if c = '[' then true else if c = ']' then false else inBrackets
      let (host, port) := cutPort inBrackets cs
      (c :: host, port)

/-- A port with its colon, empty where it is the usual one. -/
def port? (usual : Option Nat) (digits : List Char) : Option String :=
  let n := Nat.ofDigitChars 10 digits 0
  if 65535 < n then none
  else if digits = [] ∨ usual = some n then some ""
  else some (":" ++ toString n)

/-- The normal form of an authority, and what is left behind its port. Schemes that always have a
host take it as a domain name. Others can do without one, when nobody is named and no port is given,
and may have a path right behind the port that begins with a backslash. -/
def read? (special : Bool) (usual : Option Nat) (cs : List Char) : Option (String × List Char) := do
  let (user, cs) := cutUser cs
  let (host, port) := cutPort false cs
  let digits := (port.getD []).takeWhile Char.isDigit
  let rest := (port.getD []).dropWhile Char.isDigit
  if host = [] ∧ (special ∨ port.isSome ∨ (user ≠ none ∧ user ≠ some [':'])) then none
  else if rest ≠ [] ∧ (special ∨ rest.head? ≠ some '\\') then none
  else return (keptUser (user.getD []) ++ (← Host.normal? special host) ++ (← port? usual digits), rest)

end SeriesExport.Http.Authority
