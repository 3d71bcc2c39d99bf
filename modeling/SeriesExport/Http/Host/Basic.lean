import SeriesExport.Http.Host.Domain
import SeriesExport.Http.Host.Dotted
import SeriesExport.Http.Host.Groups
import SeriesExport.Http.Percent

/-! The normal form of a host. Schemes that always have a host give it as a domain name or a number;
other schemes leave it mostly as it is. -/
namespace SeriesExport.Http.Host
open SeriesExport.Text
set_option autoImplicit false

def isForbidden (c : Char) : Bool :=
  c.toNat = 0 ||
    ['\t', '\n', '\r', ' ', '#', '/', ':', '<', '>', '?', '@', '[', '\\', ']', '^', '|'].contains c

/-- A domain name, or a number where the name ends in one. -/
def named? (cs : List Char) : Option String := do
  let name ← domain? (← percentDecode? (String.ofList cs))
  let parts := partsOf name
  if name.isEmpty then none
  else if endsInNumber parts then dotted? parts
  else some name

def normal? (special : Bool) (cs : List Char) : Option String :=
  match cs with
  | '[' :: inner =>
    if inner.getLast? = some ']' then
      (address? (String.ofList inner.dropLast)).map fun gs => "[" ++ groupsText gs ++ "]"
    else none
  | _ =>
    if special then named? cs
    else if cs.any isForbidden then none
    else some (percentEncode (isPlainBut []) (String.ofList cs))

end SeriesExport.Http.Host
