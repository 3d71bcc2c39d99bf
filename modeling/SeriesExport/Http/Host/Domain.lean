import SeriesExport.Http.Host.Joining
import SeriesExport.Http.Host.Mapping
import SeriesExport.Text.Punycode

/-! Domain names and their form in ASCII. A name is mapped and composed; then each label that has
characters beyond ASCII is spelled in ASCII behind `xn--`, and each label that is spelled so already
has to stand for one that could have been written. -/
namespace SeriesExport.Http.Host
open SeriesExport.Text
set_option autoImplicit false

/-! ## Labels -/

def spelledMark : List Char := ['x', 'n', '-', '-']

/-- The longest label that is spelled, and the longest spelling that is read. -/
def longestSpelled : Nat := 1000
def longestSpelling : Nat := 2000

structure Label where
  meant : List Char
  sent : List Char
  deriving DecidableEq

/-- Whether a label beyond ASCII may stand in a name: no mark begins it, and its joiners fit. -/
def isSound (cs : List Char) : Bool := !(cs.head?.map isMark).getD false && joinersFit [] cs

/-- Whether the mapping and the composed form leave a text as it is. -/
def isSettled (cs : List Char) : Bool := cs.all isKept && composed cs == cs

def label? (cs : List Char) : Option Label :=
  if spelledMark.isPrefixOf cs then do
    let spelling := cs.drop spelledMark.length
    if longestSpelling < spelling.length then none
    else
      let meant ← Punycode.decode? spelling
      if meant.all Punycode.isAscii || spelledMark.isPrefixOf meant then none
      else if isSettled meant && isSound meant then some ⟨meant, cs⟩
      else none
  else if cs.all Punycode.isAscii then some ⟨cs, cs⟩
  else if isSound cs && cs.length ≤ longestSpelled then
    some ⟨cs, spelledMark ++ Punycode.encode cs⟩
  else none

/-! ## Names -/

def isForbiddenInDomain (c : Char) : Bool :=
  c.toNat ≤ 32 || c == '\x7f' ||
    ['#', '%', '/', ':', '<', '>', '?', '@', '[', '\\', ']', '^', '|'].contains c

def splitLabels : List Char → List (List Char)
  | [] => [[]]
  | c :: cs =>
    if c = '.' then [] :: splitLabels cs
    else
      match splitLabels cs with
      | label :: rest => (c :: label) :: rest
      | [] => [[c]]

/-- Whether all labels of a name can be shown in one order only. -/
def areOrdered (labels : List Label) : Bool :=
  !labels.any (fun l => hasRightToLeft l.meant) ||
    labels.all fun l => isOrdered (l.meant.map direction)

def domain? (name : String) : Option String := do
  let mapped := composed (← name.toList.mapM mapped?).flatten
  if mapped.any isForbiddenInDomain then none
  else
    let labels ← (splitLabels mapped).mapM label?
    if areOrdered labels then some (".".intercalate (labels.map fun l => String.ofList l.sent))
    else none

end SeriesExport.Http.Host
