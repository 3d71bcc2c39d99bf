import SeriesExport.Toml.Scalar
import SeriesExport.Toml.Tree

/-! Reading a TOML text as a piece of data. -/
namespace SeriesExport.Toml
set_option autoImplicit false

/-! ## Values -/

/-- Skips blanks, line ends and comments between the items of an array. The fuel bounds the number of
lines. -/
def skipLines : (fuel : Nat) → List Char → Option (List Char)
  | 0, cs => some cs
  | fuel + 1, cs =>
    let cs := skipGap cs
    match lineEnd? cs with
    | some rest => skipLines fuel rest
    | none =>
      match cs with
      | '#' :: _ =>
        match lineEnd? (skipComment cs) with
        | some rest => skipLines fuel rest
        | none => none
      | _ => some cs

def skipSpace (cs : List Char) : Option (List Char) := skipLines (cs.length + 1) cs

mutual

/-- A value of any kind. Each step takes one unit of fuel; `depth` bounds the nesting. -/
def value? : (fuel depth : Nat) → Reader Document
  | 0, _, _ => none
  | fuel + 1, depth, cs =>
    match cs with
    | '[' :: cs =>
      match depth with
      | 0 => none
      | depth + 1 => do
        let (ds, rest) ← items? fuel depth (← skipSpace cs)
        return (.list ds, rest)
    | '\x7b' :: cs =>
      match depth with
      | 0 => none
      | depth + 1 => do
        let (pairs, rest) ← pairs? fuel depth true (skipGap cs)
        return (← inlineRecord pairs, rest)
    | cs => scalar? cs

/-- The items of an array up to its closing bracket; a comma may follow the last one. -/
def items? : (fuel depth : Nat) → Reader (List Document)
  | 0, _, _ => none
  | fuel + 1, depth, cs =>
    match cs with
    | ']' :: rest => some ([], rest)
    | cs => do
      let (d, cs) ← value? fuel depth cs
      match ← skipSpace cs with
      | ',' :: cs => do
        let (ds, rest) ← items? fuel depth (← skipSpace cs)
        return (d :: ds, rest)
      | ']' :: rest => return ([d], rest)
      | _ => none

/-- The entries of a record on one line up to its closing brace, which must not follow a comma. -/
def pairs? : (fuel depth : Nat) → (first : Bool) → Reader (List (List String × Document))
  | 0, _, _, _ => none
  | fuel + 1, depth, first, cs =>
    match cs, first with
    | '\x7d' :: rest, true => some ([], rest)
    | cs, _ => do
      let (path, cs) ← path? cs
      let cs ← mark? '=' cs
      let (d, cs) ← value? fuel depth (skipGap cs)
      match skipGap cs with
      | ',' :: cs => do
        let (ps, rest) ← pairs? fuel depth false (skipGap cs)
        return ((path, d) :: ps, rest)
      | '\x7d' :: rest => return ([(path, d)], rest)
      | _ => none

end

/-! ## Lines -/

/-- The tables read so far, and the heading under which entries go. -/
structure State where
  root : Entries := []
  heading : List String := []

def split? (path : List String) : Option (List String × String) :=
  path.getLast?.map fun key => (path.dropLast, key)

namespace State

def openTable (s : State) (path : List String) : Option State := do
  let (parents, key) ← split? path
  return ⟨← s.root.within (Entries.open? key) parents, path⟩

def openNextTable (s : State) (path : List String) : Option State := do
  let (parents, key) ← split? path
  return ⟨← s.root.within (Entries.openNext? key) parents, path⟩

def addEntry (s : State) (path : List String) (d : Document) : Option State := do
  let (parents, key) ← split? path
  return { s with root := ← s.root.within (Entries.addDotted d key true parents) s.heading }

end State

/-- A heading in one pair of brackets, or in two. -/
def heading? (s : State) : List Char → Option (State × List Char)
  | '[' :: '[' :: cs => do
    let (path, cs) ← path? cs
    return (← s.openNextTable path, ← mark? ']' (← mark? ']' cs))
  | '[' :: cs => do
    let (path, cs) ← path? cs
    return (← s.openTable path, ← mark? ']' cs)
  | _ => none

def entry? (s : State) (cs : List Char) : Option (State × List Char) := do
  let (path, cs) ← path? cs
  let cs ← mark? '=' cs
  let (d, cs) ← value? (2 * cs.length + 2) maxDepth (skipGap cs)
  return (← s.addEntry path d, cs)

/-- Reads line after line; the fuel bounds their number. -/
def lines? : (fuel : Nat) → State → List Char → Option State
  | 0, _, _ => none
  | fuel + 1, s, cs =>
    match skipGap cs with
    | [] => some s
    | '[' :: cs => do
      let (s, cs) ← heading? s ('[' :: cs)
      lines? fuel s (← endOfLine? cs)
    | cs =>
      match endOfLine? cs with
      | some rest => lines? fuel s rest
      | none => do
        let (s, cs) ← entry? s cs
        lines? fuel s (← endOfLine? cs)

def dropByteOrderMark : List Char → List Char
  | '\ufeff' :: cs => cs
  | cs => cs

def document? (text : String) : Option Document := do
  let cs := dropByteOrderMark text.toList
  let s ← lines? (cs.length + 1) {} cs
  return .record (entryDocuments s.root)

end SeriesExport.Toml
