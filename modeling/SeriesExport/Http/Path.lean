import SeriesExport.Http.Percent

/-! Paths of addresses in their normal form: encoded, and without segments that stand for the same or
the parent directory. A segment made of a letter and a colon or bar is a drive and is its own parent.
Paths of files may begin with a drive, which then gets its colon, and drop empty segments in front. -/
namespace SeriesExport.Http.Path
set_option autoImplicit false

/-! ## Segments -/

def segments (isSlash : Char → Bool) : List Char → List (List Char)
  | [] => [[]]
  | c :: cs =>
    if isSlash c then [] :: segments isSlash cs
    else
      match segments isSlash cs with
      | s :: rest => (c :: s) :: rest
      | [] => [[c]]

def dotForms : List String := [".", "%2e"]

def doubleDotForms : List String := ["..", ".%2e", "%2e.", "%2e%2e"]

def isDot (s : String) : Bool := dotForms.contains s.toLower

def isDoubleDot (s : String) : Bool := doubleDotForms.contains s.toLower

def isDrive (cs : List Char) : Bool :=
  match cs with
  | [c, d] => c.isAlpha && (d == ':' || d == '|')
  | _ => false

def plain : Char → Bool := isPlainBut [' ', '"', '#', '<', '>', '?', '\x60', '\x7b', '\x7d']

/-! ## Walking -/

/-- A walk down the segments of a path: what is kept so far, in reverse, and whether the path is on a
drive. -/
structure Walk where
  done : List String
  onDrive : Bool
  deriving DecidableEq

def Walk.enter (w : Walk) (s : String) : Walk := { w with done := s :: w.done }

/-- Enters the first segment of a file's path, where a drive gets its colon. -/
def Walk.enterFirst (w : Walk) (s : String) : Walk :=
  if isDrive s.toList then { w.enter (String.ofList (s.toList.take 1) ++ ":") with onDrive := true }
  else w.enter s

def Walk.toParent (w : Walk) : Walk :=
  if w.done.head?.any fun s => isDrive s.toList then w else { w with done := w.done.tail }

def Walk.step (isFile : Bool) (w : Walk) (s : String) : Walk :=
  if isDoubleDot s then w.toParent
  else if isDot s then w
  else if isFile && w.done.isEmpty then w.enterFirst s
  else w.enter s

/-- A path that ends in a segment of dots ends in a slash. -/
def closeDots (ss : List String) : List String :=
  if ss.getLast?.any fun s => isDot s || isDoubleDot s then ss ++ [""] else ss

def walk (isFile : Bool) (isSlash : Char → Bool) (cs : List Char) : Walk :=
  let ss := (segments isSlash cs).map fun s => percentEncode plain (String.ofList s)
  (closeDots ss).foldl (Walk.step isFile) ⟨[], false⟩

def textOf (ss : List String) : String := String.join (ss.map ("/" ++ ·))

def Walk.text (w : Walk) : String := textOf w.done.reverse

/-- The path of a file, without empty segments in front. -/
def Walk.fileText (w : Walk) : String :=
  match w.done.reverse.dropWhile String.isEmpty with
  | [] => "/"
  | ss => textOf ss

end SeriesExport.Http.Path
