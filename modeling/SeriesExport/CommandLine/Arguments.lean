/-! Arguments of a command: options by their long name or their letter, with a value or without, and
plain words. -/
namespace SeriesExport.CommandLine
set_option autoImplicit false

structure OptionForm where
  name : String
  letter : Option Char := none
  takesValue : Bool := true
  repeatable : Bool := false
  /-- Whether its value may be empty. -/
  mayBeEmpty : Bool := true
  /-- Whether nothing after it is read. -/
  isFinal : Bool := false
  deriving DecidableEq

structure Grammar where
  options : List OptionForm
  /-- How many plain words there may be. -/
  words : Nat := 0
  /-- Whether a plain word names a command of its own, which takes all that follows. -/
  hasCommands : Bool := false

/-- What was given: options with their values, in order, and plain words. -/
structure Given where
  options : List (String × String) := []
  words : List String := []
  /-- The arguments from the name of a command on. -/
  command : List String := []
  /-- Whether a final option was given. -/
  ended : Bool := false

namespace Given

def value? (g : Given) (name : String) : Option String := g.options.lookup name

def values (g : Given) (name : String) : List String :=
  (g.options.filter fun o => o.1 == name).map Prod.snd

def has (g : Given) (name : String) : Bool := (g.value? name).isSome

/-- Takes up an option, unless it may not be repeated or needs a longer value. -/
def addOption (g : Given) (o : OptionForm) (value : String) : Option Given :=
  if (g.has o.name && !o.repeatable) || (o.takesValue && value.isEmpty && !o.mayBeEmpty) then none
  else some { g with options := g.options ++ [(o.name, value)], ended := o.isFinal }

def addWord (g : Given) (grammar : Grammar) (word : String) : Option Given :=
  if word.isEmpty || grammar.words ≤ g.words.length then none
  else some { g with words := g.words ++ [word] }

end Given

/-- What is still open while arguments are read: an option that waits for its value, and whether only
plain words follow. -/
structure Progress where
  given : Given := {}
  waiting : Option OptionForm := none
  wordsOnly : Bool := false

def cutAtEquals (cs : List Char) : String × Option String :=
  let name := String.ofList (cs.takeWhile (· != '='))
  match cs.dropWhile (· != '=') with
  | [] => (name, none)
  | _ :: value => (name, some (String.ofList value))

/-- An option by its long name, perhaps with its value after an equals sign. -/
def readLong (grammar : Grammar) (p : Progress) (cs : List Char) : Option Progress := do
  let (name, value?) := cutAtEquals cs
  let o ← grammar.options.find? fun o => o.name == name
  match o.takesValue, value? with
  | true, some value => return { p with given := ← p.given.addOption o value }
  | true, none => return { p with waiting := some o }
  | false, some _ => none
  | false, none => return { p with given := ← p.given.addOption o "" }

/-- Options by their letters. The first that takes a value has the rest of the argument, less an
equals sign, or the next argument. -/
def readLetters (grammar : Grammar) (p : Progress) : List Char → Option Progress
  | [] => some p
  | c :: cs => do
    let o ← grammar.options.find? fun o => o.letter == some c
    if o.takesValue then
      match cs with
      | [] => return { p with waiting := some o }
      | '=' :: value => return { p with given := ← p.given.addOption o (String.ofList value) }
      | value => return { p with given := ← p.given.addOption o (String.ofList value) }
    else do
      let given ← p.given.addOption o ""
      if given.ended then return { p with given } else readLetters grammar { p with given } cs

def readOption (grammar : Grammar) (p : Progress) (cs : List Char) : Option Progress :=
  match p.waiting with
  | some _ => none
  | none =>
    match cs with
    | ['-', '-'] => some { p with wordsOnly := true }
    | '-' :: '-' :: name => readLong grammar p name
    | _ => readLetters grammar p (cs.drop 1)

/-- Whether an argument starts like an option. A dash alone is a word. -/
def looksLikeOption : List Char → Bool
  | '-' :: _ :: _ => true
  | _ => false

/-- Reads arguments up to the name of a command, a final option or the end. -/
def readArguments (grammar : Grammar) : Progress → List String → Option Given
  | p, [] => if p.waiting.isSome then none else some p.given
  | p, a :: rest =>
    if looksLikeOption a.toList && !p.wordsOnly then do
      let p ← readOption grammar p a.toList
      if p.given.ended then some p.given else readArguments grammar p rest
    else
      match p.waiting with
      | some o => do
        let given ← p.given.addOption o a
        readArguments grammar { p with given, waiting := none } rest
      | none =>
        if grammar.hasCommands then
          if p.wordsOnly then none else some { p.given with command := a :: rest }
        else do
          let given ← p.given.addWord grammar a
          readArguments grammar { p with given } rest

end SeriesExport.CommandLine
