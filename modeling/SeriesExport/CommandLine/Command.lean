import SeriesExport.CommandLine.Arguments

/-! The commands of the program. -/
namespace SeriesExport.CommandLine
set_option autoImplicit false

structure TagsCommand where
  domain : String
  measurement : String
  tag : String
  filters : List String
  last : Option String
  execute : Bool
  deriving DecidableEq

inductive Command where
  | compile (request : String)
  | run (request : String)
  | tags (c : TagsCommand)
  | config (output : Option String)
  deriving DecidableEq

/-- A command and the file that its settings come from, unless they are searched for. -/
structure Invocation where
  settingsPath : Option String
  command : Command
  deriving DecidableEq

inductive Parsed where
  | version
  | invocation (i : Invocation)
  deriving DecidableEq

def settingsOption : OptionForm := { name := "config", letter := some 'c', mayBeEmpty := false }

def versionOption : OptionForm :=
  { name := "version", letter := some 'V', takesValue := false, isFinal := true }

def topGrammar : Grammar where
  options := [settingsOption, versionOption]
  hasCommands := true

def requestGrammar : Grammar := { options := [settingsOption], words := 1 }

def tagsGrammar : Grammar where
  options := [settingsOption, { name := "domain" }, { name := "measurement" }, { name := "tag" },
    { name := "filter", letter := some 'f', repeatable := true },
    { name := "last", letter := some 'l' }, { name := "execute", takesValue := false }]

def configGrammar : Grammar where
  options := [settingsOption, { name := "output", letter := some 'o', mayBeEmpty := false }]

def read (grammar : Grammar) (args : List String) : Option Given :=
  readArguments grammar {} args

def tagsCommand? (g : Given) : Option TagsCommand := do
  return {
    domain := ← g.value? "domain", measurement := ← g.value? "measurement", tag := ← g.value? "tag"
    filters := g.values "filter", last := g.value? "last", execute := g.has "execute" }

def command? (name : String) (args : List String) : Option (Given × Command) :=
  match name with
  | "compile" => do
    let g ← read requestGrammar args
    return (g, .compile (← g.words.head?))
  | "run" => do
    let g ← read requestGrammar args
    return (g, .run (← g.words.head?))
  | "tags" => do
    let g ← read tagsGrammar args
    return (g, .tags (← tagsCommand? g))
  | "config" => do
    let g ← read configGrammar args
    return (g, .config (g.value? "output"))
  | _ => none

/-- Reads all arguments. A settings file that is named after the command takes precedence over one
that is named before. -/
def parse? (args : List String) : Option Parsed := do
  let top ← read topGrammar args
  if top.ended then return .version
  match top.command with
  | [] => none
  | name :: rest => do
    let (given, command) ← command? name rest
    return .invocation ⟨given.value? "config" <|> top.value? "config", command⟩

end SeriesExport.CommandLine
