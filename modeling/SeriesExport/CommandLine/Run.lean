import SeriesExport.CommandLine.Command
import SeriesExport.Http.Exchange
import SeriesExport.Item.Reading
import SeriesExport.Settings.Reading

/-! What the commands do. All that they need to know of the world is given to them, and all that they
do to it is in the outcome. -/
namespace SeriesExport.CommandLine
set_option autoImplicit false

structure World where
  files : Files
  env : Environment
  now : Instant
  network : Http.Network

structure Report where
  exit : Nat := 0
  stdout : String := ""
  stderr : String := ""
  deriving DecidableEq

/-- A finished command, or one that comes down to writing a file. -/
inductive Outcome where
  | finished (r : Report)
  | write (path content : String) (written failed : Report)

inductive CommandError where
  | settings (e : SettingsError)
  | unreadable (path : String)
  | malformed (path : String)
  | unwritable (path : String)
  | itemSpan (name : String)
  | span (e : SpanError)
  | query (e : QueryError)
  | execute (e : ExecuteError)
  | badFilter (pair : String)

def CommandError.message : CommandError → String
  | settings e => e.message
  | unreadable path => "Failed to read " ++ path
  | malformed path => "Failed to parse " ++ path
  | unwritable path => "Failed to write " ++ path
  | itemSpan name => "Invalid time span for '" ++ name ++ "'"
  | span e => e.message
  | query e => e.message
  | execute e => e.message
  | badFilter pair => "Invalid filter '" ++ pair ++ "', expected key=value"

def failed (stdout : String) (e : CommandError) : Report :=
  ⟨1, stdout, "Error: " ++ e.message ++ "\n"⟩

def spanResult {α : Type} : Except SpanError α → Except CommandError α := Except.mapError .span

def queryResult {α : Type} : Except QueryError α → Except CommandError α := Except.mapError .query

/-! ## Settings and requests -/

def loadSettings (w : World) : Option String → Except CommandError Settings
  | some path => (Settings.loadWithEnvironment w.files w.env path).mapError .settings
  | none =>
    .ok (Settings.loadFirst w.files w.env (Settings.standardPaths (Settings.userDirectory? w.env)))

/-- Plans one request after another; all are resolved against the same moment. -/
def planRequests (now : Instant) (rs : List Request) : Except CommandError Plan :=
  rs.foldlM (fun p r => do
    match r.resolve now with
    | .error _ => throw (.itemSpan r.exportName)
    | .ok item => queryResult (p.add item)) Plan.empty

def loadPlan (w : World) (path : String) : Except CommandError Plan := do
  match w.files path with
  | .error _ => throw (.unreadable path)
  | .ok text =>
    match (Toml.document? text).bind (Document.requests? .toml) with
    | none => throw (.malformed path)
    | some rs => planRequests w.now rs

/-! ## Commands -/

def showQuery (domain : String) (q : NamedQuery) : String :=
  "// " ++ domain ++ " / " ++ q.name ++ " (" ++ q.query.strategy.document.compact ++ ")\n" ++
    q.query.program.text ++ "\n"

def showQueries (shown : String) : List (String × Except QueryError NamedQuery) → Report
  | [] => { stdout := shown }
  | (_, .error e) :: _ => failed shown (.query e)
  | (domain, .ok q) :: rest => showQueries (shown ++ showQuery domain q) rest

def compile (s : Settings) (p : Plan) : Report :=
  showQueries "" (p.domains.flatMap fun d => (p.queries s.bucket d).map fun q => (d, q))

/-- A store that answers whatever reaches it with nothing, and so fails only where no answer is
needed to fail. -/
def emptyStore (s : Settings) : Store := Http.store s.connection fun _ _ _ => some .empty

def watchedDomains : Nat := 30

/-- Runs all domains side by side. While all of them are watched, what fails without an answer fails
first; of more domains the results are taken in order. -/
def runPlan (w : World) (s : Settings) (p : Plan) : Except CommandError PlanOutput := do
  if p.domains.length ≤ watchedDomains then
    let _ ← (p.execute s.bucket (emptyStore s)).result.mapError .execute
  (p.execute s.bucket (Http.store s.connection w.network)).result.mapError .execute

/-- A filter is a key and a value around the first equals sign. -/
def readFilter (pair : String) : Except CommandError (String × String) :=
  let cs := pair.toList
  match cs.dropWhile (· != '=') with
  | [] => .error (.badFilter pair)
  | _ :: value =>
    .ok (String.ofList (Text.trim (cs.takeWhile (· != '='))), String.ofList (Text.trim value))

def recentSpan (now : Instant) (last : String) : Except CommandError Span :=
  spanResult do ({ width := some (← Duration.ofLiteral last) } : SpanSpec).resolve now

def tagsQuery (w : World) (s : Settings) (c : TagsCommand) : Except CommandError TagValuesQuery := do
  let draft ← queryResult (TagValuesDraft.start s.bucket c.domain c.measurement c.tag)
  let draft ← c.filters.foldlM (fun d pair => do
    let (key, value) ← readFilter pair
    return d.withFilter key value) draft
  let draft ← match c.last with
    | none => pure draft
    | some last => do pure (draft.withSpan (← recentSpan w.now last))
  queryResult draft.finish

def listValues (w : World) (s : Settings) (domain : String) (q : TagValuesQuery) :
    Except CommandError (List Cell) := do
  let call : Call := ⟨domain, q.program.text, true⟩
  let answer ← (Http.store s.connection w.network 0 call).mapError .execute
  return (← queryResult (q.repack answer)).flatten

def tags (w : World) (s : Settings) (c : TagsCommand) : Except CommandError String := do
  let q ← tagsQuery w s c
  if c.execute then
    let cells ← listValues w s c.domain q
    return (Document.list (cells.map Cell.document)).pretty 0 ++ "\n"
  else return q.program.text ++ "\n"

def ofResult : Except CommandError String → Report
  | .ok stdout => { stdout }
  | .error e => failed "" e

def config : Option String → Outcome
  | none => .finished { stdout := settingsTemplate }
  | some path =>
    .write path settingsTemplate { stderr := "Config written to " ++ path ++ "\n" }
      (failed "" (.unwritable path))

def runCommand (w : World) (settingsPath : Option String) : Command → Outcome
  | .config output => config output
  | .compile request => .finished <|
    match (do return (← loadSettings w settingsPath, ← loadPlan w request)) with
    | .error e => failed "" e
    | .ok (s, p) => compile s p
  | .run request => .finished <| ofResult do
    let s ← loadSettings w settingsPath
    let outputs ← runPlan w s (← loadPlan w request)
    return (PlanOutput.document outputs).pretty 0 ++ "\n"
  | .tags c => .finished <| ofResult do
    let s ← loadSettings w settingsPath
    tags w s c

def versionText : String := "fluxplan 0.1.0\n"

/-- Runs the program. Arguments that make no command end it with code 2. -/
def run (w : World) (args : List String) : Outcome :=
  match parse? args with
  | none => .finished { exit := 2 }
  | some .version => .finished { stdout := versionText }
  | some (.invocation i) => runCommand w i.settingsPath i.command

def pathsOf (env : Environment) (args : List String) : List String :=
  match parse? args with
  | some (.invocation i) =>
    let settings := match i.settingsPath with
      | some path => [path]
      | none => Settings.standardPaths (Settings.userDirectory? env)
    match i.command with
    | .compile request | .run request => settings ++ [request]
    | .tags _ => settings
    | .config _ => []
  | _ => []

/-- The variables that a command may look at, when its settings may come from some paths and one
variable lists domains. -/
def variablesOf (files : Files) (paths : List String) (listed : Option String) : List String :=
  let configured := paths.flatMap fun path =>
    match Settings.load files path with
    | .ok s => s.domains.keys
    | .error _ => []
  let domains := configured ++ Settings.listedNames (listed.getD "")
  Settings.directoryVariables ++ commonVariables ++
    domains.flatMap fun d => [bucketVariable d, tokenVariable d]

end SeriesExport.CommandLine
