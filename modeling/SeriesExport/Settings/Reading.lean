import SeriesExport.Settings.Environment
import SeriesExport.Toml.Reading

/-! Settings from files. Fields that are not known are passed over; a record may also be given as the
list of its fields in order. -/
namespace SeriesExport
set_option autoImplicit false

namespace Document

/-- The named fields of a record that may have others. A moment is a record that has none of them. -/
def knownFields? (names : List String) : Document → Option (List (Option Document))
  | record es => some (names.map fun n => (record es).get? n)
  | moment _ => some (names.map fun _ => none)
  | list ds => some ((ds.map some ++ List.replicate names.length none).take names.length)
  | _ => none

/-- A field within bounds that has a default. -/
def naturalField? (bound default : Nat) : Option Document → Option Nat
  | none => some default
  | some d => do
    let n ← d.integer?
    if 0 ≤ n ∧ n < bound then some n.toNat else none

def textField? (default : String) : Option Document → Option String
  | none => some default
  | some d => d.text?

def storeSettings? (d : Document) : Option StoreSettings := do
  let standard : StoreSettings := {}
  match ← d.knownFields? ["host", "port", "org", "request_timeout_secs"] with
  | [host, port, org, timeout] =>
    return {
      host := ← textField? standard.host host
      port := UInt16.ofNat (← naturalField? 65536 standard.port.toNat port)
      org := ← textField? standard.org org
      requestTimeout :=
        UInt64.ofNat (← naturalField? 9223372036854775808 standard.requestTimeout.toNat timeout) }
  | _ => none

def domainSettings? (d : Document) : Option DomainSettings := do
  match d, ← d.knownFields? ["bucket", "token"] with
  | list [], _ => none
  | _, [bucket, token] =>
    let bucket ← match bucket with
      | none => some none
      | some b => b.text?.map some
    return { bucket, token := ← textField? "" token }
  | _, _ => none

def logSettings? (d : Document) : Option LogSettings := do
  let standard : LogSettings := {}
  match ← d.knownFields? ["level", "format"] with
  | [level, format] =>
    return { level := ← textField? standard.level level
             format := ← textField? standard.format format }
  | _ => none

def domainMap? (d : Document) : Option (SortedMap String DomainSettings) := do
  return SortedMap.ofList
    (← (← d.record?).mapM fun e => e.2.domainSettings?.map fun s => (e.1, s))

def settings? (d : Document) : Option Settings := do
  match ← d.knownFields? ["store", "domains", "logging"] with
  | [store, domains, logging] =>
    return {
      store := ← (store.map storeSettings?).getD (some {})
      domains := ← (domains.map domainMap?).getD (some .empty)
      logging := ← (logging.map logSettings?).getD (some {}) }
  | _ => none

end Document

/-! ## Files -/

inductive FileError where
  | notFound | isDirectory | notDirectory | nameTooLong
  | other (message : String)
  deriving DecidableEq

def FileError.message : FileError → String
  | notFound => "No such file or directory (os error 2)"
  | isDirectory => "Is a directory (os error 21)"
  | notDirectory => "Not a directory (os error 20)"
  | nameTooLong => "File name too long (os error 36)"
  | other message => message

abbrev Files := String → Except FileError String

inductive SettingsError where
  | unreadable (path : String) (e : FileError)
  | malformed (path : String)

def SettingsError.message : SettingsError → String
  | unreadable path e =>
    "Failed to read config file " ++ Text.inspect path ++ ": " ++ e.message
  | malformed path => "Failed to parse config file " ++ Text.inspect path

namespace Settings

def ofText? (text : String) : Option Settings := (Toml.document? text).bind Document.settings?

def ofFile (path : String) : Except FileError String → Except SettingsError Settings
  | .error e => .error (.unreadable path e)
  | .ok text =>
    match ofText? text with
    | some s => .ok s
    | none => .error (.malformed path)

def load (files : Files) (path : String) : Except SettingsError Settings := ofFile path (files path)

def loadWithEnvironment (files : Files) (env : Environment) (path : String) :
    Except SettingsError Settings :=
  (load files path).map (override env)

/-- The variables that tell where a user's settings are. -/
def directoryVariables : List String := ["XDG_CONFIG_HOME", "HOME"]

def userDirectory? (env : Environment) : Option String :=
  match env "XDG_CONFIG_HOME" with
  | some dir => if dir.startsWith "/" then some dir else home?
  | none => home?
where
  home? : Option String := (env "HOME").bind fun h => if h.isEmpty then none else some (h ++ "/.config")

/-- The places of settings, in the order in which they are tried. -/
def standardPaths (userDirectory? : Option String) : List String :=
  (userDirectory?.map (· ++ "/fluxplan/config.toml")).toList ++
    ["/etc/fluxplan/config.toml", "./config.toml"]

/-- Settings from the first of some places that has well-formed ones, or from variables alone. -/
def loadFirst (files : Files) (env : Environment) : List String → Settings
  | [] => ofEnvironment env
  | path :: paths =>
    match loadWithEnvironment files env path with
    | .ok s => s
    | .error _ => loadFirst files env paths

end Settings

def settingsTemplate : String :=
"# fluxplan Configuration
#
# Environment variables override these settings:
# - FLUXPLAN_STORE_HOST
# - FLUXPLAN_STORE_PORT
# - FLUXPLAN_STORE_ORG
# - FLUXPLAN_<DOMAIN>_BUCKET
# - FLUXPLAN_<DOMAIN>_TOKEN
# - FLUXPLAN_LOG_LEVEL
# - FLUXPLAN_LOG_FORMAT

[store]
# InfluxDB server host
host = \"localhost\"

# InfluxDB server port
port = 8086

# Organization used for every connection
org = \"tendril\"

# Request timeout in seconds
request_timeout_secs = 30

# One table per domain. The bucket defaults to the domain name.
[domains.monitors]
bucket = \"monitors\"
token = \"\"

[logging]
# Log level: trace, debug, info, warn, error
level = \"info\"

# Log format: pretty (for development) or json (for production)
format = \"pretty\"
"

end SeriesExport
