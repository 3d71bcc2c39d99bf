import SeriesExport.Query.Error
import SeriesExport.Text.Inspected

/-! Settings: where the store is, which bucket holds each domain, and how to log. -/
namespace SeriesExport
open Text
set_option autoImplicit false

structure StoreSettings where
  host : String := "localhost"
  port : UInt16 := 8086
  org : String := "tendril"
  requestTimeout : UInt64 := 30
  deriving DecidableEq

def StoreSettings.url (s : StoreSettings) : String :=
  "http://" ++ s.host ++ ":" ++ toString s.port.toNat

structure DomainSettings where
  /-- The bucket, unless it has the name of the domain. -/
  bucket : Option String := none
  token : String := ""
  deriving DecidableEq

structure LogSettings where
  level : String := "info"
  format : String := "pretty"
  deriving DecidableEq

structure Settings where
  store : StoreSettings := {}
  domains : SortedMap String DomainSettings := .empty
  logging : LogSettings := {}
  deriving DecidableEq

structure Connection where
  url : String
  token : String
  org : String
  deriving DecidableEq

namespace Settings

def bucket (s : Settings) : Buckets := fun domain =>
  (s.domains.get? domain).map fun d => d.bucket.getD domain

def connection (s : Settings) (domain : String) : Option Connection :=
  (s.domains.get? domain).map fun d => ⟨s.store.url, d.token, s.store.org⟩

end Settings

/-! ## Settings as one line of text

Tokens are hidden. -/

def braced (name : String) (fields : List (String × String)) : String :=
  name ++ " \x7b " ++ ", ".intercalate (fields.map fun f => f.1 ++ ": " ++ f.2) ++ " \x7d"

def StoreSettings.inspect (s : StoreSettings) : String :=
  braced "StoreConfig" [("host", Text.inspect s.host), ("port", toString s.port.toNat),
    ("org", Text.inspect s.org), ("request_timeout_secs", toString s.requestTimeout.toNat)]

def DomainSettings.inspect (d : DomainSettings) : String :=
  let bucket := match d.bucket with
    | some b => "Some(" ++ Text.inspect b ++ ")"
    | none => "None"
  braced "DomainConfig" [("bucket", bucket),
    ("token", if d.token.isEmpty then "\"\"" else "\"****\"")]

def LogSettings.inspect (l : LogSettings) : String :=
  braced "LoggingConfig" [("level", Text.inspect l.level), ("format", Text.inspect l.format)]

def Settings.inspect (s : Settings) : String :=
  let domains := s.domains.entries.map fun e => Text.inspect e.1 ++ ": " ++ e.2.inspect
  braced "Config" [("store", s.store.inspect),
    ("domains", "\x7b" ++ ", ".intercalate domains ++ "\x7d"), ("logging", s.logging.inspect)]

def Connection.inspect (c : Connection) : String :=
  braced "ConnectionParams"
    [("url", Text.inspect c.url), ("token", "\"****\""), ("org", Text.inspect c.org)]

end SeriesExport
