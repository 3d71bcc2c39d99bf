import SeriesExport.Settings.Basic
import SeriesExport.Text.Blank
import SeriesExport.Text.Digits

/-! Settings from environment variables, which take precedence over those from files. -/
namespace SeriesExport
open Text
set_option autoImplicit false

abbrev Environment := String → Option String

/-- The form of a domain name in names of variables: capitals, digits and underscores. -/
def environmentKey (domain : String) : String :=
  String.ofList (domain.toList.map fun c => if c.isAlphanum then c.toUpper else '_')

def bucketVariable (domain : String) : String := "FLUXPLAN_" ++ environmentKey domain ++ "_BUCKET"

def tokenVariable (domain : String) : String := "FLUXPLAN_" ++ environmentKey domain ++ "_TOKEN"

def domainsVariable : String := "FLUXPLAN_DOMAINS"

def commonVariables : List String :=
  ["FLUXPLAN_STORE_HOST", "FLUXPLAN_STORE_PORT", "FLUXPLAN_STORE_ORG", domainsVariable,
    "FLUXPLAN_LOG_LEVEL", "FLUXPLAN_LOG_FORMAT"]

/-- A port number; it may have a plus in front. -/
def port? (text : String) : Option UInt16 :=
  let ds := match text.toList with
    | '+' :: ds => ds
    | ds => ds
  if ds ≠ [] ∧ ds.all Char.isDigit ∧ valueOfDigits ds < 65536 then
    some (UInt16.ofNat (valueOfDigits ds))
  else none

def StoreSettings.override (env : Environment) (s : StoreSettings) : StoreSettings :=
  { s with
    host := (env "FLUXPLAN_STORE_HOST").getD s.host
    port := ((env "FLUXPLAN_STORE_PORT").bind port?).getD s.port
    org := (env "FLUXPLAN_STORE_ORG").getD s.org }

def DomainSettings.override (env : Environment) (domain : String) (d : DomainSettings) :
    DomainSettings :=
  { bucket := env (bucketVariable domain) <|> d.bucket
    token := (env (tokenVariable domain)).getD d.token }

def LogSettings.override (env : Environment) (l : LogSettings) : LogSettings :=
  { level := (env "FLUXPLAN_LOG_LEVEL").getD l.level
    format := (env "FLUXPLAN_LOG_FORMAT").getD l.format }

namespace Settings

/-- Settings with those that variables set for the domains they have. -/
def override (env : Environment) (s : Settings) : Settings :=
  { store := s.store.override env
    domains := s.domains.mapEntries fun domain d => d.override env domain
    logging := s.logging.override env }

/-- Names between commas; blanks around them and empty ones do not count. -/
def listedNames (text : String) : List String :=
  ((text.splitOn ",").map fun s => String.ofList (trim s.toList)).filter fun s => !s.isEmpty

/-- Settings from variables alone, with the domains that one of them lists. -/
def ofEnvironment (env : Environment) : Settings :=
  let names := listedNames ((env domainsVariable).getD "")
  let domains := SortedMap.ofList (names.map fun n => (n, ({} : DomainSettings)))
  override env { domains }

end Settings
end SeriesExport
