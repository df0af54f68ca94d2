import AppLint.Analysis
import AppLint.Project
import AppLint.Settings

/-! Endpoints on hosts that are not allowed otherwise are encrypted. -/
namespace AppLint
namespace InsecureEndpoint

def id : String := "data-provider-insecure-endpoint"

def description : String := "Data providers use HTTPS outside local development hosts"

def severity : Severity := .warning

def defaultHosts : List String := ["localhost","127.0.0.1"]

def scheme : List Char := "http://".toList

def endsAuthority (c : Char) : Bool := c == '/' || c == '?' || c == '#'

/-- The host of an unencrypted URL in lower case; the user before the last at sign and what follows
the first colon after it are no part of it. -/
def host? (url : String) : Option (List Char) :=
  let s := Text.trim url.toList
  if Text.lowerAscii (s.take scheme.length) = scheme then
    let authority := (s.drop scheme.length).takeWhile fun c => !endsAuthority c
    let host := (Text.afterLast (· == '@') authority).takeWhile (· != ':')
    some (Text.lower host)
  else none

/-- Whether the URL is unencrypted and its host is not on the list. -/
def isInsecure (hosts : List String) (url : String) : Bool :=
  match host? url with
  | some host => !hosts.contains (String.ofList host)
  | none => false

def finding (d : DataProviderDocument) (provider url : String) : Finding where
  ruleId := id
  severity := severity
  message := "provider " ++ Text.quoted provider ++ " uses an unencrypted endpoint " ++ url
  path := d.body.path
  line := d.body.lineOfEntry "url" url

def check (hosts : List String) (d : DataProviderDocument) (provider : DataProvider) :
    Option Finding :=
  match provider.url with
  | some url => if isInsecure hosts url then some (finding d provider.id url) else none
  | none => none

def analyze (hosts : List String) (p : Project) : Analysis :=
  match p.dataProvider with
  | some d => .found (d.providers.filterMap (check hosts d))
  | none => .found []

def key : String := "allowed_hosts"

/-- The hosts that the settings give, in lower case, take the place of those there were. -/
def configure (settings : Settings) : Configuring (List String) Unit := do
  settings.only key
  if let some hosts ← settings.strings? key then
    set (hosts.map fun h => String.ofList (Text.lower h.toList))

end InsecureEndpoint
end AppLint
