import AppLint.Analysis
import AppLint.Project
import AppLint.Regex
import AppLint.Settings

/-! Scripts hold no credentials. -/
namespace AppLint
namespace HardcodedSecret

def id : String := "script-hardcoded-secret"

def description : String := "Scripts do not embed credentials"

def severity : Severity := .error

/-- A quoted text under the name of a credential, the id of an access key, and a bearer token. -/
def defaultSources : List String :=
  ["(?i)\\b(api[_-]?key|apikey|secret|client[_-]?secret|password|passwd|auth[_-]?token|" ++
      "access[_-]?token|private[_-]?key)\\b[\"']?\\s*[:=]\\s*[\"'][^\"'\\s]\x7b6,\x7d[\"']",
   "\\bAKIA[0-9A-Z]\x7b16\x7d\\b",
   "(?i)[\"']bearer\\s+[A-Za-z0-9._\\-]\x7b16,\x7d[\"']"]

def defaultPatterns : List Regex := defaultSources.filterMap fun s => (Regex.parse s).toOption

/-- Comment lines hold nothing of interest. -/
def isComment (line : List Char) : Bool :=
  match Text.trimStart line with
  | '/' :: '/' :: _ => true
  | '*' :: _ => true
  | _ => false

def isSecret (extra : List Regex) (line : List Char) : Bool :=
  !isComment line && (defaultPatterns ++ extra).any (·.isMatch line)

def finding (s : ScriptDocument) (line : Nat) : Finding where
  ruleId := id
  severity := severity
  message := "possible hardcoded credential"
  path := s.path
  line := line

def check (extra : List Regex) (s : ScriptDocument) : List Finding :=
  (s.lines.filter fun (_,line) => isSecret extra line).map fun (n,_) => finding s n

def analyze (extra : List Regex) (p : Project) : Analysis :=
  .found (p.scripts.values.flatMap (check extra))

def key : String := "extra_patterns"

def readPattern (source : String) : Except SettingsError Regex :=
  (Regex.parse source).mapError fun e => .invalidValue key e.message

def readPatterns (sources : List String) : Except SettingsError (List Regex) :=
  sources.mapM readPattern

/-- The further patterns that the settings give take the place of those there were. -/
def configure (settings : Settings) : Configuring (List Regex) Unit := do
  settings.only key
  if let some sources ← settings.strings? key then
    set (← readPatterns sources)

end HardcodedSecret
end AppLint
