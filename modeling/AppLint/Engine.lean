import AppLint.Configuration
import AppLint.Discovery

/-! The rules that are run. -/
namespace AppLint

/-- A rule with its settings and the severity of what it finds. -/
structure ActiveRule where
  rule : Rule
  severity : Severity

namespace ActiveRule

def id (r : ActiveRule) : String := r.rule.id

/-- How the rule is shown. -/
def text (r : ActiveRule) : String :=
  let severity := match r.severity with
    | .error => "Error"
    | .warning => "Warning"
    | .info => "Info"
  "ActiveRule \x7b id: " ++ Text.quoted r.id ++ ", severity: " ++ severity ++ " \x7d"

end ActiveRule

structure Engine where
  rules : List ActiveRule

namespace Engine

def ruleIds (e : Engine) : List String := e.rules.map (·.id)

/-- How the engine is shown. -/
def text (e : Engine) : String :=
  "Engine \x7b rules: [" ++ ", ".intercalate (e.rules.map (·.text)) ++ "] \x7d"

/-- The rule under the settings that are configured for it, unless it refuses them. -/
def configured (settings : Settings) (rule : Rule) : Logged (Except SettingsError Rule) :=
  if settings.isEmpty then pure (.ok rule)
  else
    match rule.configure? settings with
    | some (answer,left) => pure (answer.map fun _ => left)
    | none => do
      Logged.debug ("rule " ++ rule.id ++ " does not accept settings, ignoring " ++
        toString settings.length ++ " keys")
      return .ok rule

/-- The active rule of an entry, if it has one beside those with the ids in `taken`. -/
def activate? (c : Configuration) (taken : List String) (entry : RuleEntry) :
    Logged (Option ActiveRule) := do
  if entry.isExample then
    Logged.debug ("skipping example rule " ++ entry.name)
    return none
  else if !c.isEnabled entry.name then
    Logged.debug ("rule " ++ entry.name ++ " disabled by configuration")
    return none
  else
    match entry.build with
    | .error f =>
      Logged.warn (DiscoveryError.build entry.name f).message
      return none
    | .ok rule =>
      if taken.contains rule.id then
        Logged.warn ("duplicate rule id " ++ Text.quoted rule.id ++
          ", keeping the first one discovered")
        return none
      else
        match ← configured (c.settings entry.name) rule with
        | .ok r => return some ⟨r,(c.severity? entry.name).getD r.severity⟩
        | .error e =>
          Logged.warn ("rule " ++ rule.id ++ " rejected its settings (" ++ e.message ++
            "), excluding it")
          return none

/-- The active rules of entries, one for each id. -/
def activateAll (c : Configuration) (taken : List String) :
    List RuleEntry → Logged (List ActiveRule)
  | [] => pure []
  | entry :: rest => do
    match ← activate? c taken entry with
    | some r => return r :: (← activateAll c (r.id :: taken) rest)
    | none => activateAll c taken rest

/-- The engine for entries under a configuration. -/
def ofEntries (c : Configuration) (entries : List RuleEntry) : Logged Engine := do
  let rules ← activateAll c [] entries
  Logged.info (toString rules.length ++ " of " ++ toString entries.length ++
    " discovered rules active")
  return ⟨rules⟩

end Engine
end AppLint
