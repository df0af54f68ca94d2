import AppLint.Finding
import AppLint.Json.Commented
import AppLint.Log
import AppLint.Settings
import AppLint.Storage
import AppLint.Yaml.Value

/-! What is configured for rules. -/
namespace AppLint

open Json (Value)

structure RuleConfig where
  enabled : Bool := true
  /-- The severity in place of the rule's own. -/
  severity : Option Severity := none
  settings : Settings := []
deriving Repr, Inhabited

namespace RuleConfig

def disabled : RuleConfig := { enabled := false }

/-- The first of two fields that is there. -/
def either (name other : String) (fields : Keyed Value) : Option Value :=
  (Keyed.get? name fields).orElse fun _ => Keyed.get? other fields

def readEnabled (rule : String) (fields : Keyed Value) : Logged Bool :=
  match Keyed.get? "enabled" fields with
  | some (.bool b) => pure b
  | some v => do
    Logged.warn ("rule " ++ rule ++ ": `enabled` must be a boolean, got " ++ v.print)
    return true
  | none => pure true

def readSeverity (rule : String) (fields : Keyed Value) : Logged (Option Severity) :=
  match either "severity" "severity_override" fields with
  | some (.string s) =>
    match Severity.parse? s with
    | some severity => pure (some severity)
    | none => do
      Logged.warn ("rule " ++ rule ++ ": " ++ Severity.unknownMessage s)
      return none
  | some .null => pure none
  | some v => do
    Logged.warn ("rule " ++ rule ++ ": `severity` must be a string, got " ++ v.print)
    return none
  | none => pure none

def readSettings (rule : String) (fields : Keyed Value) : Logged Settings :=
  match either "settings" "custom_settings" fields with
  | some (.object settings) => pure settings
  | some .null => pure []
  | some v => do
    Logged.warn ("rule " ++ rule ++ ": `settings` must be a map, got " ++ v.print)
    return []
  | none => pure []

/-- What a value says about a rule. A field that cannot be read keeps its default. -/
def ofValue (rule : String) : Value → Logged RuleConfig
  | .bool enabled => pure { enabled := enabled }
  | .null => pure {}
  | .object fields => do
    let enabled ← readEnabled rule fields
    let severity ← readSeverity rule fields
    let settings ← readSettings rule fields
    return ⟨enabled,severity,settings⟩
  | v => do
    Logged.warn ("ignoring configuration for rule " ++ rule ++ ": expected a map, found " ++ v.kind)
    return {}

end RuleConfig

/-- What is configured, by rule. -/
structure Configuration where
  rules : Keyed RuleConfig := []
deriving Repr, Inhabited

inductive ConfigurationError where
  | notAMap (kind : String)
  | storage (e : StorageError)
  | yaml (e : Yaml.Error)
deriving DecidableEq, Repr

namespace ConfigurationError

def message : ConfigurationError → String
  | notAMap kind => "rule configuration must be a map, found " ++ kind
  | storage e => "reading configuration: " ++ e.message
  | yaml e => "parsing configuration: " ++ e.message

end ConfigurationError

namespace Configuration

def rule? (name : String) (c : Configuration) : Option RuleConfig := Keyed.get? name c.rules

/-- Rules that nothing is said about are enabled. -/
def isEnabled (name : String) (c : Configuration) : Bool := (c.rule? name).elim true (·.enabled)

def severity? (name : String) (c : Configuration) : Option Severity := (c.rule? name).bind (·.severity)

def settings (name : String) (c : Configuration) : Settings := (c.rule? name).elim [] (·.settings)

def size (c : Configuration) : Nat := c.rules.length

def insert (name : String) (r : RuleConfig) (c : Configuration) : Configuration :=
  ⟨Keyed.insert name r c.rules⟩

/-- The configuration of each rule in a list of fields. -/
def ofFields : List (String × Value) → Logged (Keyed RuleConfig)
  | [] => pure []
  | (name,v) :: rest => do
    let r ← RuleConfig.ofValue name v
    return (name,r) :: (← ofFields rest)

/-- The configuration in a value, which must be an object, or null for an empty one. -/
def ofValue : Value → Logged (Except ConfigurationError Configuration)
  | .object fields => do return .ok ⟨← ofFields fields⟩
  | .null => pure (.ok {})
  | v => pure (.error (.notAMap v.kind))

/-- The configuration in a YAML text, without commented-out parts. -/
def parse (text : String) : Logged (Except ConfigurationError Configuration) :=
  match Yaml.parse text with
  | .ok v => ofValue v.uncommented
  | .error e => pure (.error (.yaml e))

def read (root : Stored) (path : String) : Logged (Except ConfigurationError Configuration) :=
  match root.read path with
  | .ok text => parse text
  | .error e => pure (.error (.storage e))

end Configuration
end AppLint
