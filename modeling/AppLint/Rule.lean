import AppLint.DeclaredRule
import AppLint.Rules

/-! Rules of all kinds, and the entries under which they are found. -/
namespace AppLint

/-- A rule that is given by what it does. -/
structure CustomRule where
  id : String
  description : String
  severity : Severity := .warning
  settings : Settings := []
  /-- What the rule does with settings, if it takes any. -/
  configure : Option (Settings → Configuring Settings Unit) := none
  analyze : Settings → Project → Analysis

inductive Rule where
  | builtin (r : BuiltinRule)
  | declared (r : DeclaredRule)
  | custom (r : CustomRule)

namespace Rule

def id : Rule → String
  | builtin r => r.id
  | declared r => r.id
  | custom r => r.id

def description : Rule → String
  | builtin r => r.description
  | declared r => r.description
  | custom r => r.description

/-- The severity of what the rule finds, unless another is configured. -/
def severity : Rule → Severity
  | builtin r => r.severity
  | declared r => r.severity
  | custom r => r.severity

def analyze (p : Project) : Rule → Analysis
  | builtin r => r.analyze p
  | declared r => r.analyze p
  | custom r => r.analyze r.settings p

/-- What a rule answers to settings, and the rule that is left; none for a rule that takes no
settings. -/
def configure? (settings : Settings) : Rule → Option (Except SettingsError Unit × Rule)
  | builtin r => (r.configure? settings).map fun (answer,left) => (answer,builtin left)
  | declared _ => none
  | custom r =>
    r.configure.map fun configure =>
      (configure settings).within (fun left => custom { r with settings := left }) r.settings

end Rule

/-- A rule under the name by which it is configured. -/
structure RuleEntry where
  name : String
  /-- Examples are there to be read and are never run. -/
  isExample : Bool := false
  /-- The rule, unless it cannot be made. -/
  build : Except RuleFailure Rule

namespace RuleEntry

def ofBuiltin (r : BuiltinRule) : RuleEntry := ⟨r.id,r.isExample,.ok (.builtin r)⟩

/-- The entries of the built-in rules. -/
def builtins : List RuleEntry := BuiltinRule.all.map ofBuiltin

/-- How the entry is shown. -/
def text (e : RuleEntry) : String :=
  "RuleEntry \x7b name: " ++ Text.quoted e.name ++ ", example: " ++
    (if e.isExample then "true" else "false") ++ " \x7d"

end RuleEntry
end AppLint
