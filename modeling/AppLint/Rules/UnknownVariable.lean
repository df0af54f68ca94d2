import AppLint.Analysis
import AppLint.Project
import AppLint.Settings

/-! Interpolations start from variables that templates have. -/
namespace AppLint
namespace UnknownVariable

def id : String := "template-unknown-variable"

def description : String := "Template interpolations start from a variable the runtime provides"

def severity : Severity := .warning

def defaultRoots : List String :=
  ["app","data","env","item","page","params","session","site","user"]

/-- A variable that is not among the known ones. What could not be read as an expression is none. -/
def isUnknown (known : List String) (name : String) : Bool :=
  Expr.isIdentifier name.toList && !known.contains name

def finding (s : ScriptDocument) (line : Nat) (name : String) : Finding where
  ruleId := id
  severity := severity
  message := "unknown template variable " ++ Text.quoted name
  path := s.path
  line := line

def check (known : List String) (s : ScriptDocument) : List Finding :=
  s.templates.flatMap fun t =>
    ((Template.identifiers t.nodes).filter (isUnknown known)).map (finding s t.line)

def analyze (known : List String) (p : Project) : Analysis :=
  .found (p.scripts.values.flatMap (check known))

def key : String := "known_roots"

/-- The variables that the settings give are known too. -/
def configure (settings : Settings) : Configuring (List String) Unit := do
  settings.only key
  if let some roots ← settings.strings? key then
    match roots.find? fun r => !Expr.isIdentifier r.toList with
    | some bad => throw (.invalidValue key (Text.quoted bad ++ " is not an identifier"))
    | none => modify (· ++ roots)

end UnknownVariable
end AppLint
