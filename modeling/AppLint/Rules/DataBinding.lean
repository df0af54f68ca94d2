import AppLint.Analysis
import AppLint.Project.Reference

/-! Components are bound to data providers that exist. -/
namespace AppLint
namespace DataBinding

def id : String := "data-binding"

def description : String := "Component data sources refer to a declared data provider"

def severity : Severity := .error

def finding (r : Reference) : Finding where
  ruleId := id
  severity := severity
  message := "data source " ++ Text.quoted r.target ++ " is not a declared provider"
  path := r.body.path
  line := r.body.lineOfEntry "dataSource" r.target

def analyze (p : Project) : Analysis :=
  if p.bindings.isEmpty then .found []
  else
    match p.dataProvider with
    | none =>
      .skip id "provider-exists" "DATA_PROVIDER file not supplied: data bindings cannot be verified"
    | some d => .found ((p.bindings.filter fun r => (d.provider? r.target).isNone).map finding)

end DataBinding
end AppLint
