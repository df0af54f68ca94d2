import AppLint.Analysis
import AppLint.Project.Reference

/-! Only fragments that exist are embedded. -/
namespace AppLint
namespace FragmentReference

def id : String := "fragment-reference"

def description : String := "Embedded fragments refer to a supplied fragment"

def severity : Severity := .error

def finding (r : Reference) : Finding where
  ruleId := id
  severity := severity
  message := "unknown fragment " ++ Text.quoted r.target
  path := r.body.path
  line := r.body.lineOfEntry "ref" r.target

def analyze (p : Project) : Analysis :=
  if p.embeddings.isEmpty then .found []
  else if !p.tracker.has .fragment then
    .skip id "fragment-exists" "FRAGMENT files not supplied: fragment references cannot be verified"
  else .found ((p.embeddings.filter fun r => (p.fragment? r.target).isNone).map finding)

end FragmentReference
end AppLint
