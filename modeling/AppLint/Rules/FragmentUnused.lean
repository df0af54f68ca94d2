import AppLint.Analysis
import AppLint.Project.Reference

/-! Every fragment is embedded somewhere. -/
namespace AppLint
namespace FragmentUnused

def id : String := "fragment-unused"

def description : String := "Every fragment is embedded somewhere"

def severity : Severity := .info

def finding (f : Fragment) : Finding where
  ruleId := id
  severity := severity
  message := "fragment " ++ Text.quoted f.id ++ " is never used"
  path := f.body.path
  line := f.body.lineOfEntry "id" f.id

def analyze (p : Project) : Analysis :=
  if p.fragments.isEmpty then .found []
  else if !p.tracker.has .page then
    .skip id "fragment-usage" "PAGE files not supplied: fragment usage cannot be verified"
  else
    let used := p.embeddings.map (·.target)
    .found ((p.fragments.values.filter fun f => !used.contains f.id).map finding)

end FragmentUnused
end AppLint
