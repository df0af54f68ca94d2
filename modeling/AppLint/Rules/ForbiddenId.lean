import AppLint.Analysis
import AppLint.Project
import AppLint.Settings

/-! Pages do not have the ids on a list. The rule is an example of how rules are written. -/
namespace AppLint
namespace ForbiddenId

def id : String := "example-rule"

def description : String := "Example: pages whose id is on a forbidden list"

def severity : Severity := .info

def finding (page : Page) : Finding where
  ruleId := id
  severity := severity
  message := "page id " ++ Text.quoted page.id ++ " is forbidden"
  path := page.body.path
  line := page.body.lineOfString page.id

def analyze (forbidden : List String) (p : Project) : Analysis :=
  if !p.tracker.has .page then .skip id "forbidden-ids" "PAGE files not supplied"
  else .found ((p.pages.values.filter fun page => forbidden.contains page.id).map finding)

def key : String := "forbidden_ids"

/-- The ids that the settings give take the place of those there were. -/
def configure (settings : Settings) : Configuring (List String) Unit := do
  settings.only key
  if let some ids ← settings.strings? key then
    set ids

end ForbiddenId
end AppLint
