import AppLint.Analysis
import AppLint.Project
import AppLint.Settings

/-! No page has more components than the limit; nested components count. -/
namespace AppLint
namespace ComponentLimit

def id : String := "page-component-limit"

def description : String := "Pages stay under a component budget"

def severity : Severity := .warning

def defaultLimit : Nat := 50

def finding (limit : Nat) (page : Page) : Finding where
  ruleId := id
  severity := severity
  message := "page " ++ Text.quoted page.id ++ " has " ++ toString page.components.length ++
    " components (limit " ++ toString limit ++ ")"
  path := page.body.path
  line := page.body.lineOfString page.id

def analyze (limit : Nat) (p : Project) : Analysis :=
  .found ((p.pages.values.filter fun page => limit < page.components.length).map (finding limit))

def key : String := "max_components"

/-- The limit that the settings give takes the place of the one there was. -/
def configure (settings : Settings) : Configuring Nat Unit := do
  settings.only key
  if let some limit ← settings.positive? key then
    set limit

end ComponentLimit
end AppLint
