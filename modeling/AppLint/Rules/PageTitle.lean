import AppLint.Analysis
import AppLint.Project

/-! Every page has a title that is not blank. -/
namespace AppLint
namespace PageTitle

def id : String := "page-title-required"

def description : String := "Every page declares a non-empty title"

def severity : Severity := .warning

def isUntitled (page : Page) : Bool := (Text.trim (page.title.getD "").toList).isEmpty

def finding (page : Page) : Finding where
  ruleId := id
  severity := severity
  message := "page " ++ Text.quoted page.id ++ " has no title"
  path := page.body.path
  line := page.body.lineOfEntry "id" page.id

def analyze (p : Project) : Analysis := .found ((p.pages.values.filter isUntitled).map finding)

end PageTitle
end AppLint
