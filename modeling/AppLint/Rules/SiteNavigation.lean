import AppLint.Analysis
import AppLint.Project

/-! The home page and the pages that the navigation leads to exist. -/
namespace AppLint
namespace SiteNavigation

def id : String := "site-navigation"

def description : String := "The site home page and navigation entries point at existing pages"

def severity : Severity := .error

def finding (site : Site) (message : String) (line : Nat) : Finding where
  ruleId := id
  severity := severity
  message := message
  path := site.body.path
  line := line

def checkHomePage (p : Project) (site : Site) : List Finding :=
  match site.homePage with
  | some home =>
    match p.page? home with
    | some _ => []
    | none => [finding site ("home page " ++ Text.quoted home ++ " does not exist")
        (site.body.lineOfEntry "homePage" home)]
  | none => [finding site "site declares no home page" 0]

def checkEntry (p : Project) (site : Site) (entry : NavigationEntry) : List Finding :=
  let label := Text.quoted (entry.label.getD "<unlabelled>")
  match entry.page with
  | some page =>
    match p.page? page with
    | some _ => []
    | none =>
      [finding site ("navigation entry " ++ label ++ " targets unknown page " ++ Text.quoted page)
        (site.body.lineOfEntry "page" page)]
  | none =>
    [finding site ("navigation entry " ++ label ++ " has no target page")
      (entry.label.elim 0 (site.body.lineOfEntry "label" ·))]

def analyze (p : Project) : Analysis :=
  match p.site with
  | none =>
    .skip id "navigation-targets"
      "SITE file not supplied: home page and navigation targets cannot be verified"
  | some site =>
    if !p.tracker.has .page then
      .skip id "page-targets" "PAGE files not supplied: navigation targets cannot be resolved"
    else .found (checkHomePage p site ++ site.navigation.flatMap (checkEntry p site))

end SiteNavigation
end AppLint
