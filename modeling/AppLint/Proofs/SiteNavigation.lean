import AppLint.Rules.SiteNavigation

/-! What the navigation rule finds: one finding for the home page and for each entry that leads to
no page. -/
namespace AppLint
namespace SiteNavigation

def homeMessage : Option String → String
  | some home => "home page " ++ Text.quoted home ++ " does not exist"
  | none => "site declares no home page"

def entryMessage (entry : NavigationEntry) : String :=
  let label := Text.quoted (entry.label.getD "<unlabelled>")
  match entry.page with
  | some page => "navigation entry " ++ label ++ " targets unknown page " ++ Text.quoted page
  | none => "navigation entry " ++ label ++ " has no target page"

def Leads (p : Project) (page? : Option String) : Prop :=
  ∃ page, page? = some page ∧ (p.page? page).isSome

theorem checkHomePage_cases (p : Project) (site : Site) :
    (Leads p site.homePage ∧ checkHomePage p site = []) ∨
      ∃ line, checkHomePage p site = [finding site (homeMessage site.homePage) line] := by
  unfold checkHomePage
  cases hhome : site.homePage with
  | none => exact Or.inr ⟨_,rfl⟩
  | some home =>
    dsimp only
    cases hpage : p.page? home with
    | some d => exact Or.inl ⟨⟨home,rfl,by simp [hpage]⟩,rfl⟩
    | none => exact Or.inr ⟨_,rfl⟩

theorem checkEntry_cases (p : Project) (site : Site) (entry : NavigationEntry) :
    (Leads p entry.page ∧ checkEntry p site entry = []) ∨
      ∃ line, checkEntry p site entry = [finding site (entryMessage entry) line] := by
  unfold checkEntry entryMessage
  cases hentry : entry.page with
  | none => exact Or.inr ⟨_,rfl⟩
  | some page =>
    dsimp only
    cases hpage : p.page? page with
    | some d => exact Or.inl ⟨⟨page,rfl,by simp [hpage]⟩,rfl⟩
    | none => exact Or.inr ⟨_,rfl⟩

theorem analyze_noSite {p : Project} (hsite : p.site = none) :
    analyze p = .skip id "navigation-targets"
      "SITE file not supplied: home page and navigation targets cannot be verified" := by
  simp [analyze,hsite]

theorem analyze_noPage {p : Project} {site : Site} (hsite : p.site = some site)
    (hpages : p.tracker.has .page = false) :
    analyze p = .skip id "page-targets"
      "PAGE files not supplied: navigation targets cannot be resolved" := by
  simp [analyze,hsite,hpages]

theorem analyze_site {p : Project} {site : Site} (hsite : p.site = some site)
    (hpages : p.tracker.has .page = true) :
    analyze p = .found (checkHomePage p site ++ site.navigation.flatMap (checkEntry p site)) := by
  simp [analyze,hsite,hpages]

theorem ruleId_of_mem {p : Project} {f : Finding} (h : f ∈ (analyze p).findings) :
    f.ruleId = id := by
  cases hsite : p.site with
  | none => simp [analyze_noSite hsite] at h
  | some site =>
    cases hpages : p.tracker.has .page with
    | false => simp [analyze_noPage hsite hpages] at h
    | true =>
      rw [analyze_site hsite hpages] at h
      rcases List.mem_append.mp h with hf | hf
      · obtain ⟨-,hnil⟩ | ⟨line,hline⟩ := checkHomePage_cases p site
        · simp [hnil] at hf
        · rw [hline,List.mem_singleton] at hf
          rw [hf,finding]
      · obtain ⟨entry,-,hf⟩ := List.mem_flatMap.mp hf
        obtain ⟨-,hnil⟩ | ⟨line,hline⟩ := checkEntry_cases p site entry
        · simp [hnil] at hf
        · rw [hline,List.mem_singleton] at hf
          rw [hf,finding]

end SiteNavigation
end AppLint
