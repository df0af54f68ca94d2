import AppLint.Proofs.Catalog
import AppLint.Proofs.SiteNavigation
import AppLint.Rule

/-! What every rule keeps to: it reports under its own id, and does not look at the checks that were
skipped before. The library's rules do so, and rules from outside have to. The library's rules look
at nothing but documents, scripts, and which types of files are there. -/
namespace AppLint

namespace Project

def withSkipped (p : Project) (checks : List SkippedCheck) : Project :=
  { p with tracker := { p.tracker with skipped := checks } }

end Project

namespace Rule

/-- A rule from outside analyses a project in the same way, whatever was skipped before. -/
def Independent : Rule → Prop
  | custom c => ∀ p checks, c.analyze c.settings (p.withSkipped checks) = c.analyze c.settings p
  | _ => True

def ReportsAsItself (p : Project) : Rule → Prop
  | custom c => ∀ f ∈ (c.analyze c.settings p).findings, f.ruleId = c.id
  | _ => True

theorem analyze_withSkipped {r : Rule} (h : r.Independent) (p : Project)
    (checks : List SkippedCheck) : r.analyze (p.withSkipped checks) = r.analyze p := by
  cases r with
  | builtin b => cases b <;> rfl
  | declared d => rfl
  | custom c => exact h p checks

end Rule

theorem DeclaredRule.ruleId_of_mem {r : DeclaredRule} {p : Project} {f : Finding}
    (h : f ∈ (r.analyze p).findings) : f.ruleId = r.id := by
  have hdoc : ∀ d, f ∈ r.checkDocument d → f.ruleId = r.id := by
    intro d hf
    obtain ⟨leaf,-,rfl⟩ := List.mem_map.mp hf
    rfl
  have hscript : ∀ s, f ∈ r.checkScript s → f.ruleId = r.id := by
    intro s hf
    obtain ⟨line,-,rfl⟩ := List.mem_map.mp hf
    rfl
  rcases List.mem_append.mp h with hf | hf
  · obtain ⟨d,-,hf⟩ := List.mem_flatMap.mp hf
    exact hdoc d hf
  · split at hf
    · obtain ⟨s,-,hf⟩ := List.mem_flatMap.mp hf
      exact hscript s hf
    · cases hf

namespace BuiltinRule

theorem ruleId_of_mem {b : BuiltinRule} {p : Project} {f : Finding}
    (h : f ∈ (b.analyze p).findings) : f.ruleId = b.id := by
  cases b with
  | pageTitle | componentLimit =>
    obtain ⟨page,-,rfl⟩ := List.mem_map.mp h
    rfl
  | fragmentReference | fragmentUnused | dataBinding =>
    simp only [analyze,FragmentReference.analyze,FragmentUnused.analyze,DataBinding.analyze] at h
    split at h
    · cases h
    · split at h
      · cases h
      · obtain ⟨r,-,rfl⟩ := List.mem_map.mp h
        rfl
  | insecureEndpoint hosts =>
    simp only [analyze,InsecureEndpoint.analyze] at h
    split at h
    · obtain ⟨provider,-,hf⟩ := List.mem_filterMap.mp h
      unfold InsecureEndpoint.check at hf
      split at hf <;> simp at hf
      rw [← hf.2]
      rfl
    · cases h
  | siteNavigation => exact SiteNavigation.ruleId_of_mem h
  | hardcodedSecret extra =>
    obtain ⟨s,-,hf⟩ := List.mem_flatMap.mp h
    obtain ⟨line,-,rfl⟩ := List.mem_map.mp hf
    rfl
  | debugStatement =>
    obtain ⟨s,-,hf⟩ := List.mem_flatMap.mp h
    obtain ⟨line,-,hf⟩ := List.mem_filterMap.mp hf
    obtain ⟨message,-,rfl⟩ := Option.map_eq_some_iff.mp hf
    rfl
  | unknownVariable known =>
    obtain ⟨s,-,hf⟩ := List.mem_flatMap.mp h
    obtain ⟨t,-,hf⟩ := List.mem_flatMap.mp hf
    obtain ⟨name,-,rfl⟩ := List.mem_map.mp hf
    rfl
  | forbiddenId forbidden =>
    simp only [analyze,ForbiddenId.analyze] at h
    split at h
    · cases h
    · obtain ⟨page,-,rfl⟩ := List.mem_map.mp h
      rfl

end BuiltinRule

theorem BuiltinRule.analyze_succeeds (b : BuiltinRule) (p : Project) :
    (b.analyze p).result = .ok (b.analyze p).findings := by
  cases b with
  | pageTitle | componentLimit | hardcodedSecret | debugStatement | unknownVariable => rfl
  | fragmentReference | fragmentUnused | dataBinding =>
    simp only [analyze,FragmentReference.analyze,FragmentUnused.analyze,DataBinding.analyze]
    split
    · rfl
    · split <;> rfl
  | insecureEndpoint | forbiddenId =>
    simp only [analyze,InsecureEndpoint.analyze,ForbiddenId.analyze]
    split <;> rfl
  | siteNavigation =>
    simp only [analyze,SiteNavigation.analyze]
    split
    · rfl
    · split <;> rfl

theorem DeclaredRule.analyze_succeeds (r : DeclaredRule) (p : Project) :
    (r.analyze p).result = .ok (r.analyze p).findings := rfl

theorem Rule.ruleId_of_mem {r : Rule} {p : Project} {f : Finding} (hr : r.ReportsAsItself p)
    (h : f ∈ (r.analyze p).findings) : f.ruleId = r.id := by
  cases r with
  | builtin b => exact BuiltinRule.ruleId_of_mem h
  | declared d => exact DeclaredRule.ruleId_of_mem h
  | custom c => exact hr f h

namespace Project

structure SameDocuments (p q : Project) : Prop where
  pages : p.pages = q.pages
  fragments : p.fragments = q.fragments
  scripts : p.scripts = q.scripts
  dataProvider : p.dataProvider = q.dataProvider
  site : p.site = q.site

/-- Two projects look alike to rules: they also know of the same types of files. -/
structure Alike (p q : Project) : Prop extends SameDocuments p q where
  has : ∀ type, p.tracker.has type = q.tracker.has type

section
variable {p q : Project} (h : p.SameDocuments q)
include h

theorem SameDocuments.documents : p.documents = q.documents := by
  simp only [Project.documents,h.pages,h.fragments,h.dataProvider,h.site]

theorem SameDocuments.fileCount (type : FileType) : p.fileCount type = q.fileCount type := by
  cases type <;>
    simp only [Project.fileCount,h.pages,h.fragments,h.scripts,h.dataProvider,h.site]

end

inductive Part where
  | pages
  | pageIds
  | fragments
  | dataProvider
  | site
  | scripts

def AgreeOn (p q : Project) : Part → Prop
  | .pages => p.pages = q.pages
  | .pageIds => ∀ id, id ∈ p.pages.keys ↔ id ∈ q.pages.keys
  | .fragments => p.fragments = q.fragments
  | .dataProvider => p.dataProvider = q.dataProvider
  | .site => p.site = q.site
  | .scripts => p.scripts = q.scripts

theorem SameDocuments.agreeOn {p q : Project} (h : p.SameDocuments q) (part : Part) :
    p.AgreeOn q part := by
  cases part with
  | pages => exact h.pages
  | pageIds => simp [AgreeOn,h.pages]
  | fragments => exact h.fragments
  | dataProvider => exact h.dataProvider
  | site => exact h.site
  | scripts => exact h.scripts

theorem references_of_agree {p q : Project} (hpages : p.pages = q.pages)
    (hfragments : p.fragments = q.fragments) (name? : Component → Option String) :
    p.references name? = q.references name? := by
  simp only [references,layouts,hpages,hfragments]

end Project

namespace BuiltinRule

def reads : BuiltinRule → List Project.Part
  | pageTitle | componentLimit _ | forbiddenId _ => [.pages]
  | fragmentReference | fragmentUnused => [.pages,.fragments]
  | dataBinding => [.pages,.fragments,.dataProvider]
  | insecureEndpoint _ => [.dataProvider]
  | siteNavigation => [.site,.pageIds]
  | hardcodedSecret _ | debugStatement | unknownVariable _ => [.scripts]

def asks : BuiltinRule → List FileType
  | fragmentReference => [.fragment]
  | fragmentUnused | siteNavigation | forbiddenId _ => [.page]
  | _ => []

end BuiltinRule

namespace SiteNavigation
variable {p q : Project} (hids : ∀ id, (p.page? id).isSome = (q.page? id).isSome)
include hids

theorem checkHomePage_of_ids (site : Site) : checkHomePage p site = checkHomePage q site := by
  unfold checkHomePage
  cases site.homePage with
  | none => rfl
  | some home =>
    have hhome := hids home
    cases hp : p.page? home <;> cases hq : q.page? home <;> simp_all

theorem checkEntry_of_ids (site : Site) (entry : NavigationEntry) :
    checkEntry p site entry = checkEntry q site entry := by
  unfold checkEntry
  cases entry.page with
  | none => rfl
  | some page =>
    have hpage := hids page
    cases hp : p.page? page <;> cases hq : q.page? page <;> simp_all

theorem analyze_of_ids (hsite : p.site = q.site)
    (hhas : p.tracker.has .page = q.tracker.has .page) : analyze p = analyze q := by
  have hhome : checkHomePage p = checkHomePage q := funext (checkHomePage_of_ids hids)
  have hentry : checkEntry p = checkEntry q := by
    funext site entry
    exact checkEntry_of_ids hids site entry
  simp only [analyze,hsite,hhas,hhome,hentry]

end SiteNavigation

/-- A rule sees nothing of a project but the parts that it reads and the types that it asks for. -/
theorem BuiltinRule.analyze_of_agree {p q : Project} (b : BuiltinRule)
    (hreads : ∀ part ∈ b.reads, p.AgreeOn q part)
    (hasks : ∀ type ∈ b.asks, p.tracker.has type = q.tracker.has type) :
    b.analyze p = b.analyze q := by
  cases b with
  | pageTitle =>
    have hpages : p.pages = q.pages := hreads .pages (by simp [reads])
    simp only [analyze,PageTitle.analyze,hpages]
  | componentLimit limit =>
    have hpages : p.pages = q.pages := hreads .pages (by simp [reads])
    simp only [analyze,ComponentLimit.analyze,hpages]
  | forbiddenId forbidden =>
    have hpages : p.pages = q.pages := hreads .pages (by simp [reads])
    simp only [analyze,ForbiddenId.analyze,hasks .page (by simp [asks]),hpages]
  | fragmentReference =>
    have hpages : p.pages = q.pages := hreads .pages (by simp [reads])
    have hfragments : p.fragments = q.fragments := hreads .fragments (by simp [reads])
    have hembeddings : p.embeddings = q.embeddings :=
      Project.references_of_agree hpages hfragments _
    simp only [analyze,FragmentReference.analyze]
    rw [hembeddings,hasks .fragment (by simp [asks])]
    simp only [Project.fragment?,hfragments]
  | fragmentUnused =>
    have hpages : p.pages = q.pages := hreads .pages (by simp [reads])
    have hfragments : p.fragments = q.fragments := hreads .fragments (by simp [reads])
    have hembeddings : p.embeddings = q.embeddings :=
      Project.references_of_agree hpages hfragments _
    simp only [analyze,FragmentUnused.analyze,hembeddings,hasks .page (by simp [asks]),hfragments]
  | dataBinding =>
    have hbindings : p.bindings = q.bindings :=
      Project.references_of_agree (hreads .pages (by simp [reads]))
        (hreads .fragments (by simp [reads])) _
    have hprovider : p.dataProvider = q.dataProvider := hreads .dataProvider (by simp [reads])
    simp only [analyze,DataBinding.analyze]
    rw [hbindings,hprovider]
  | insecureEndpoint hosts =>
    have hprovider : p.dataProvider = q.dataProvider := hreads .dataProvider (by simp [reads])
    simp only [analyze,InsecureEndpoint.analyze,hprovider]
  | siteNavigation =>
    refine SiteNavigation.analyze_of_ids (fun id => ?_) (hreads .site (by simp [reads]))
      (hasks .page (by simp [asks]))
    have hid : id ∈ p.pages.keys ↔ id ∈ q.pages.keys := hreads .pageIds (by simp [reads]) id
    rwa [Catalog.mem_keys_iff,Catalog.mem_keys_iff,← Bool.eq_iff_iff] at hid
  | hardcodedSecret extra =>
    have hscripts : p.scripts = q.scripts := hreads .scripts (by simp [reads])
    simp only [analyze,HardcodedSecret.analyze,hscripts]
  | debugStatement =>
    have hscripts : p.scripts = q.scripts := hreads .scripts (by simp [reads])
    simp only [analyze,DebugStatement.analyze,hscripts]
  | unknownVariable known =>
    have hscripts : p.scripts = q.scripts := hreads .scripts (by simp [reads])
    simp only [analyze,UnknownVariable.analyze,hscripts]

theorem BuiltinRule.analyze_of_alike {p q : Project} (h : p.Alike q) (b : BuiltinRule) :
    b.analyze p = b.analyze q :=
  b.analyze_of_agree (fun part _ => h.agreeOn part) (fun type _ => h.has type)

theorem DeclaredRule.analyze_of_alike {p q : Project} (h : p.Alike q) (r : DeclaredRule) :
    r.analyze p = r.analyze q := by
  simp only [analyze,checkDocuments,checkScripts,h.documents,h.scripts]

end AppLint
