import AppLint.Proofs.DocumentSchema
import AppLint.Proofs.JsonStrings
import AppLint.Proofs.LineLookup
import AppLint.Proofs.Presence
import AppLint.Proofs.Representation
import AppLint.Proofs.SiteNavigation

/-! Where the home page and the navigation of a site lead. What leads to no page is reported once,
the home page before the entries in their order, at a line that names the page or the label. -/
namespace AppLint

namespace Project

def Reaches (p : Project) (target : Option String) : Prop :=
  ∃ d ∈ p.pages.values, target = some d.id

instance (p : Project) (target : Option String) : Decidable (p.Reaches target) :=
  inferInstanceAs (Decidable (∃ d ∈ p.pages.values, target = some d.id))

theorem not_reaches_none (p : Project) : ¬p.Reaches none := by
  rintro ⟨d,-,hd⟩
  cases hd

theorem reaches_some (p : Project) (id : String) :
    p.Reaches (some id) ↔ (p.page? id).isSome = true := by
  rw [page?,Catalog.isSome_get?,List.mem_map]
  simp [Reaches,eq_comm]

theorem load_site_shape {unit : AnalysisUnit} {files : List SourceFile} {site : Site}
    (h : (load unit files).value.site = some site) : site.Shape (Schema.IsRecord 2) := by
  have hstored : (load unit files).value.stored? .site = some (.site site) := by
    rw [stored?,h,Option.map_some]
  obtain ⟨-,f,-,hread⟩ := (load_aggregates unit files).file_of_stored hstored
  obtain ⟨type,tree,-,-,hparse,hdoc⟩ := Loaded.read_eq_document.mp hread
  obtain rfl : FileType.site = type := Document.ofTree_type hdoc
  have hordered := Json.Value.ordered_uncommented (Json.Value.ordered_of_parse hparse)
  obtain ⟨other,hother,-,hshape⟩ := (Site.ofTree_iff hordered).mp hdoc
  cases hother
  exact hshape

end Project

namespace SiteNavigation

def homeLine (site : Site) : Nat := site.homePage.elim 0 (site.body.lineOfEntry "homePage" ·)

def entryLine (site : Site) (entry : NavigationEntry) : Nat :=
  match entry.page with
  | some page => site.body.lineOfEntry "page" page
  | none => entry.label.elim 0 (site.body.lineOfEntry "label" ·)

theorem checkHomePage_eq (p : Project) (site : Site) :
    checkHomePage p site =
      if p.Reaches site.homePage then []
      else [finding site (homeMessage site.homePage) (homeLine site)] := by
  unfold checkHomePage homeLine
  cases site.homePage with
  | none => simp [p.not_reaches_none,homeMessage]
  | some home => cases hpage : p.page? home <;> simp [p.reaches_some,hpage,homeMessage]

theorem checkEntry_eq (p : Project) (site : Site) (entry : NavigationEntry) :
    checkEntry p site entry =
      if p.Reaches entry.page then []
      else [finding site (entryMessage entry) (entryLine site entry)] := by
  unfold checkEntry entryMessage entryLine
  cases entry.page with
  | none => simp [p.not_reaches_none]
  | some page => cases hpage : p.page? page <;> simp [p.reaches_some,hpage]

theorem analyze_eq {p : Project} {site : Site} (hsite : p.site = some site)
    (hpages : p.tracker.has .page = true) :
    analyze p = .found ((if p.Reaches site.homePage then []
        else [finding site (homeMessage site.homePage) (homeLine site)]) ++
      (site.navigation.filter fun entry => ¬p.Reaches entry.page).map fun entry =>
        finding site (entryMessage entry) (entryLine site entry)) := by
  have hentries : site.navigation.flatMap (checkEntry p site) =
      (site.navigation.filter fun entry => ¬p.Reaches entry.page).map fun entry =>
        finding site (entryMessage entry) (entryLine site entry) := by
    induction site.navigation with
    | nil => rfl
    | cons entry rest ih =>
      by_cases hreaches : p.Reaches entry.page <;> simp [ih,checkEntry_eq,hreaches]
  rw [analyze_site hsite hpages,checkHomePage_eq,hentries]

/-- A finding of the rule about a site, at a line that holds what it concerns if there is one. -/
structure Reports (site : Site) (message : String) (concerned : Option String) (f : Finding) :
    Prop where
  ruleId : f.ruleId = "site-navigation"
  severity : f.severity = .error
  message : f.message = message
  path : f.path = site.body.path
  located : ∀ s, concerned = some s → Line.Locates s site.body.raw f.line
  unlocated : concerned = none → f.line = 0

theorem reports_home (site : Site) :
    Reports site (homeMessage site.homePage) site.homePage
      (finding site (homeMessage site.homePage) (homeLine site)) where
  ruleId := rfl
  severity := rfl
  message := rfl
  path := rfl
  located := by
    intro home hhome
    simp only [finding,homeLine,hhome]
    exact Line.locates_ofEntry "homePage" home site.body.raw
  unlocated := by
    intro hhome
    simp [finding,homeLine,hhome]

theorem reports_entry (site : Site) (entry : NavigationEntry) :
    Reports site (entryMessage entry) (entry.page.or entry.label)
      (finding site (entryMessage entry) (entryLine site entry)) where
  ruleId := rfl
  severity := rfl
  message := rfl
  path := rfl
  located := by
    intro s hs
    simp only [finding,entryLine]
    cases hpage : entry.page with
    | some page =>
      rw [hpage] at hs
      rw [← show page = s from Option.some.inj hs]
      exact Line.locates_ofEntry "page" page site.body.raw
    | none =>
      rw [hpage] at hs
      rw [show entry.label = some s from hs]
      exact Line.locates_ofEntry "label" s site.body.raw
  unlocated := by
    intro hnone
    obtain ⟨hpage,hlabel⟩ := Option.or_eq_none_iff.mp hnone
    simp [finding,entryLine,hpage,hlabel]

end SiteNavigation

namespace Project

/-- The rule about navigation on a loaded project. Without a site, and without pages, it notes the
one check that it leaves out. Else there is one finding for the home page if that is not named or
leads to no page, and behind it one for each such navigation entry in order, and no other. -/
theorem load_checks_navigation (unit : AnalysisUnit) (files : List SourceFile) :
    let p := (load unit files).value
    (p.site = none → SiteNavigation.analyze p =
      .skip "site-navigation" "navigation-targets"
        "SITE file not supplied: home page and navigation targets cannot be verified") ∧
    ∀ site, p.site = some site → site.Shape (Schema.IsRecord 2) ∧
      (p.pages = ∅ → SiteNavigation.analyze p =
        .skip "site-navigation" "page-targets"
          "PAGE files not supplied: navigation targets cannot be resolved") ∧
      (p.pages ≠ ∅ → ∃ home entries, SiteNavigation.analyze p = .found (home ++ entries) ∧
        (p.Reaches site.homePage ∧ home = [] ∨ ¬p.Reaches site.homePage ∧ ∃ f, home = [f] ∧
          SiteNavigation.Reports site (SiteNavigation.homeMessage site.homePage) site.homePage f) ∧
        List.Forall₂ (fun entry f => SiteNavigation.Reports site
            (SiteNavigation.entryMessage entry) (entry.page.or entry.label) f)
          (site.navigation.filter fun entry => ¬p.Reaches entry.page) entries) := by
  intro p
  have htruth : p.Truthful := load_truthful unit files
  refine ⟨SiteNavigation.analyze_noSite,fun site hsite => ⟨load_site_shape hsite,fun hnil => ?_,
    fun hne => ?_⟩⟩
  · have hpages : p.tracker.has .page = false :=
      (htruth.has_eq_false .page).mpr (Catalog.size_eq_zero.mpr hnil)
    exact SiteNavigation.analyze_noPage hsite hpages
  · have hpages : p.tracker.has .page = true := (htruth .page).mpr (Catalog.size_pos.mpr hne)
    refine ⟨_,_,SiteNavigation.analyze_eq hsite hpages,?_,?_⟩
    · by_cases hreaches : p.Reaches site.homePage
      · exact Or.inl ⟨hreaches,if_pos hreaches⟩
      · exact Or.inr ⟨hreaches,_,if_neg hreaches,SiteNavigation.reports_home site⟩
    · rw [List.forall₂_map_right_iff,List.forall₂_same]
      intro entry _
      exact SiteNavigation.reports_entry site entry

/-- A site without its home page; one entry leads to a page and three do not. -/
def lostFiles : List SourceFile :=
  [("s.site","\x7b\"homePage\":\"start\",\n\"navigation\":[\x7b\"page\":\"h\"\x7d,\n" ++
    "\x7b\"label\":\"Old\",\"page\":\"old\"\x7d," ++
    "\x7b\"label\":\"Bare\",\"page\":null\x7d,\x7b\x7d]\x7d"),
   ("h.page","\x7b\"id\":\"h\"\x7d")]

theorem load_checks_navigation_lost :
    let p := (load .individualFiles lostFiles).value
    p.pages ≠ ∅ ∧ ∃ site home old bare blank,
      p.site = some site ∧ SiteNavigation.analyze p = .found [home,old,bare,blank] ∧
      home.message = "home page \"start\" does not exist" ∧
      old.message = "navigation entry \"Old\" targets unknown page \"old\"" ∧
      Line.Locates "old" site.body.raw old.line ∧
      bare.message = "navigation entry \"Bare\" has no target page" ∧
      Line.Locates "Bare" site.body.raw bare.line ∧
      blank.message = "navigation entry \"<unlabelled>\" has no target page" ∧ blank.line = 0 := by
  dsimp only
  have hchecked := load_checks_navigation .individualFiles lostFiles
  have heval : (load .individualFiles lostFiles).value.pages.isEmpty = false ∧
      (load .individualFiles lostFiles).value.site.map (fun site => (site.homePage,
        site.navigation.filter fun entry =>
          ¬(load .individualFiles lostFiles).value.Reaches entry.page)) =
        some (some "start",[⟨some "Old",some "old"⟩,⟨some "Bare",none⟩,⟨none,none⟩]) ∧
      ¬(load .individualFiles lostFiles).value.Reaches (some "start") := by
    decide +kernel
  generalize (load .individualFiles lostFiles).value = p at *
  obtain ⟨hne,hsite,hstart⟩ := heval
  have hpages : p.pages ≠ ∅ := Catalog.isEmpty_eq_false.mp hne
  obtain ⟨site,hsite,hsame⟩ := Option.map_eq_some_iff.mp hsite
  obtain ⟨hhome,hlost⟩ := Prod.mk.inj hsame
  obtain ⟨-,-,hfound⟩ := hchecked.2 site hsite
  obtain ⟨home,entries,hanalyze,hhomes,hentries⟩ := hfound hpages
  rw [hhome] at hhomes
  rw [hlost] at hentries
  obtain ⟨hreaches,-⟩ | ⟨-,f,rfl,hf⟩ := hhomes
  · exact absurd hreaches hstart
  · obtain _ | ⟨hold,_ | ⟨hbare,_ | ⟨hblank,⟨⟩⟩⟩⟩ := hentries
    exact ⟨hpages,site,_,_,_,_,hsite,hanalyze,hf.message,hold.message,hold.located _ rfl,
      hbare.message,hbare.located _ rfl,hblank.message,hblank.unlocated rfl⟩

end Project
end AppLint
