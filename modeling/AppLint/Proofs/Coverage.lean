import AppLint.Proofs.Presence
import AppLint.Proofs.Schedule

/-! What could not be verified never passes as clean: each reference of a loaded batch leads to
something that was loaded, or is reported, or its check is listed as left out. -/
namespace AppLint

namespace Project

/-- A component of a page or fragment of the project, with the body of that document. -/
inductive HasComponent (p : Project) : Body → Component → Prop
  | page (d : Page) (c : Component) (hd : d ∈ p.pages.values) (hc : c ∈ d.components) :
      HasComponent p d.body c
  | fragment (d : Fragment) (c : Component) (hd : d ∈ p.fragments.values) (hc : c ∈ d.components) :
      HasComponent p d.body c

theorem mem_references {p : Project} {name? : Component → Option String} {body : Body}
    {target : String} :
    ⟨body,target⟩ ∈ p.references name? ↔ ∃ c, p.HasComponent body c ∧ name? c = some target := by
  have hlayout : ⟨body,target⟩ ∈ p.references name? ↔
      ∃ cs, (body,cs) ∈ p.layouts ∧ ∃ c ∈ cs, name? c = some target := by
    unfold references
    rw [List.mem_flatMap]
    constructor
    · rintro ⟨⟨b,cs⟩,hmem,hr⟩
      obtain ⟨t,ht,heq⟩ := List.mem_map.mp hr
      cases heq
      exact ⟨cs,hmem,List.mem_filterMap.mp ht⟩
    · rintro ⟨cs,hmem,hc⟩
      exact ⟨(body,cs),hmem,List.mem_map.mpr ⟨target,List.mem_filterMap.mpr hc,rfl⟩⟩
  rw [hlayout]
  constructor
  · rintro ⟨cs,hmem,c,hc,hname⟩
    rcases List.mem_append.mp hmem with hpage | hfragment
    · obtain ⟨d,hd,heq⟩ := List.mem_map.mp hpage
      cases heq
      exact ⟨c,.page d c hd hc,hname⟩
    · obtain ⟨d,hd,heq⟩ := List.mem_map.mp hfragment
      cases heq
      exact ⟨c,.fragment d c hd hc,hname⟩
  · rintro ⟨c,hcomponent,hname⟩
    cases hcomponent with
    | page d _ hd hc =>
      exact ⟨d.components,List.mem_append_left _ (List.mem_map.mpr ⟨d,hd,rfl⟩),c,hc,hname⟩
    | fragment d _ hd hc =>
      exact ⟨d.components,List.mem_append_right _ (List.mem_map.mpr ⟨d,hd,rfl⟩),c,hc,hname⟩

end Project

namespace Analysis

def Finds (a : Analysis) (rule path message : String) : Prop :=
  ∃ f ∈ a.findings, f.ruleId = rule ∧ f.path = path ∧ f.message = message

def Leaves (a : Analysis) (rule check : String) : Prop :=
  ∃ c ∈ a.skipped, c.rule = rule ∧ c.check = check

theorem leaves_skip (rule check reason : String) : (skip rule check reason).Leaves rule check :=
  ⟨_,List.mem_singleton_self _,rfl,rfl⟩

end Analysis

theorem FragmentReference.verified {p : Project} {r : Reference} (h : r ∈ p.embeddings) :
    (p.fragment? r.target).isSome ∨
      (analyze p).Finds id r.body.path ("unknown fragment " ++ Text.quoted r.target) ∨
      p.tracker.has .fragment = false ∧ (analyze p).Leaves id "fragment-exists" := by
  have hne : p.embeddings.isEmpty = false := by simpa using List.ne_nil_of_mem h
  unfold analyze
  rw [if_neg (by simp [hne])]
  split
  · rename_i hmissing
    exact Or.inr (Or.inr ⟨by simpa using hmissing,Analysis.leaves_skip _ _ _⟩)
  · cases htarget : p.fragment? r.target with
    | some d => exact Or.inl rfl
    | none =>
      have hmem : r ∈ p.embeddings.filter fun r => (p.fragment? r.target).isNone :=
        List.mem_filter.mpr ⟨h,by simp [htarget]⟩
      exact Or.inr (Or.inl ⟨finding r,List.mem_map_of_mem hmem,rfl,rfl,rfl⟩)

theorem DataBinding.verified {p : Project} {r : Reference} (h : r ∈ p.bindings) :
    (∃ d, p.dataProvider = some d ∧ ∃ provider ∈ d.providers, provider.id = r.target) ∨
      (analyze p).Finds id r.body.path
        ("data source " ++ Text.quoted r.target ++ " is not a declared provider") ∨
      p.dataProvider = none ∧ (analyze p).Leaves id "provider-exists" := by
  have hne : p.bindings.isEmpty = false := by simpa using List.ne_nil_of_mem h
  unfold analyze
  rw [if_neg (by simp [hne])]
  cases hd : p.dataProvider with
  | none => exact Or.inr (Or.inr ⟨rfl,Analysis.leaves_skip _ _ _⟩)
  | some d =>
    cases htarget : d.provider? r.target with
    | some provider =>
      have hid : provider.id = r.target := by simpa using List.find?_some htarget
      exact Or.inl ⟨d,rfl,provider,List.mem_of_find?_eq_some htarget,hid⟩
    | none =>
      have hmem : r ∈ p.bindings.filter fun r => (d.provider? r.target).isNone :=
        List.mem_filter.mpr ⟨h,by simp [htarget]⟩
      exact Or.inr (Or.inl ⟨finding r,List.mem_map_of_mem hmem,rfl,rfl,rfl⟩)

theorem FragmentUnused.verified {p : Project} {f : Fragment} (h : f ∈ p.fragments.values) :
    (∃ r ∈ p.embeddings, r.target = f.id) ∨
      (analyze p).Finds id f.body.path ("fragment " ++ Text.quoted f.id ++ " is never used") ∨
      p.tracker.has .page = false ∧ (analyze p).Leaves id "fragment-usage" := by
  have hne : p.fragments ≠ ∅ := by
    intro hempty
    simp [hempty] at h
  unfold analyze
  rw [if_neg (mt Catalog.isEmpty_iff.mp hne)]
  split
  · rename_i hmissing
    exact Or.inr (Or.inr ⟨by simpa using hmissing,Analysis.leaves_skip _ _ _⟩)
  · by_cases hused : f.id ∈ p.embeddings.map (·.target)
    · obtain ⟨r,hr,hid⟩ := List.mem_map.mp hused
      exact Or.inl ⟨r,hr,hid⟩
    · have hmem : f ∈ p.fragments.values.filter
          fun f => !(p.embeddings.map (·.target)).contains f.id :=
        List.mem_filter.mpr ⟨h,by simpa using hused⟩
      exact Or.inr (Or.inl ⟨finding f,List.mem_map_of_mem hmem,rfl,rfl,rfl⟩)

namespace SiteNavigation

theorem homePage_verified {p : Project} {site : Site} (hsite : p.site = some site) :
    Leads p site.homePage ∨
      (analyze p).Finds id site.body.path (homeMessage site.homePage) ∨
      p.tracker.has .page = false ∧ (analyze p).Leaves id "page-targets" := by
  cases hpages : p.tracker.has .page with
  | false =>
    rw [analyze_noPage hsite hpages]
    exact Or.inr (Or.inr ⟨rfl,Analysis.leaves_skip _ _ _⟩)
  | true =>
    rw [analyze_site hsite hpages]
    obtain ⟨hleads,-⟩ | ⟨line,hline⟩ := checkHomePage_cases p site
    · exact Or.inl hleads
    · have hmem : finding site (homeMessage site.homePage) line ∈ checkHomePage p site := by
        simp [hline]
      exact Or.inr (Or.inl ⟨_,List.mem_append_left _ hmem,rfl,rfl,rfl⟩)

theorem entry_verified {p : Project} {site : Site} (hsite : p.site = some site)
    {entry : NavigationEntry} (hentry : entry ∈ site.navigation) :
    Leads p entry.page ∨
      (analyze p).Finds id site.body.path (entryMessage entry) ∨
      p.tracker.has .page = false ∧ (analyze p).Leaves id "page-targets" := by
  cases hpages : p.tracker.has .page with
  | false =>
    rw [analyze_noPage hsite hpages]
    exact Or.inr (Or.inr ⟨rfl,Analysis.leaves_skip _ _ _⟩)
  | true =>
    rw [analyze_site hsite hpages]
    obtain ⟨hleads,-⟩ | ⟨line,hline⟩ := checkEntry_cases p site entry
    · exact Or.inl hleads
    · have hmem : finding site (entryMessage entry) line ∈
          site.navigation.flatMap (checkEntry p site) :=
        List.mem_flatMap.mpr ⟨entry,hentry,by simp [hline]⟩
      exact Or.inr (Or.inl ⟨_,List.mem_append_right _ hmem,rfl,rfl,rfl⟩)

end SiteNavigation

def Engine.Runs (e : Engine) (b : BuiltinRule) : Prop := ∃ r ∈ e.rules, r.rule = .builtin b

namespace Report

def Finds (r : Report) (rule path message : String) : Prop :=
  ∃ f ∈ r.findings, f.ruleId = rule ∧ f.path = path ∧ f.message = message

/-- The report of an engine accounts for a project: what an active rule is to verify is in order,
or found, or there is no file to verify it by and the check is listed as left out. -/
structure Accounts (r : Report) (e : Engine) (p : Project) : Prop where
  fragmentReference : e.Runs .fragmentReference → ∀ body c target, p.HasComponent body c →
    c.fragmentRef? = some target →
      (p.fragment? target).isSome ∨
      r.Finds "fragment-reference" body.path ("unknown fragment " ++ Text.quoted target) ∨
      p.fragments = ∅ ∧ r.completeness.ListsPartial "fragment-reference" "fragment-exists"
  dataBinding : e.Runs .dataBinding → ∀ body c source, p.HasComponent body c →
    c.dataSource? = some source →
      (∃ d, p.dataProvider = some d ∧ ∃ provider ∈ d.providers, provider.id = source) ∨
      r.Finds "data-binding" body.path
        ("data source " ++ Text.quoted source ++ " is not a declared provider") ∨
      p.dataProvider = none ∧ r.completeness.ListsPartial "data-binding" "provider-exists"
  fragmentUnused : e.Runs .fragmentUnused → ∀ f ∈ p.fragments.values,
      (∃ body c, p.HasComponent body c ∧ c.fragmentRef? = some f.id) ∨
      r.Finds "fragment-unused" f.body.path ("fragment " ++ Text.quoted f.id ++ " is never used") ∨
      p.pages = ∅ ∧ r.completeness.ListsPartial "fragment-unused" "fragment-usage"
  homePage : e.Runs .siteNavigation → ∀ site, p.site = some site →
      SiteNavigation.Leads p site.homePage ∨
      r.Finds "site-navigation" site.body.path (SiteNavigation.homeMessage site.homePage) ∨
      p.pages = ∅ ∧ r.completeness.ListsPartial "site-navigation" "page-targets"
  navigation : e.Runs .siteNavigation → ∀ site, p.site = some site → ∀ entry ∈ site.navigation,
      SiteNavigation.Leads p entry.page ∨
      r.Finds "site-navigation" site.body.path (SiteNavigation.entryMessage entry) ∨
      p.pages = ∅ ∧ r.completeness.ListsPartial "site-navigation" "page-targets"
  notExecuted : r.completeness.ListsNotExecuted "site-navigation" ↔ p.site = none
  incomplete : p.site = none → r.completeness.isComplete = false ∧
    ∀ check, ¬ r.completeness.ListsPartial "site-navigation" check
  noted : e.Runs .siteNavigation → p.site = none →
    ∃ c ∈ r.completeness.skipped, c.rule = "site-navigation" ∧ c.check = "navigation-targets"

end Report

namespace Engine

section
variable {e : Engine} {order : List ActiveRule} {p : Project}
variable (hind : ∀ r ∈ e.rules, r.rule.Independent) (horder : order.Perm e.rules)
include hind horder

theorem analyze_notes {b : BuiltinRule} (hb : e.Runs b) {rule check : String}
    (hleaves : (b.analyze p).Leaves rule check) :
    ∃ c ∈ (e.analyze order p).value.1.completeness.skipped, c.rule = rule ∧ c.check = check := by
  obtain ⟨ran,hperm,-,-,hproject⟩ := analyze_value hind horder p
  obtain ⟨r,hr,hrule⟩ := hb
  obtain ⟨c,hc,hnames⟩ := hleaves
  have hskips : c ∈ r.skips p := by
    unfold ActiveRule.skips
    rwa [hrule]
  refine ⟨c,?_,hnames⟩
  rw [analyze_completeness,hproject]
  exact Tracker.mem_skipAll.mpr (Or.inr (List.mem_flatMap.mpr ⟨r,hperm.mem_iff.mpr hr,hskips⟩))

theorem analyze_finds {b : BuiltinRule} (hb : e.Runs b) {rule path message : String}
    (hfinds : (b.analyze p).Finds rule path message) :
    (e.analyze order p).value.1.Finds rule path message := by
  obtain ⟨ran,hperm,-,hfindings,-⟩ := analyze_value hind horder p
  obtain ⟨r,hr,hrule⟩ := hb
  obtain ⟨f,hf,hnames⟩ := hfinds
  have hstamped : { f with severity := r.severity } ∈ r.findings p := by
    have hf' : f ∈ (r.rule.analyze p).findings := by rwa [hrule]
    exact List.mem_map_of_mem hf'
  refine ⟨{ f with severity := r.severity },?_,hnames⟩
  rw [hfindings]
  exact List.mem_flatMap.mpr ⟨r,hperm.mem_iff.mpr hr,hstamped⟩

theorem analyze_has (type : FileType) :
    (e.analyze order p).value.1.completeness.has type = p.tracker.has type := by
  obtain ⟨ran,-,-,-,hproject⟩ := analyze_value hind horder p
  rw [analyze_completeness,hproject]
  exact Tracker.has_skipAll _ _ _

/-- What a rule verifies, finds or leaves out is verified, found or listed by the report. -/
theorem analyze_accounts {b : BuiltinRule} (hb : e.Runs b) {rule check path message : String}
    {inOrder missing : Prop}
    (hran : rule = "site-navigation" → p.tracker.has .site = true)
    (h : inOrder ∨ (b.analyze p).Finds rule path message ∨
      missing ∧ (b.analyze p).Leaves rule check) :
    inOrder ∨ (e.analyze order p).value.1.Finds rule path message ∨
      missing ∧ (e.analyze order p).value.1.completeness.ListsPartial rule check := by
  rcases h with hok | hfinds | ⟨hmissing,hleaves⟩
  · exact Or.inl hok
  · exact Or.inr (Or.inl (analyze_finds hind horder hb hfinds))
  · refine Or.inr (Or.inr ⟨hmissing,?_⟩)
    rw [Tracker.listsPartial_iff,Tracker.grouped_rulesPartiallyExecuted]
    refine ⟨analyze_notes hind horder hb hleaves,?_⟩
    rw [Tracker.mem_rulesNotExecuted,analyze_has hind horder]
    rintro ⟨hname,hnone⟩
    simp [hran hname] at hnone

theorem analyze_notExecuted :
    (e.analyze order p).value.1.completeness.ListsNotExecuted "site-navigation" ↔
      p.tracker.has .site = false := by
  rw [Tracker.listsNotExecuted_iff,Tracker.mem_rulesNotExecuted,analyze_has hind horder]
  exact and_iff_right rfl

end

/-- A partial upload is never mistaken for a clean one. -/
theorem analyze_never_passes_silently (unit : AnalysisUnit) (files : List SourceFile) (e : Engine)
    (order : List ActiveRule) (hind : ∀ r ∈ e.rules, r.rule.Independent)
    (horder : order.Perm e.rules) :
    Report.Accounts (e.analyze order (Project.load unit files).value).value.1 e
      (Project.load unit files).value := by
  have htruth := Project.load_truthful unit files
  have hsite := Project.load_has_site unit files
  generalize (Project.load unit files).value = p at htruth hsite ⊢
  have hfragments : p.tracker.has .fragment = false ↔ p.fragments = ∅ :=
    (htruth.has_eq_false .fragment).trans Catalog.size_eq_zero
  have hpages : p.tracker.has .page = false ↔ p.pages = ∅ :=
    (htruth.has_eq_false .page).trans Catalog.size_eq_zero
  have hnone : p.tracker.has .site = false ↔ p.site = none := by
    rw [hsite,Option.isSome_eq_false_iff,Option.isNone_iff_eq_none]
  constructor
  case fragmentReference =>
    intro hb body c target hc hname
    have h := FragmentReference.verified (Project.mem_references.mpr ⟨c,hc,hname⟩)
    rw [hfragments] at h
    exact analyze_accounts hind horder hb (by simp) h
  case dataBinding =>
    intro hb body c source hc hname
    have h := DataBinding.verified (Project.mem_references.mpr ⟨c,hc,hname⟩)
    exact analyze_accounts hind horder hb (by simp) h
  case fragmentUnused =>
    intro hb f hf
    have h := FragmentUnused.verified hf
    rw [hpages] at h
    refine analyze_accounts hind horder hb (by simp) (h.imp_left ?_)
    rintro ⟨⟨body,target⟩,hr,rfl⟩
    exact ⟨body,Project.mem_references.mp hr⟩
  case homePage =>
    intro hb site hs
    have h := SiteNavigation.homePage_verified hs
    rw [hpages] at h
    exact analyze_accounts hind horder hb (fun _ => by simp [hsite,hs]) h
  case navigation =>
    intro hb site hs entry hentry
    have h := SiteNavigation.entry_verified hs hentry
    rw [hpages] at h
    exact analyze_accounts hind horder hb (fun _ => by simp [hsite,hs]) h
  case notExecuted => exact (analyze_notExecuted hind horder).trans hnone
  case incomplete =>
    intro hs
    have hmissing := (analyze_has hind horder .site).trans (hnone.mpr hs)
    refine ⟨by simp [Tracker.isComplete,hmissing],fun check hlists => ?_⟩
    rw [Tracker.listsPartial_iff,Tracker.grouped_rulesPartiallyExecuted] at hlists
    exact hlists.2 (Tracker.mem_rulesNotExecuted.mpr ⟨rfl,hmissing⟩)
  case noted =>
    intro hb hs
    apply analyze_notes hind horder hb
    change (SiteNavigation.analyze p).Leaves _ _
    rw [SiteNavigation.analyze_noSite hs]
    exact Analysis.leaves_skip _ _ _

/-- A page that embeds a fragment, alone: nothing is found, and the report lists the check. -/
theorem analyze_example_lone_page :
    let files := [("a.page",
      "\x7b\"id\":\"a\",\"components\":[\x7b\"type\":\"fragment\",\"ref\":\"x\"\x7d]\x7d")]
    let e : Engine := ⟨[⟨.builtin .fragmentReference,.error⟩]⟩
    let report := (e.analyze e.rules (Project.load .fullApp files).value).value.1
    (∀ r ∈ e.rules, r.rule.Independent) ∧ report.findings = [] ∧
      report.completeness.ListsPartial "fragment-reference" "fragment-exists" ∧
      report.completeness.ListsNotExecuted "site-navigation" := by
  intro files e report
  have hind : ∀ r ∈ e.rules, r.rule.Independent := by simp [e,Rule.Independent]
  have hfindings : report.findings = [] := by decide +kernel
  have hnone : (Project.load .fullApp files).value.fragment? "x" = none :=
    Option.isNone_iff_eq_none.mp (by decide +kernel)
  have hsite : (Project.load .fullApp files).value.site = none :=
    Option.isNone_iff_eq_none.mp (by decide +kernel)
  have href : "x" ∈ (Project.load .fullApp files).value.embeddings.map (·.target) := by
    decide +kernel
  obtain ⟨⟨body,target⟩,hr,rfl⟩ := List.mem_map.mp href
  obtain ⟨c,hc,hname⟩ := Project.mem_references.mp hr
  have h := analyze_never_passes_silently .fullApp files e e.rules hind (List.Perm.refl _)
  refine ⟨hind,hfindings,?_,h.notExecuted.mpr hsite⟩
  rcases h.fragmentReference ⟨_,List.mem_singleton_self _,rfl⟩ body c "x" hc hname with
    hloaded | ⟨f,hf,-⟩ | ⟨-,hlists⟩
  · rw [hnone] at hloaded
    cases hloaded
  · change f ∈ report.findings at hf
    rw [hfindings] at hf
    cases hf
  · exact hlists

end Engine
end AppLint
