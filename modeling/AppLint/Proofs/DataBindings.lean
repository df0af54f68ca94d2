import AppLint.Proofs.Coverage
import AppLint.Proofs.Mentions

/-! Bindings of components to data providers: those to providers that are not declared are reported, and
without a data provider document the check is left out just if there is something to check. -/
namespace AppLint

namespace DataBinding

def Unbound (d : Document) : Prop :=
  ∀ position c source, Component.atPosition? d.tree position = some c → ¬c.BoundTo source

def report (m : Mention) : Finding where
  ruleId := "data-binding"
  severity := .error
  message := "data source " ++ Text.quoted m.name ++ " is not a declared provider"
  path := m.document.path
  line := m.document.body.lineOfEntry "dataSource" m.name

theorem isNone_provider? (d : DataProviderDocument) (id : String) :
    (d.provider? id).isNone = decide (id ∉ d.providers.map DataProvider.id) := by
  rw [Bool.eq_iff_iff,decide_eq_true_iff,Option.isNone_iff_eq_none]
  simp [DataProviderDocument.provider?]

theorem bindings_eq_nil {p : Project} :
    p.bindings = [] ↔ p.mentions Component.dataSource? = [] := by
  rw [Project.bindings,Project.references_eq,List.map_eq_nil_iff]

theorem analyze_of_some {p : Project} {d : DataProviderDocument} (hd : p.dataProvider = some d) :
    analyze p = .found (((p.mentions Component.dataSource?).filter fun m =>
      m.name ∉ d.providers.map DataProvider.id).map report) := by
  have hfound : (p.bindings.filter fun r => (d.provider? r.target).isNone).map finding =
      ((p.mentions Component.dataSource?).filter fun m =>
        m.name ∉ d.providers.map DataProvider.id).map report := by
    rw [Project.bindings,Project.references_eq,List.filter_map,List.map_map]
    simp only [Function.comp_def,isNone_provider?]
    rfl
  rw [← hfound]
  unfold analyze
  by_cases hempty : p.bindings = []
  · simp [hempty]
  · simp [hempty,hd]

theorem analyze_of_none {p : Project} (hnone : p.dataProvider = none) :
    analyze p =
      if p.mentions Component.dataSource? = [] then .found []
      else .skip "data-binding" "provider-exists"
        "DATA_PROVIDER file not supplied: data bindings cannot be verified" := by
  unfold analyze
  simp only [List.isEmpty_iff,bindings_eq_nil,hnone]
  rfl

theorem analyze_congr {p q : Project} (hbindings : p.bindings = q.bindings)
    (hprovider : p.dataProvider = q.dataProvider) : analyze p = analyze q := by
  simp only [analyze,hbindings,hprovider]

theorem Unbound.within_eq_nil {d : Document} (h : Unbound d) :
    Mention.within Component.dataSource? d = [] := by
  rw [List.eq_nil_iff_forall_not_mem]
  intro m hm
  obtain ⟨-,c,hc,hname⟩ := Mention.mem_within.mp hm
  exact h m.position c m.name hc (Component.dataSource?_eq_some.mp hname)

end DataBinding

namespace Project

def keeping (keep : Document → Bool) (p : Project) : Project :=
  { p with
    pages := p.pages.filter fun d => keep (.page d)
    fragments := p.fragments.filter fun d => keep (.fragment d) }

theorem layoutDocuments_keeping (keep : Document → Bool) (p : Project) :
    (p.keeping keep).layoutDocuments = p.layoutDocuments.filter keep := by
  simp only [layoutDocuments,keeping,Catalog.values_filter,List.filter_append,List.filter_map]
  rfl

theorem mentions_keeping {name? : Component → Option String} {keep : Document → Bool} {p : Project}
    (h : ∀ d ∈ p.layoutDocuments, keep d = false → Mention.within name? d = []) :
    (p.keeping keep).mentions name? = p.mentions name? := by
  rw [mentions,mentions,layoutDocuments_keeping]
  generalize p.layoutDocuments = ds at h
  induction ds with
  | nil => rfl
  | cons d ds ih =>
    have hrest := ih fun e he => h e (List.mem_cons_of_mem _ he)
    cases hkeep : keep d with
    | true => rw [List.filter_cons_of_pos hkeep,List.flatMap_cons,List.flatMap_cons,hrest]
    | false =>
      have hnil := h d List.mem_cons_self hkeep
      rw [List.filter_cons_of_neg (by simp [hkeep]),List.flatMap_cons,hnil,hrest,List.nil_append]

/-- How the bindings of a project are checked, where `ms` are the bindings to data providers. -/
structure BindingsChecked (p : Project) (ms : List Mention) : Prop where
  /-- There is one report for each binding to a provider that is not declared, in order. -/
  reported : ∀ d, p.dataProvider = some d → DataBinding.analyze p =
    .found ((ms.filter fun m => m.name ∉ d.providers.map DataProvider.id).map DataBinding.report)
  /-- A document without any binding gives nothing to report. -/
  silent : ∀ m ∈ ms, ¬DataBinding.Unbound m.document
  /-- Such documents can be dropped beforehand. -/
  dropped : ∀ keep : Document → Bool,
    (∀ d ∈ p.layoutDocuments, keep d = false → DataBinding.Unbound d) →
      DataBinding.analyze (p.keeping keep) = DataBinding.analyze p
  /-- Without a data provider document nothing is found. -/
  nothing : p.dataProvider = none → (DataBinding.analyze p).result = .ok []
  /-- Then the check is left out just if some component is bound. -/
  skipped : p.dataProvider = none →
    ((DataBinding.analyze p).Leaves "data-binding" "provider-exists" ↔
      ∃ d ∈ p.layoutDocuments, ∃ position c source,
        Component.atPosition? d.tree position = some c ∧ c.BoundTo source)

/-- The bindings of a batch are checked exactly. -/
theorem load_checks_bindings (unit : AnalysisUnit) (files : List SourceFile) :
    ∃ ms, (load unit files).value.Enumerates (fun source c => c.BoundTo source) ms ∧
      (load unit files).value.BindingsChecked ms := by
  generalize (load unit files).value = p
  have henum : p.Enumerates (fun source c => c.BoundTo source) (p.mentions Component.dataSource?) :=
    p.enumerates fun c s => Component.dataSource?_eq_some
  refine ⟨p.mentions Component.dataSource?,henum,?_⟩
  constructor
  case reported =>
    intro d hd
    exact DataBinding.analyze_of_some hd
  case silent =>
    intro m hm hunbound
    obtain ⟨-,c,hc,hname⟩ := (henum.mem_iff m).mp hm
    exact hunbound m.position c m.name hc hname
  case dropped =>
    intro keep hkeep
    have hmentions : (p.keeping keep).mentions Component.dataSource? =
        p.mentions Component.dataSource? :=
      mentions_keeping fun d hd hdrop => (hkeep d hd hdrop).within_eq_nil
    refine DataBinding.analyze_congr ?_ rfl
    rw [bindings,bindings,references_eq,references_eq,hmentions]
  case nothing =>
    intro hnone
    rw [DataBinding.analyze_of_none hnone]
    split_ifs <;> rfl
  case skipped =>
    intro hnone
    rw [DataBinding.analyze_of_none hnone]
    -- the list of mentions is empty just if no component is bound
    split_ifs with hempty
    · constructor
      · rintro ⟨check,hcheck,-⟩
        cases hcheck
      · rintro ⟨d,hd,position,c,source,hc,hbound⟩
        have hmem := (henum.mem_iff ⟨d,position,source⟩).mpr ⟨hd,c,hc,hbound⟩
        rw [hempty] at hmem
        cases hmem
    · refine ⟨fun _ => ?_,fun _ => Analysis.leaves_skip _ _ _⟩
      obtain ⟨m,hm⟩ := List.exists_mem_of_ne_nil _ hempty
      obtain ⟨hd,c,hc,hname⟩ := (henum.mem_iff m).mp hm
      exact ⟨m.document,hd,m.position,c,m.name,hc,hname⟩

/-- A page with a binding below a binding, one that is no string, and one that is commented out. -/
def boundPageFile : SourceFile :=
  ("a.page","\x7b\"id\":\"a\",\"components\":[\x7b\"dataSource\":\"o\",\"children\":[" ++
    "\x7b\"dataSource\":1\x7d,\x7b\"_dataSource\":\"y\"\x7d,\x7b\"dataSource\":\"x\"\x7d]\x7d]\x7d")

def providerFile : SourceFile := ("d.dataprovider","\x7b\"providers\":[\x7b\"id\":\"o\"\x7d]\x7d")

theorem load_checks_bindings_below :
    let p := (load .individualFiles [boundPageFile,providerFile]).value
    let q := (load .individualFiles [boundPageFile]).value
    (DataBinding.analyze p).findings.map (fun f => (f.message,f.path)) =
      [("data source \"x\" is not a declared provider","a.page")] ∧
    (∃ ms, p.Enumerates (fun source c => c.BoundTo source) ms ∧
      (ms.filter fun m => m.name ∉ ["o"]).length = 1) ∧
    q.dataProvider = none ∧ (DataBinding.analyze q).result = .ok [] ∧
    ∃ d ∈ q.layoutDocuments, ∃ position c source,
      Component.atPosition? d.tree position = some c ∧ c.BoundTo source := by
  dsimp only
  obtain ⟨ms,hms,hchecked⟩ := load_checks_bindings .individualFiles [boundPageFile,providerFile]
  obtain ⟨ms',-,hchecked'⟩ := load_checks_bindings .individualFiles [boundPageFile]
  have hdeclared : (DataBinding.analyze
        (load .individualFiles [boundPageFile,providerFile]).value).findings.map
          (fun f => (f.message,f.path)) =
        [("data source \"x\" is not a declared provider","a.page")] ∧
      (load .individualFiles [boundPageFile,providerFile]).value.dataProvider.map
        (·.providers.map DataProvider.id) = some ["o"] := by decide +kernel
  have hmissing : (load .individualFiles [boundPageFile]).value.dataProvider.isNone = true ∧
      (DataBinding.analyze (load .individualFiles [boundPageFile]).value).skipped.map
        (fun c => (c.rule,c.check)) = [("data-binding","provider-exists")] := by decide +kernel
  generalize (load .individualFiles [boundPageFile,providerFile]).value = p at *
  generalize (load .individualFiles [boundPageFile]).value = q at *
  obtain ⟨hfindings,hproviders⟩ := hdeclared
  obtain ⟨hnone,hskipped⟩ := hmissing
  obtain ⟨d,hd,hids⟩ := Option.map_eq_some_iff.mp hproviders
  have hlength := congrArg List.length hfindings
  rw [hchecked.reported d hd,hids] at hlength
  have hprovider : q.dataProvider = none := Option.isNone_iff_eq_none.mp hnone
  have hleaves : (DataBinding.analyze q).Leaves "data-binding" "provider-exists" := by
    obtain ⟨check,hcheck,hnames⟩ := List.map_eq_singleton_iff.mp hskipped
    obtain ⟨hrule,hname⟩ := Prod.mk.inj hnames
    exact ⟨check,by simp [hcheck],hrule,hname⟩
  refine ⟨hfindings,⟨ms,hms,by simpa using hlength⟩,hprovider,hchecked'.nothing hprovider,?_⟩
  exact (hchecked'.skipped hprovider).mp hleaves

end Project
end AppLint
