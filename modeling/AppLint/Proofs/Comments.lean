import AppLint.Proofs.JsonEquality
import AppLint.Proofs.RuleContract
import AppLint.Proofs.WithoutText

/-! Commented-out fields have no influence on an analysis, but for the lines of its findings. Rules do
not look at the texts of documents, other than to look up lines. -/
namespace AppLint

def Finding.withoutLine (f : Finding) : Finding := { f with line := 0 }

namespace Analysis

def withoutLines (a : Analysis) : Analysis :=
  ⟨a.skipped,a.result.map (List.map Finding.withoutLine)⟩

@[simp] theorem withoutLines_found (fs : List Finding) :
    (found fs).withoutLines = found (fs.map Finding.withoutLine) := rfl

end Analysis

def Reference.withoutText (r : Reference) : Reference := { r with body := r.body.withoutText }

/-- Findings for the members that are kept are the same, the lines apart, if neither the choice nor
the findings depend on what is erased. -/
theorem Analysis.found_erased {α : Type} {erase : α → α} {keep keep' : α → Bool}
    {finding : α → Finding} (hkeep : ∀ a, keep (erase a) = keep' a)
    (hfinding : ∀ a, (finding (erase a)).withoutLine = (finding a).withoutLine) (xs : List α) :
    (found (((xs.map erase).filter keep).map finding)).withoutLines =
      (found ((xs.filter keep').map finding)).withoutLines := by
  have hkeep' : keep ∘ erase = keep' := funext hkeep
  simp only [withoutLines_found,List.filter_map,List.map_map,hkeep',Function.comp_def,hfinding]

namespace Project

theorem pages_withoutText (p : Project) :
    p.withoutText.pages.values = p.pages.values.map Page.withoutText :=
  Catalog.values_map _ Page.id_withoutText p.pages

theorem fragments_withoutText (p : Project) :
    p.withoutText.fragments.values = p.fragments.values.map Fragment.withoutText :=
  Catalog.values_map _ Fragment.id_withoutText p.fragments

theorem layouts_withoutText (p : Project) :
    p.withoutText.layouts = p.layouts.map fun (body,components) => (body.withoutText,components) := by
  simp only [layouts,withoutText,Catalog.values_map,List.map_append,List.map_map]
  rfl

theorem references_withoutText (p : Project) (name? : Component → Option String) :
    p.withoutText.references name? = (p.references name?).map Reference.withoutText := by
  simp only [references,layouts_withoutText,List.flatMap_map,List.map_flatMap,List.map_map]
  rfl

theorem embeddings_withoutText (p : Project) :
    p.withoutText.embeddings = p.embeddings.map Reference.withoutText :=
  p.references_withoutText _

theorem bindings_withoutText (p : Project) :
    p.withoutText.bindings = p.bindings.map Reference.withoutText :=
  p.references_withoutText _

theorem documents_withoutText (p : Project) :
    p.withoutText.documents = p.documents.map Document.withoutText := by
  simp only [documents,withoutText,Catalog.values_map,List.map_append,List.map_map,
    Option.toList_map]
  rfl

end Project

namespace SiteNavigation

theorem checkHomePage_withoutText (p : Project) (site : Site) :
    (checkHomePage p.withoutText site.withoutText).map Finding.withoutLine =
      (checkHomePage p site).map Finding.withoutLine := by
  have hhome : site.withoutText.homePage = site.homePage := rfl
  unfold checkHomePage
  rw [hhome]
  cases site.homePage with
  | none => rfl
  | some home =>
    simp only [Project.page?_withoutText]
    cases p.page? home <;> rfl

theorem checkEntry_withoutText (p : Project) (site : Site) (entry : NavigationEntry) :
    (checkEntry p.withoutText site.withoutText entry).map Finding.withoutLine =
      (checkEntry p site entry).map Finding.withoutLine := by
  unfold checkEntry
  cases entry.page with
  | none => rfl
  | some page =>
    simp only [Project.page?_withoutText]
    cases p.page? page <;> rfl

theorem analyze_withoutText (p : Project) :
    (analyze p.withoutText).withoutLines = (analyze p).withoutLines := by
  cases hsite : p.site with
  | none =>
    have hsite' : p.withoutText.site = none := by simp [Project.withoutText,hsite]
    rw [analyze_noSite hsite,analyze_noSite hsite']
  | some site =>
    have hsite' : p.withoutText.site = some site.withoutText := by
      simp [Project.withoutText,hsite]
    cases hpages : p.tracker.has .page with
    | false => rw [analyze_noPage hsite hpages,analyze_noPage hsite' hpages]
    | true =>
      rw [analyze_site hsite hpages,analyze_site hsite' hpages]
      simp only [Analysis.withoutLines_found,List.map_append,List.map_flatMap,
        checkHomePage_withoutText,checkEntry_withoutText]
      rfl

end SiteNavigation

theorem FragmentReference.analyze_withoutText (p : Project) :
    (analyze p.withoutText).withoutLines = (analyze p).withoutLines := by
  have hhas : p.withoutText.tracker.has .fragment = p.tracker.has .fragment := rfl
  unfold analyze
  rw [p.embeddings_withoutText,List.isEmpty_map,hhas]
  split_ifs
  · rfl
  · rfl
  · apply Analysis.found_erased
    · intro r
      -- A fragment is there with its text just if it is there without it.
      exact (congrArg Option.isNone (p.fragment?_withoutText r.target)).trans Option.isNone_map
    · intro r
      rfl

theorem FragmentUnused.analyze_withoutText (p : Project) :
    (analyze p.withoutText).withoutLines = (analyze p).withoutLines := by
  have hhas : p.withoutText.tracker.has .page = p.tracker.has .page := rfl
  have hempty : p.withoutText.fragments.isEmpty = p.fragments.isEmpty :=
    Catalog.isEmpty_map _ Fragment.id_withoutText p.fragments
  have htargets : p.withoutText.embeddings.map (·.target) = p.embeddings.map (·.target) := by
    rw [p.embeddings_withoutText,List.map_map]
    rfl
  unfold analyze
  rw [hempty,hhas,htargets,p.fragments_withoutText]
  split_ifs
  · rfl
  · rfl
  · dsimp only
    apply Analysis.found_erased <;> intro f <;> rfl

theorem DataBinding.analyze_withoutText (p : Project) :
    (analyze p.withoutText).withoutLines = (analyze p).withoutLines := by
  have hprovider : p.withoutText.dataProvider =
      p.dataProvider.map DataProviderDocument.withoutText := rfl
  unfold analyze
  rw [p.bindings_withoutText,List.isEmpty_map,hprovider]
  split_ifs
  · rfl
  · cases p.dataProvider with
    | none => rfl
    | some d => apply Analysis.found_erased <;> intro r <;> rfl

namespace InsecureEndpoint

theorem check_withoutText (hosts : List String) (d : DataProviderDocument)
    (provider : DataProvider) :
    (check hosts d.withoutText provider).map Finding.withoutLine =
      (check hosts d provider).map Finding.withoutLine := by
  unfold check
  cases provider.url with
  | none => rfl
  | some url =>
    dsimp only
    split_ifs <;> rfl

theorem analyze_withoutText (hosts : List String) (p : Project) :
    (analyze hosts p.withoutText).withoutLines = (analyze hosts p).withoutLines := by
  have hprovider : p.withoutText.dataProvider =
      p.dataProvider.map DataProviderDocument.withoutText := rfl
  unfold analyze
  rw [hprovider]
  cases p.dataProvider with
  | none => rfl
  | some d =>
    simp only [Option.map_some,Analysis.withoutLines_found,List.map_filterMap,check_withoutText]
    rfl

end InsecureEndpoint

namespace BuiltinRule

/-- Rules about scripts see the same scripts; the others look up texts for their lines only. -/
theorem analyze_withoutText (p : Project) (b : BuiltinRule) :
    (b.analyze p.withoutText).withoutLines = (b.analyze p).withoutLines := by
  cases b with
  | pageTitle =>
    simp only [analyze,PageTitle.analyze,p.pages_withoutText]
    apply Analysis.found_erased <;> intro page <;> rfl
  | componentLimit limit =>
    simp only [analyze,ComponentLimit.analyze,p.pages_withoutText]
    apply Analysis.found_erased <;> intro page <;> rfl
  | fragmentReference => exact FragmentReference.analyze_withoutText p
  | fragmentUnused => exact FragmentUnused.analyze_withoutText p
  | dataBinding => exact DataBinding.analyze_withoutText p
  | insecureEndpoint hosts => exact InsecureEndpoint.analyze_withoutText hosts p
  | siteNavigation => exact SiteNavigation.analyze_withoutText p
  | hardcodedSecret extra | debugStatement | unknownVariable known => rfl
  | forbiddenId forbidden =>
    have hhas : p.withoutText.tracker.has .page = p.tracker.has .page := rfl
    simp only [analyze,ForbiddenId.analyze]
    rw [hhas,p.pages_withoutText]
    split_ifs
    · rfl
    · apply Analysis.found_erased <;> intro page <;> rfl

end BuiltinRule

namespace DeclaredRule

theorem checkDocument_withoutText (r : DeclaredRule) (d : Document) :
    (r.checkDocument d.withoutText).map Finding.withoutLine =
      (r.checkDocument d).map Finding.withoutLine := by
  simp only [checkDocument,Document.tree_withoutText,Document.path_withoutText,List.map_map]
  rfl

theorem analyze_withoutText (p : Project) (r : DeclaredRule) :
    (r.analyze p.withoutText).withoutLines = (r.analyze p).withoutLines := by
  have hdocuments : (r.checkDocuments p.withoutText).map Finding.withoutLine =
      (r.checkDocuments p).map Finding.withoutLine := by
    simp only [checkDocuments,p.documents_withoutText,List.filter_map,List.flatMap_map,
      List.map_flatMap,checkDocument_withoutText,Function.comp_def,Document.type_withoutText,
      Document.path_withoutText]
  simp only [analyze,Analysis.withoutLines_found,List.map_append,hdocuments]
  rfl

end DeclaredRule

structure Finding.SameButLine (f g : Finding) : Prop where
  ruleId : f.ruleId = g.ruleId
  severity : f.severity = g.severity
  message : f.message = g.message
  path : f.path = g.path

theorem Finding.sameButLine_of_withoutLine {f g : Finding} (h : f.withoutLine = g.withoutLine) :
    f.SameButLine g := by
  simp only [withoutLine,mk.injEq] at h
  obtain ⟨hruleId,hseverity,hmessage,hpath,-⟩ := h
  exact ⟨hruleId,hseverity,hmessage,hpath⟩

namespace Analysis

/-- Two analyses succeed with the same findings at the same positions, the lines apart, and leave
out the same checks. -/
structure AgreesButLines (a b : Analysis) : Prop where
  succeeds : a.result = .ok a.findings ∧ b.result = .ok b.findings
  findings : List.Forall₂ Finding.SameButLine a.findings b.findings
  skipped : a.skipped = b.skipped

theorem agreesButLines_of_withoutLines {a b : Analysis} (ha : a.result = .ok a.findings)
    (hb : b.result = .ok b.findings) (h : a.withoutLines = b.withoutLines) : a.AgreesButLines b := by
  simp only [withoutLines,mk.injEq] at h
  obtain ⟨hskipped,hresult⟩ := h
  rw [ha,hb] at hresult
  have hfindings : a.findings.map Finding.withoutLine = b.findings.map Finding.withoutLine :=
    Except.ok.inj hresult
  rw [← List.forall₂_eq_eq_eq,List.forall₂_map_left_iff,List.forall₂_map_right_iff] at hfindings
  exact ⟨⟨ha,hb⟩,hfindings.imp fun _ _ => Finding.sameButLine_of_withoutLine,hskipped⟩

end Analysis

namespace Project

/-- If two batches differ in commented-out fields only, the loaded projects differ in the texts of
their documents only, and all rules, whatever their settings, find the same in them but for lines
and leave out the same checks. -/
theorem load_ignores_comments (unit : AnalysisUnit) (files files' : List SourceFile)
    (h : List.Forall₂ SourceFile.SameButComments files files') :
    let p := (load unit files).value
    let q := (load unit files').value
    p.withoutText = q.withoutText ∧ p.scripts = q.scripts ∧ p.parseErrors = q.parseErrors ∧
    p.tracker = q.tracker ∧
    (∀ b : BuiltinRule, (b.analyze p).AgreesButLines (b.analyze q)) ∧
    ∀ r : DeclaredRule, (r.analyze p).AgreesButLines (r.analyze q) := by
  intro p q
  have hpq : p.withoutText = q.withoutText := load_withoutText unit h
  have hscripts : p.withoutText.scripts = q.withoutText.scripts := by rw [hpq]
  have herrors : p.withoutText.parseErrors = q.withoutText.parseErrors := by rw [hpq]
  have htracker : p.withoutText.tracker = q.withoutText.tracker := by rw [hpq]
  refine ⟨hpq,hscripts,herrors,htracker,fun b => ?_,fun r => ?_⟩
  · apply Analysis.agreesButLines_of_withoutLines (b.analyze_succeeds p) (b.analyze_succeeds q)
    rw [← b.analyze_withoutText p,hpq,b.analyze_withoutText q]
  · apply Analysis.agreesButLines_of_withoutLines (r.analyze_succeeds p) (r.analyze_succeeds q)
    rw [← r.analyze_withoutText p,hpq,r.analyze_withoutText q]

/-- A page with a title that is commented out, and the same page with a note in front of it. -/
theorem load_ignores_comments_but_lines :
    let files := [("a.page","\x7b\"id\":\"a\",\"_title\":\"Draft\"\x7d")]
    let files' := [("a.page","\x7b\"_note\":1,\n\"id\":\"a\"\x7d")]
    let p := (load .fullApp files).value
    let q := (load .fullApp files').value
    List.Forall₂ SourceFile.SameButComments files files' ∧
      p.withoutText = q.withoutText ∧ p.tracker = q.tracker ∧
      (BuiltinRule.pageTitle.analyze p).AgreesButLines (BuiltinRule.pageTitle.analyze q) ∧
      (BuiltinRule.pageTitle.analyze p).findings.map (·.line) = [1] ∧
      (BuiltinRule.pageTitle.analyze q).findings.map (·.line) = [2] := by
  intro files files' p q
  have htree : Json.parse "\x7b\"id\":\"a\",\"_title\":\"Draft\"\x7d" =
      .ok (.object [("_title",.string "Draft"),("id",.string "a")]) :=
    Except.toOption_eq_some.mp (by decide +kernel)
  have htree' : Json.parse "\x7b\"_note\":1,\n\"id\":\"a\"\x7d" =
      .ok (.object [("_note",.number (.integer 1)),("id",.string "a")]) :=
    Except.toOption_eq_some.mp (by decide +kernel)
  have hsame : List.Forall₂ SourceFile.SameButComments files files' :=
    .cons ⟨rfl,Or.inr ⟨.page,_,_,by decide +kernel,by decide,htree,htree',by decide +kernel⟩⟩ .nil
  obtain ⟨hproject,-,-,htracker,hrules,-⟩ := load_ignores_comments .fullApp files files' hsame
  exact ⟨hsame,hproject,htracker,hrules .pageTitle,by decide +kernel,by decide +kernel⟩

end Project
end AppLint
