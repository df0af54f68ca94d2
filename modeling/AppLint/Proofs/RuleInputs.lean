import AppLint.Proofs.JsonEquality
import AppLint.Proofs.Presence
import AppLint.Proofs.RuleContract

/-! The documents that a rule is about decide what it finds in a loaded project. A rule that asks
the tracker for the files of a type learns no more than the documents of that type tell. -/
namespace AppLint

deriving instance DecidableEq for Body, Site

namespace Project

def Part.type : Part → FileType
  | pages | pageIds => .page
  | fragments => .fragment
  | dataProvider => .dataProvider
  | site => .site
  | scripts => .script

theorem fileCount_page_pos {p : Project} : 0 < p.fileCount .page ↔ ∃ id, id ∈ p.pages.keys := by
  rw [fileCount,← Catalog.length_keys,List.length_pos_iff_exists_mem]

theorem AgreeOn.fileCount_pos {p q : Project} {part : Part} (h : p.AgreeOn q part) :
    0 < p.fileCount part.type ↔ 0 < q.fileCount part.type := by
  cases part with
  | pageIds =>
    simp only [Part.type,fileCount_page_pos]
    exact exists_congr h
  | pages | fragments | dataProvider | site | scripts =>
    simp only [AgreeOn] at h
    simp only [Part.type,fileCount,h]

theorem Truthful.has_eq {p q : Project} {part : Part} (hp : Truthful p) (hq : Truthful q)
    (h : p.AgreeOn q part) : p.tracker.has part.type = q.tracker.has part.type := by
  rw [Bool.eq_iff_iff,hp,hq]
  exact h.fileCount_pos

theorem Truthful.withSkipped {p : Project} (h : Truthful p) (checks : List SkippedCheck) :
    Truthful (p.withSkipped checks) := by
  intro type
  have hcount : (p.withSkipped checks).fileCount type = p.fileCount type := by cases type <;> rfl
  rw [hcount]
  exact h type

end Project

namespace BuiltinRule

theorem exists_reads_of_asks {b : BuiltinRule} {type : FileType} (h : type ∈ b.asks) :
    ∃ part ∈ b.reads, part.type = type := by
  cases b <;> simp_all [asks,reads,Project.Part.type]

/-- If two loaded projects, with whatever checks noted as skipped, have the same documents of the
kinds that a rule is about, then the rule finds the same in both, in the same order, and leaves out
the same checks. All other documents and files may differ. -/
theorem analyze_decided_by_reads (b : BuiltinRule) (unit unit' : AnalysisUnit)
    (files files' : List SourceFile) (checks checks' : List SkippedCheck) :
    let p := (Project.load unit files).value.withSkipped checks
    let q := (Project.load unit' files').value.withSkipped checks'
    (∀ part ∈ b.reads, p.AgreeOn q part) → b.analyze p = b.analyze q := by
  intro p q hreads
  have hp : p.Truthful := (Project.load_truthful unit files).withSkipped checks
  have hq : q.Truthful := (Project.load_truthful unit' files').withSkipped checks'
  refine b.analyze_of_agree hreads fun type htype => ?_
  obtain ⟨part,hpart,rfl⟩ := exists_reads_of_asks htype
  exact hp.has_eq hq (hreads part hpart)

/-- One site in two batches; the page that it leads to has a title in the second only. -/
theorem analyze_decided_by_reads_titled :
    let site := ("s.site","\x7b\"homePage\":\"a\",\"navigation\":[\x7b\"page\":\"b\"\x7d]\x7d")
    let files := [site,("a.page","\x7b\"id\":\"a\"\x7d")]
    let files' := [("a.page","\x7b\"id\":\"a\",\"title\":\"A\"\x7d"),
      ("c.page",""),("x.js","1;"),site]
    let p := (Project.load .fullApp files).value.withSkipped []
    let q := (Project.load .individualFiles files').value.withSkipped [⟨"r","c","none"⟩]
    (∀ part ∈ siteNavigation.reads, p.AgreeOn q part) ∧
      p.pages.values.map Page.title ≠ q.pages.values.map Page.title ∧
      siteNavigation.analyze p = siteNavigation.analyze q ∧
      (siteNavigation.analyze q).findings.map Finding.line = [1] := by
  intro site files files' p q
  have hfacts : p.site = q.site ∧ p.pages.keys = q.pages.keys ∧
      p.pages.values.map Page.title ≠ q.pages.values.map Page.title ∧
      (siteNavigation.analyze q).findings.map Finding.line = [1] := by
    decide +kernel
  obtain ⟨hsite,hkeys,htitles,hlines⟩ := hfacts
  have hreads : ∀ part ∈ siteNavigation.reads, p.AgreeOn q part := by
    intro part hpart
    rcases List.mem_pair.mp hpart with rfl | rfl
    · exact hsite
    · intro id
      rw [hkeys]
  exact ⟨hreads,htitles,analyze_decided_by_reads siteNavigation _ _ files files' _ _ hreads,hlines⟩

end BuiltinRule
end AppLint
