import AppLint.Proofs.Bookkeeping

/-! In a batch without collisions the order of the files does not matter: each place has one document
at most and each path one script, so that it makes no difference which is looked for first. -/
namespace AppLint

/-- If one member at most has a value, the first value is that of any member that has one. -/
theorem findSome?_eq_some_of_pairwise {α β : Type} {find : α → Option β} {xs : List α}
    (h : xs.Pairwise fun a b => find a = none ∨ find b = none) {b : β} :
    xs.findSome? find = some b ↔ ∃ a ∈ xs, find a = some b := by
  constructor
  · exact List.exists_of_findSome?_eq_some
  · rintro ⟨a,ha,hb⟩
    induction xs with
    | nil => cases ha
    | cons x rest ih =>
      obtain ⟨hx,hrest⟩ := List.pairwise_cons.mp h
      rcases List.mem_cons.mp ha with rfl | hmem
      · simp [hb]
      · have hnone : find x = none := (hx a hmem).resolve_right (by simp [hb])
        simp [hnone,ih hrest hmem]

theorem findSome?_eq_of_perm {α β : Type} {find : α → Option β} {xs ys : List α}
    (hperm : xs.Perm ys) (h : ys.Pairwise fun a b => find a = none ∨ find b = none) :
    xs.findSome? find = ys.findSome? find := by
  have h' : xs.Pairwise fun a b => find a = none ∨ find b = none :=
    (hperm.pairwise_iff fun hab => hab.symm).mpr h
  refine Option.ext fun b => ?_
  rw [findSome?_eq_some_of_pairwise h,findSome?_eq_some_of_pairwise h']
  simp only [hperm.mem_iff]

namespace SourceFile

/-- Two well-formed files have documents for one place, or scripts under one path. -/
def Collide (f g : SourceFile) : Prop :=
  (f.slot?.isSome ∧ f.slot? = g.slot?) ∨ (f.script?.isSome ∧ g.script?.isSome ∧ f.1 = g.1)

instance (f g : SourceFile) : Decidable (f.Collide g) := inferInstanceAs (Decidable (_ ∨ _))

theorem Collide.symm {f g : SourceFile} (h : f.Collide g) : g.Collide f := by
  rcases h with ⟨hsome,hslot⟩ | ⟨hf,hg,hpath⟩
  · exact .inl ⟨hslot ▸ hsome,hslot.symm⟩
  · exact .inr ⟨hg,hf,hpath.symm⟩

def malformed? (f : SourceFile) : Option ParseError :=
  match Loaded.read f.1 f.2 with
  | .error e => some ⟨f.1,e⟩
  | .ok _ => none

end SourceFile

namespace Batch

def Free (files : List SourceFile) : Prop := files.Pairwise fun f g => ¬f.Collide g

instance (files : List SourceFile) : Decidable (Free files) :=
  inferInstanceAs (Decidable (files.Pairwise _))

theorem document?_eq_findSome? (s : Slot) (files : List SourceFile) :
    document? s files = files.findSome? fun f => f.document?.filter fun d => d.slot = s := by
  induction files using List.reverseRecOn with
  | nil => rfl
  | append_singleton files f ih => simp [document?_append,ih,List.findSome?_append]

theorem Free.document?_eq_of_perm {files files' : List SourceFile} (hfree : Free files)
    (hperm : files'.Perm files) (s : Slot) : document? s files' = document? s files := by
  rw [document?_eq_findSome?,document?_eq_findSome?]
  apply findSome?_eq_of_perm hperm
  refine hfree.imp fun {f g} hcollide => ?_
  by_contra hboth
  simp only [not_or,← Option.isSome_iff_ne_none,Option.isSome_filter,Option.any_eq_true] at hboth
  obtain ⟨⟨d,hd,hs⟩,⟨e,he,hs'⟩⟩ := hboth
  simp_all [SourceFile.Collide,SourceFile.slot?]

theorem Free.script?_eq_of_perm {files files' : List SourceFile} (hfree : Free files)
    (hperm : files'.Perm files) (path : String) : script? path files' = script? path files := by
  have hscripts : files.Pairwise fun f g =>
      (if f.1 = path then f.script? else none) = none ∨
        (if g.1 = path then g.script? else none) = none := by
    refine hfree.imp fun {f g} hcollide => ?_
    by_contra hboth
    simp_all [SourceFile.Collide,Option.isSome_iff_ne_none]
  exact (findSome?_eq_of_perm ((List.reverse_perm files').trans hperm) hscripts).trans
    (findSome?_eq_of_perm (List.reverse_perm files) hscripts).symm

theorem rejection?_of_not_collide {earlier : List SourceFile} {f : SourceFile}
    (h : ∀ g ∈ earlier, ¬g.Collide f) :
    (rejection? earlier f).map (fun e => (⟨f.1,e⟩ : ParseError)) = f.malformed? := by
  cases hread : Loaded.read f.1 f.2 with
  | error e => simp [rejection?,SourceFile.malformed?,hread]
  | ok content =>
    cases content with
    | script s => simp [rejection?,SourceFile.malformed?,hread]
    | document d =>
      have hslot : f.slot? = some d.slot := by
        simp [SourceFile.slot?,SourceFile.document?_eq_some.mpr hread]
      have hnone : winner? d.slot earlier = none := by
        refine List.find?_eq_none.mpr fun g hg hs => h g hg ?_
        simp_all [SourceFile.Collide]
      simp [rejection?,SourceFile.malformed?,hread,hnone]

theorem Free.rejections_eq {files : List SourceFile} (hfree : Free files) :
    rejections [] files = files.filterMap SourceFile.malformed? := by
  induction files using List.reverseRecOn with
  | nil => rfl
  | append_singleton files f ih =>
    obtain ⟨hfiles,-,hlast⟩ := List.pairwise_append.mp hfree
    have hnone : ∀ g ∈ files, ¬g.Collide f := fun g hg => hlast g hg f (List.mem_singleton_self f)
    rw [rejections_append,ih hfiles,List.nil_append,rejection?_of_not_collide hnone,
      List.filterMap_append]
    cases hf : f.malformed? <;> simp [hf]

end Batch

namespace Project

variable {unit : AnalysisUnit} {files files' : List SourceFile}

theorem Truthful.alike {p q : Project} (hp : Truthful p) (hq : Truthful q)
    (h : p.SameDocuments q) : p.Alike q :=
  { h with
    has := fun type => by
      rw [Bool.eq_iff_iff,hp type,hq type,h.fileCount] }

theorem load_sameDocuments (hfree : Batch.Free files) (hperm : files'.Perm files) :
    (load unit files').value.SameDocuments (load unit files).value := by
  have h := load_aggregates unit files
  have h' := load_aggregates unit files'
  have hdocument : ∀ s, Batch.document? s files' = Batch.document? s files :=
    hfree.document?_eq_of_perm hperm
  have hscript : ∀ path, Batch.script? path files' = Batch.script? path files :=
    hfree.script?_eq_of_perm hperm
  exact
    { pages := Catalog.Holds.unique (by simpa only [hdocument] using h'.holds_pages) h.holds_pages
      fragments :=
        Catalog.Holds.unique (by simpa only [hdocument] using h'.holds_fragments) h.holds_fragments
      scripts := Catalog.Holds.unique (by simpa only [hscript] using h'.scripts) h.scripts
      dataProvider := by rw [h'.dataProvider_eq,h.dataProvider_eq,hdocument]
      site := by rw [h'.site_eq,h.site_eq,hdocument] }

theorem load_alike (hfree : Batch.Free files) (hperm : files'.Perm files) :
    (load unit files').value.Alike (load unit files).value :=
  (load_truthful unit files').alike (load_truthful unit files) (load_sameDocuments hfree hperm)

theorem load_parseErrors_perm (hfree : Batch.Free files) (hperm : files'.Perm files) :
    (load unit files').value.parseErrors.Perm (load unit files).value.parseErrors := by
  have hfree' : Batch.Free files' :=
    (hperm.pairwise_iff fun hfg hgf => hfg hgf.symm).mpr hfree
  rw [(load_aggregates unit files').parseErrors,(load_aggregates unit files).parseErrors,
    hfree'.rejections_eq,hfree.rejections_eq]
  exact hperm.filterMap _

/-- A batch without collisions gives the same project in every order of its files, and every rule
finds the same in it and leaves out the same checks, in the same order. Only the lists of the files
that were tried and of those that failed are in the order of the batch. -/
theorem load_in_any_order (unit : AnalysisUnit) (files files' : List SourceFile)
    (hfree : Batch.Free files) (hperm : files'.Perm files) :
    let p := (load unit files).value
    let q := (load unit files').value
    q.pages = p.pages ∧ q.fragments = p.fragments ∧ q.scripts = p.scripts ∧
    q.dataProvider = p.dataProvider ∧ q.site = p.site ∧
    (∀ type, q.fileCount type = p.fileCount type) ∧
    q.tracker.filesPresent = p.tracker.filesPresent ∧
    q.documents = p.documents ∧
    q.parseErrors.Perm p.parseErrors ∧
    q.tracker.filesAnalyzed.Perm p.tracker.filesAnalyzed ∧
    (∀ b : BuiltinRule, b.analyze q = b.analyze p) ∧
    ∀ r : DeclaredRule, r.analyze q = r.analyze p := by
  intro p q
  have h : q.Alike p := load_alike hfree hperm
  have hpresent : q.tracker.filesPresent = p.tracker.filesPresent := by
    simp only [Tracker.filesPresent,h.has]
  have hanalyzed : q.tracker.filesAnalyzed.Perm p.tracker.filesAnalyzed := by
    rw [(load_recorded unit files').analyzed,(load_recorded unit files).analyzed]
    exact hperm.map _
  exact ⟨h.pages,h.fragments,h.scripts,h.dataProvider,h.site,h.fileCount,hpresent,h.documents,
    load_parseErrors_perm hfree hperm,hanalyzed,BuiltinRule.analyze_of_alike h,
    DeclaredRule.analyze_of_alike h⟩

/-- Two pages, a broken one and a file of no known type, backwards. -/
theorem load_in_any_order_backwards :
    let files := [("b.page","\x7b\"id\":\"b\"\x7d"),("a.page","\x7b\"id\":\"a\"\x7d"),
      ("c.page","\x7b"),("d.txt","")]
    let p := (load .fullApp files).value
    let q := (load .fullApp files.reverse).value
    Batch.Free files ∧ q.pages = p.pages ∧
      q.parseErrors.Perm p.parseErrors ∧ q.parseErrors ≠ p.parseErrors ∧
      BuiltinRule.pageTitle.analyze q = BuiltinRule.pageTitle.analyze p ∧
      (BuiltinRule.pageTitle.analyze q).findings.map (·.path) = ["a.page","b.page"] := by
  intro files p q
  have hfree : Batch.Free files := by decide +kernel
  obtain ⟨hpages,-,-,-,-,-,-,-,herrors,-,hrules,-⟩ :=
    load_in_any_order .fullApp files files.reverse hfree (List.reverse_perm files)
  exact ⟨hfree,hpages,herrors,by decide +kernel,hrules .pageTitle,by decide +kernel⟩

end Project
end AppLint
