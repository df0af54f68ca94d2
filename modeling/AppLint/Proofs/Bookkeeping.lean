import AppLint.Proofs.FirstWins
import AppLint.Proofs.Presence
import AppLint.Proofs.Schedule
import Mathlib.Data.List.Dedup

/-! The books that are kept of a batch: the tracker tells the truth about the project, now and after
any runs, and every file is counted, as a document or as an error. Scripts of one path are counted
together. -/
namespace AppLint

theorem FileType.mem_all (type : FileType) : type ∈ FileType.all := by
  cases type <;> simp [FileType.all]

namespace Tracker

theorem mem_filesPresent {t : Tracker} {type : FileType} :
    type ∈ t.filesPresent ↔ t.has type = true := by
  simp [filesPresent,FileType.mem_all]

theorem mem_filesMissing {t : Tracker} {type : FileType} :
    type ∈ t.filesMissing ↔ t.has type = false := by
  simp [filesMissing,FileType.mem_all]

end Tracker

namespace Project

/-- All files were tried in order, and errors are about files that were tried. -/
structure Recorded (files : List SourceFile) (p : Project) : Prop where
  analyzed : p.tracker.filesAnalyzed = files.map Prod.fst
  reported : (p.parseErrors.map ParseError.path).Sublist (files.map Prod.fst)

@[simp] theorem tracker_store (p : Project) (d : Document) : (p.store d).tracker = p.tracker := by
  cases d <;> rfl

@[simp] theorem filesAnalyzed_markPresent (p : Project) (type : FileType) :
    (p.markPresent type).tracker.filesAnalyzed = p.tracker.filesAnalyzed := by
  unfold markPresent Tracker.markPresent
  dsimp only
  split <;> rfl

theorem Recorded.reject {earlier : List SourceFile} {p : Project} (h : Recorded earlier p)
    (f : SourceFile) (e : LoadError) :
    Recorded (earlier ++ [f]) ((p.recordFile f.1).recordError f.1 e) where
  analyzed := by simp [recordError,recordFile,Tracker.recordFile,h.analyzed]
  reported := by simpa [recordError,recordFile] using h.reported.append (List.Sublist.refl [f.1])

theorem Recorded.accept {earlier : List SourceFile} {p q : Project} (h : Recorded earlier p)
    (f : SourceFile) (hanalyzed : q.tracker.filesAnalyzed = p.tracker.filesAnalyzed ++ [f.1])
    (herrors : q.parseErrors = p.parseErrors) : Recorded (earlier ++ [f]) q where
  analyzed := by simp [hanalyzed,h.analyzed]
  reported := by
    rw [herrors,List.map_append]
    exact h.reported.trans (List.sublist_append_left _ _)

theorem recorded_step (earlier : List SourceFile) (f : SourceFile) (p q : Project)
    (hstep : Step f p q) (h : Recorded earlier p) : Recorded (earlier ++ [f]) q := by
  cases hstep with
  | malformed e hread => exact h.reject f e
  | taken d first hread hslot => exact h.reject f (d.lostTo first.path)
  | script s hread => exact h.accept f (by simp [storeScript,recordFile,Tracker.recordFile]) rfl
  | free d hread hslot =>
    refine h.accept f (by simp [recordFile,Tracker.recordFile]) ?_
    simp [markPresent,recordFile]

theorem load_recorded (unit : AnalysisUnit) (files : List SourceFile) :
    Recorded files (load unit files).value :=
  load_induction unit ⟨rfl,List.Sublist.refl _⟩ recorded_step files

structure Tracked (files : List SourceFile) (p : Project) : Prop where
  present : ∀ type, type ∈ p.tracker.filesPresent ↔ 0 < p.fileCount type
  missing : ∀ type, type ∈ p.tracker.filesMissing ↔ p.fileCount type = 0
  complete : p.tracker.isComplete = true ↔ p.dataProvider.isSome ∧ p.site.isSome
  analyzed : p.tracker.filesAnalyzed = files.map Prod.fst
  reported : (p.parseErrors.map ParseError.path).Sublist p.tracker.filesAnalyzed
  failed_le : p.parseErrors.length ≤ p.tracker.filesAnalyzed.length

theorem Truthful.isComplete_iff {p : Project} (h : Truthful p) :
    p.tracker.isComplete = true ↔ p.dataProvider.isSome ∧ p.site.isSome := by
  have hprovider := h .dataProvider
  have hsite := h .site
  cases hd : p.dataProvider <;> cases hs : p.site <;>
    simp_all [Tracker.isComplete,fileCount]

theorem load_tracked (unit : AnalysisUnit) (files : List SourceFile) :
    Tracked files (load unit files).value := by
  have htruth := load_truthful unit files
  have hrecorded := load_recorded unit files
  have hreported := hrecorded.reported
  rw [← hrecorded.analyzed] at hreported
  exact
    { present := fun type => Tracker.mem_filesPresent.trans (htruth type)
      missing := fun type => Tracker.mem_filesMissing.trans (htruth.has_eq_false type)
      complete := htruth.isComplete_iff
      analyzed := hrecorded.analyzed
      reported := hreported
      failed_le := by simpa using hreported.length_le }

theorem Tracked.skipping {files : List SourceFile} {p : Project} (h : Tracked files p)
    (checks : List SkippedCheck) : Tracked files (p.skipping checks) := by
  rw [skipping_eq]
  exact ⟨h.present,h.missing,h.complete,h.analyzed,h.reported,h.failed_le⟩

end Project

namespace Engine

/-- All that a run does to a project, whatever its rules are, is to note skipped checks. -/
theorem runAll_project (rules : List ActiveRule) (p : Project) :
    ∃ checks, (runAll rules p).value.2 = p.skipping checks := by
  induction rules generalizing p with
  | nil => exact ⟨[],rfl⟩
  | cons r rest ih =>
    obtain ⟨checks,hrest⟩ := ih (p.skipping (r.skips p))
    refine ⟨r.skips p ++ checks,?_⟩
    rw [Project.skipping_append,← hrest]
    simp [runAll,ActiveRule.run_value]

theorem analyze_project (e : Engine) (order : List ActiveRule) (p : Project) :
    ∃ checks, (e.analyze order p).value.2 = p.skipping checks := by
  have h : (e.analyze order p).value.2 = (e.run order p).value.2 := rfl
  rw [h,run_value]
  split
  · exact runAll_project order p
  · exact runAll_project e.rules p

end Engine

namespace Project

def afterRuns (p : Project) : List (Engine × List ActiveRule) → Project
  | [] => p
  | (e,order) :: rest => afterRuns (e.analyze order p).value.2 rest

theorem Tracked.afterRuns {files : List SourceFile} {p : Project} (h : Tracked files p)
    (runs : List (Engine × List ActiveRule)) : Tracked files (p.afterRuns runs) := by
  induction runs generalizing p with
  | nil => exact h
  | cons run rest ih =>
    obtain ⟨e,order⟩ := run
    obtain ⟨checks,hrun⟩ := Engine.analyze_project e order p
    refine ih ?_
    rw [hrun]
    exact h.skipping checks

/-- After loading and after any runs, a type is present if there are documents of it and missing
otherwise, the project is complete if both companions are there, all files are listed in order, and
the files with errors are some of these in the same order. -/
theorem tracker_tells_truth (unit : AnalysisUnit) (files : List SourceFile)
    (runs : List (Engine × List ActiveRule)) :
    Tracked files ((load unit files).value.afterRuns runs) :=
  (load_tracked unit files).afterRuns runs

end Project

namespace Batch

def scriptPaths (files : List SourceFile) : List String :=
  (files.filterMap SourceFile.script?).map ScriptDocument.path

theorem scriptPaths_append_of_none {f : SourceFile} (h : f.script? = none)
    (earlier : List SourceFile) : scriptPaths (earlier ++ [f]) = scriptPaths earlier := by
  simp [scriptPaths,List.filterMap_append,h]

theorem scriptPaths_append_of_some {f : SourceFile} {s : ScriptDocument} (h : f.script? = some s)
    (earlier : List SourceFile) :
    scriptPaths (earlier ++ [f]) = scriptPaths earlier ++ [s.path] := by
  simp [scriptPaths,List.filterMap_append,h]

theorem exists_script?_iff {path : String} {files : List SourceFile} :
    (∃ s, script? path files = some s) ↔ path ∈ scriptPaths files := by
  rw [← Option.isSome_iff_exists,script?,List.findSome?_isSome_iff]
  simp only [List.mem_reverse,scriptPaths,List.mem_map,List.mem_filterMap]
  constructor
  · rintro ⟨f,hf,hsome⟩
    split_ifs at hsome with hpath
    · obtain ⟨s,hs⟩ := Option.isSome_iff_exists.mp hsome
      refine ⟨s,⟨f,hf,hs⟩,?_⟩
      rw [Loaded.read_script_path (SourceFile.script?_eq_some.mp hs),hpath]
    · cases hsome
  · rintro ⟨s,⟨f,hf,hs⟩,rfl⟩
    have hpath : s.path = f.1 := Loaded.read_script_path (SourceFile.script?_eq_some.mp hs)
    exact ⟨f,hf,by simp [hpath,hs]⟩

end Batch

namespace Project

def total (p : Project) : Nat := FileType.all.foldl (fun n type => n + p.fileCount type) 0

theorem length_documents (p : Project) :
    p.documents.length = p.pages.size + p.fragments.size + p.dataProvider.toList.length +
      p.site.toList.length := by
  simp [documents,Catalog.length_values,Nat.add_assoc]

theorem total_eq (p : Project) : p.total = p.documents.length + p.scripts.size := by
  simp only [total,FileType.all,List.foldl_cons,List.foldl_nil,fileCount,length_documents]
  omega

theorem length_documents_store {p : Project} {d : Document} (h : p.stored? d.slot = none) :
    (p.store d).documents.length = p.documents.length + 1 := by
  rw [length_documents,length_documents]
  cases d with
  | page d =>
    have hnone : p.pages.get? d.id = none := by
      simpa [stored?,page?,Document.slot] using h
    simp only [store,Catalog.size_insert_of_get?_eq_none hnone]
    omega
  | fragment d =>
    have hnone : p.fragments.get? d.id = none := by
      simpa [stored?,fragment?,Document.slot] using h
    simp only [store,Catalog.size_insert_of_get?_eq_none hnone]
    omega
  | dataProvider d =>
    have hnone : p.dataProvider = none := by simpa [stored?,Document.slot] using h
    simp only [store,hnone,Option.toList_some,Option.toList_none,List.length_singleton,
      List.length_nil]
    omega
  | site d =>
    have hnone : p.site = none := by simpa [stored?,Document.slot] using h
    simp [store,hnone]

/-- Every file is a document, an error or a well-formed script. -/
def Counted (files : List SourceFile) (p : Project) : Prop :=
  p.documents.length + p.parseErrors.length + (Batch.scriptPaths files).length = files.length

theorem Counted.reject {earlier : List SourceFile} {p : Project} (h : Counted earlier p)
    {f : SourceFile} (hscript : f.script? = none) (e : LoadError) :
    Counted (earlier ++ [f]) ((p.recordFile f.1).recordError f.1 e) := by
  have hdocuments : ((p.recordFile f.1).recordError f.1 e).documents = p.documents := rfl
  unfold Counted at h ⊢
  rw [hdocuments,Batch.scriptPaths_append_of_none hscript]
  simp only [recordError,recordFile,List.length_append,List.length_singleton]
  omega

theorem counted_step (earlier : List SourceFile) (f : SourceFile) (p q : Project)
    (hstep : Step f p q) (h : Counted earlier p) : Counted (earlier ++ [f]) q := by
  cases hstep with
  | malformed e hread => exact h.reject (by simp [SourceFile.script?,hread]) e
  | taken d first hread hslot => exact h.reject (by simp [SourceFile.script?,hread]) _
  | script s hread =>
    have hscript : f.script? = some s := SourceFile.script?_eq_some.mpr hread
    have hdocuments : (((p.recordFile f.1).storeScript s).markPresent .script).documents =
        p.documents := rfl
    unfold Counted at h ⊢
    rw [hdocuments,Batch.scriptPaths_append_of_some hscript]
    simp only [markPresent,storeScript,recordFile,List.length_append,List.length_singleton]
    omega
  | free d hread hslot =>
    have hscript : f.script? = none := by simp [SourceFile.script?,hread]
    have hdocuments : (((p.recordFile f.1).store d).markPresent d.type).documents.length =
        p.documents.length + 1 :=
      length_documents_store (p := p.recordFile f.1) (by simpa using hslot)
    unfold Counted at h ⊢
    rw [hdocuments,Batch.scriptPaths_append_of_none hscript]
    simp only [markPresent,parseErrors_store,recordFile,List.length_append,List.length_singleton]
    omega

theorem load_counted (unit : AnalysisUnit) (files : List SourceFile) :
    Counted files (load unit files).value :=
  load_induction unit rfl counted_step files

theorem load_scripts_length (unit : AnalysisUnit) (files : List SourceFile) :
    (load unit files).value.scripts.size = (Batch.scriptPaths files).dedup.length := by
  have hscripts := (load_aggregates unit files).scripts
  have hkeys : (load unit files).value.scripts.keys.Perm (Batch.scriptPaths files).dedup := by
    have hnodup : (load unit files).value.scripts.keys.Nodup :=
      (load unit files).value.scripts.ascending.imp fun hlt => hlt.ne
    rw [List.perm_ext_iff_of_nodup hnodup (List.nodup_dedup _)]
    intro path
    rw [List.mem_dedup,← Batch.exists_script?_iff]
    rw [Catalog.mem_keys_iff,Catalog.holds_iff.mp hscripts,Option.isSome_iff_exists]
  rw [← Catalog.length_keys]
  exact hkeys.length_eq

/-- The documents and errors of a batch fall short of its files by the scripts that a later one of
the same path replaces. So all files are accounted for just if no two well-formed scripts have the
same path. -/
theorem load_accounts_for_all_iff (unit : AnalysisUnit) (files : List SourceFile) :
    let p := (load unit files).value
    p.total + p.parseErrors.length + (Batch.scriptPaths files).length =
      files.length + (Batch.scriptPaths files).dedup.length ∧
    (p.total + p.parseErrors.length = files.length ↔ (Batch.scriptPaths files).Nodup) := by
  intro p
  have hcounted : Counted files p := load_counted unit files
  have hscripts : p.scripts.size = (Batch.scriptPaths files).dedup.length :=
    load_scripts_length unit files
  have hshort : p.total + p.parseErrors.length + (Batch.scriptPaths files).length =
      files.length + (Batch.scriptPaths files).dedup.length := by
    unfold Counted at hcounted
    rw [total_eq]
    omega
  refine ⟨hshort,?_⟩
  constructor
  · intro hall
    have hlength : (Batch.scriptPaths files).dedup.length = (Batch.scriptPaths files).length := by
      omega
    rw [← List.dedup_eq_self]
    exact (List.dedup_sublist _).eq_of_length hlength
  · intro hnodup
    rw [hnodup.dedup] at hshort
    omega

/-- Of two scripts with one path, one is neither stored nor reported. -/
theorem load_loses_replaced_script :
    let files := [("a.js","1;"),("a.js","2;")]
    let p := (load .individualFiles files).value
    p.total = 1 ∧ p.parseErrors = [] ∧ p.total + p.parseErrors.length ≠ files.length := by
  decide +kernel

end Project
end AppLint
