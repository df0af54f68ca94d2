import AppLint.Proofs.LoadStep

/-! Loading a batch keeps the first document for each place and the last script of each path, and
reports every other file. -/
namespace AppLint

namespace SourceFile

def document? (f : SourceFile) : Option Document :=
  match Loaded.read f.1 f.2 with
  | .ok (.document d) => some d
  | _ => none

def script? (f : SourceFile) : Option ScriptDocument :=
  match Loaded.read f.1 f.2 with
  | .ok (.script s) => some s
  | _ => none

theorem document?_eq_some {f : SourceFile} {d : Document} :
    f.document? = some d ↔ Loaded.read f.1 f.2 = .ok (.document d) := by
  unfold document?
  split <;> simp_all

theorem script?_eq_some {f : SourceFile} {s : ScriptDocument} :
    f.script? = some s ↔ Loaded.read f.1 f.2 = .ok (.script s) := by
  unfold script?
  split <;> simp_all

def slot? (f : SourceFile) : Option Slot := f.document?.map Document.slot

end SourceFile

namespace Batch

def winner? (s : Slot) (files : List SourceFile) : Option SourceFile :=
  files.find? fun f => f.slot? = some s

/-- The document of the first well-formed file with one for this place. -/
def document? (s : Slot) (files : List SourceFile) : Option Document :=
  (winner? s files).bind SourceFile.document?

/-- The script of the last well-formed file under a path. -/
def script? (path : String) (files : List SourceFile) : Option ScriptDocument :=
  files.reverse.findSome? fun f => if f.1 = path then f.script? else none

/-- Why a file behind `earlier` is not loaded: it is not well-formed, or its document comes too
late. -/
def rejection? (earlier : List SourceFile) (f : SourceFile) : Option LoadError :=
  match Loaded.read f.1 f.2 with
  | .error e => some e
  | .ok (.script _) => none
  | .ok (.document d) => (winner? d.slot earlier).map fun w => d.lostTo w.1

/-- The files that are not loaded, in order; each is judged by the files before it. -/
def rejections (earlier : List SourceFile) : List SourceFile → List ParseError
  | [] => []
  | f :: rest =>
    ((rejection? earlier f).map fun e => ⟨f.1,e⟩).toList ++ rejections (earlier ++ [f]) rest

theorem winner?_append (s : Slot) (earlier : List SourceFile) (f : SourceFile) :
    winner? s (earlier ++ [f]) =
      (winner? s earlier).or (if f.slot? = some s then some f else none) := by
  by_cases h : f.slot? = some s <;> simp [winner?,List.find?_append,h]

theorem winner?_slot {s : Slot} {files : List SourceFile} {w : SourceFile}
    (h : winner? s files = some w) : ∃ d, w.document? = some d ∧ d.slot = s := by
  have hs : w.slot? = some s := by simpa using List.find?_some h
  simpa [SourceFile.slot?] using hs

theorem document?_append (s : Slot) (earlier : List SourceFile) (f : SourceFile) :
    document? s (earlier ++ [f]) =
      (document? s earlier).or (f.document?.filter fun d => d.slot = s) := by
  unfold document?
  rw [winner?_append]
  cases hw : winner? s earlier with
  | some w =>
    obtain ⟨d,hd,-⟩ := winner?_slot hw
    simp [hd]
  | none =>
    cases hd : f.document? with
    | none => simp [SourceFile.slot?,hd]
    | some d => by_cases h : d.slot = s <;> simp [SourceFile.slot?,hd,h,Option.filter_some]

theorem script?_append (path : String) (earlier : List SourceFile) (f : SourceFile) :
    script? path (earlier ++ [f]) =
      (if f.1 = path then f.script? else none).or (script? path earlier) := by
  simp only [script?,List.reverse_append,List.reverse_singleton,List.singleton_append,
    List.findSome?_cons]
  cases (if f.1 = path then f.script? else none) <;> rfl

theorem rejections_append (before earlier : List SourceFile) (f : SourceFile) :
    rejections before (earlier ++ [f]) = rejections before earlier ++
      ((rejection? (before ++ earlier) f).map fun e => (⟨f.1,e⟩ : ParseError)).toList := by
  induction earlier generalizing before with
  | nil => simp [rejections]
  | cons g rest ih => simp [rejections,ih]

theorem script?_append_of_none {f : SourceFile} (h : f.script? = none) (earlier : List SourceFile) :
    (fun path => script? path (earlier ++ [f])) = fun path => script? path earlier := by
  funext path
  simp [script?_append,h]

theorem winner?_path (s : Slot) (files : List SourceFile) :
    (winner? s files).map Prod.fst = (document? s files).map Document.path := by
  unfold document?
  cases hw : winner? s files with
  | none => rfl
  | some w =>
    obtain ⟨d,hd,-⟩ := winner?_slot hw
    have hread : Loaded.read w.1 w.2 = .ok (.document d) := SourceFile.document?_eq_some.mp hd
    simp [hd,Loaded.read_document_path hread]

theorem rejection?_document {f : SourceFile} {d : Document}
    (hread : Loaded.read f.1 f.2 = .ok (.document d)) (earlier : List SourceFile) :
    rejection? earlier f = (document? d.slot earlier).map fun first => d.lostTo first.path := by
  have h := congrArg (Option.map d.lostTo) (winner?_path d.slot earlier)
  simpa [rejection?,hread,Function.comp_def] using h

end Batch

namespace Project

/-- The project has the first document for each place, the last script of each path, and an error
for each file that is not loaded. -/
structure Aggregates (files : List SourceFile) (p : Project) : Prop where
  stored : ∀ s, p.stored? s = Batch.document? s files
  scripts : p.scripts.Holds fun path => Batch.script? path files
  parseErrors : p.parseErrors = Batch.rejections [] files

theorem aggregates_empty (unit : AnalysisUnit) :
    Aggregates [] { tracker := { unit := unit } } where
  stored s := by cases s <;> rfl
  scripts := Catalog.holds_empty
  parseErrors := rfl

/-- A file that is not loaded leaves all documents as they are and is reported. -/
theorem Aggregates.reject {earlier : List SourceFile} {f : SourceFile} {p : Project} {e : LoadError}
    (h : Aggregates earlier p) (hscript : f.script? = none)
    (hdoc : ∀ s, Batch.document? s (earlier ++ [f]) = Batch.document? s earlier)
    (he : Batch.rejection? earlier f = some e) :
    Aggregates (earlier ++ [f]) ((p.recordFile f.1).recordError f.1 e) where
  stored s := by simp [hdoc,h.stored]
  scripts := by
    rw [Batch.script?_append_of_none hscript]
    exact h.scripts
  parseErrors := by
    rw [Batch.rejections_append,← h.parseErrors]
    simp [recordError,recordFile,he]

theorem aggregates_step (earlier : List SourceFile) (f : SourceFile) (p q : Project)
    (hstep : Step f p q) (h : Aggregates earlier p) : Aggregates (earlier ++ [f]) q := by
  cases hstep with
  | malformed e hread =>
    have hd : f.document? = none := by simp [SourceFile.document?,hread]
    refine h.reject (by simp [SourceFile.script?,hread]) (fun s => ?_)
      (by simp [Batch.rejection?,hread])
    simp [Batch.document?_append,hd]
  | taken d first hread hslot =>
    have hd : f.document? = some d := SourceFile.document?_eq_some.mpr hread
    have hfirst : Batch.document? d.slot earlier = some first := by rw [← h.stored,hslot]
    refine h.reject (by simp [SourceFile.script?,hread]) (fun s => ?_)
      (by simp [Batch.rejection?_document hread,hfirst])
    -- In its own place the document is hidden by the first, and in no other does it count.
    by_cases hs : d.slot = s
    · subst hs
      simp [Batch.document?_append,hfirst]
    · simp [Batch.document?_append,hd,hs,Option.filter_some]
  | script s hread =>
    have hd : f.document? = none := by simp [SourceFile.document?,hread]
    have hs : f.script? = some s := SourceFile.script?_eq_some.mpr hread
    have hpath : s.path = f.1 := Loaded.read_script_path hread
    exact
      { stored := by simp [Batch.document?_append,hd,h.stored]
        scripts := by
          have hfind : (fun path => Batch.script? path (earlier ++ [f])) =
              Function.update (fun path => Batch.script? path earlier) s.path (some s) := by
            funext path
            by_cases hp : f.1 = path
            · simp [Batch.script?_append,hs,hp,hpath]
            · rw [Function.update_of_ne (by rw [hpath]; exact Ne.symm hp)]
              simp [Batch.script?_append,hp]
          rw [hfind]
          exact h.scripts.insert s
        parseErrors := by
          rw [Batch.rejections_append,← h.parseErrors]
          simp [Batch.rejection?,hread,recordFile,storeScript,markPresent] }
  | free d hread hslot =>
    have hd : f.document? = some d := SourceFile.document?_eq_some.mpr hread
    have hs : f.script? = none := by simp [SourceFile.script?,hread]
    have hfree : Batch.document? d.slot earlier = none := by rw [← h.stored,hslot]
    exact
      { stored := by
          intro slot
          by_cases hslot' : slot = d.slot
          · subst hslot'
            simp [Batch.document?_append,stored?_store,hd,hfree,Option.filter_some]
          · have hne : ¬d.slot = slot := fun he => hslot' he.symm
            simp [Batch.document?_append,stored?_store,hd,hslot',hne,h.stored,Option.filter_some]
        scripts := by
          rw [Batch.script?_append_of_none hs]
          simpa [markPresent,recordFile] using h.scripts
        parseErrors := by
          rw [Batch.rejections_append,← h.parseErrors]
          simp [Batch.rejection?_document hread,hfree,recordFile,markPresent] }

theorem Aggregates.holds_pages {files : List SourceFile} {p : Project} (h : Aggregates files p) :
    p.pages.Holds fun id => (Batch.document? (.page id) files).bind Document.page? := by
  refine Catalog.holds_iff.mpr fun id => ?_
  rw [← h.stored (.page id)]
  cases hid : p.pages.get? id <;> simp [stored?,page?,hid,Document.page?]

theorem Aggregates.holds_fragments {files : List SourceFile} {p : Project}
    (h : Aggregates files p) :
    p.fragments.Holds fun id => (Batch.document? (.fragment id) files).bind Document.fragment? := by
  refine Catalog.holds_iff.mpr fun id => ?_
  rw [← h.stored (.fragment id)]
  cases hid : p.fragments.get? id <;> simp [stored?,fragment?,hid,Document.fragment?]

theorem Aggregates.dataProvider_eq {files : List SourceFile} {p : Project}
    (h : Aggregates files p) :
    p.dataProvider = (Batch.document? .dataProvider files).bind Document.dataProvider? := by
  rw [← h.stored .dataProvider]
  cases hd : p.dataProvider <;> simp [stored?,hd,Document.dataProvider?]

theorem Aggregates.site_eq {files : List SourceFile} {p : Project} (h : Aggregates files p) :
    p.site = (Batch.document? .site files).bind Document.site? := by
  rw [← h.stored .site]
  cases hs : p.site <;> simp [stored?,hs,Document.site?]

theorem load_aggregates (unit : AnalysisUnit) (files : List SourceFile) :
    Aggregates files (load unit files).value :=
  load_induction unit (aggregates_empty unit) aggregates_step files

/-- A loaded project stores exactly the first document of a batch for each id of a page or fragment,
the first data provider and site, and the last script of each path. Its errors are those of the
other files in order, and a document that comes too late is reported with the path of the first.
The last two parts say which files count as well-formed. -/
theorem load_first_wins (unit : AnalysisUnit) (files : List SourceFile) :
    let p := (load unit files).value
    p.pages.Holds (fun id => (Batch.document? (.page id) files).bind Document.page?) ∧
    p.fragments.Holds (fun id => (Batch.document? (.fragment id) files).bind Document.fragment?) ∧
    p.dataProvider = (Batch.document? .dataProvider files).bind Document.dataProvider? ∧
    p.site = (Batch.document? .site files).bind Document.site? ∧
    p.scripts.Holds (fun path => Batch.script? path files) ∧
    p.parseErrors = Batch.rejections [] files ∧
    (∀ (d : Document) (path : String), ∃ start, (d.lostTo path).message = start ++ path) ∧
    (∀ (f : SourceFile) (d : Document), f.document? = some d ↔
      ∃ type tree, FileType.detect? f.1 = some type ∧ type ≠ .script ∧
        Json.parse f.2 = .ok tree ∧ Document.ofTree type f.1 f.2 tree.uncommented = .ok d) ∧
    ∀ (f : SourceFile) (s : ScriptDocument), f.script? = some s ↔
      FileType.detect? f.1 = some .script ∧ ScriptDocument.parse f.1 f.2 = .ok s := by
  have h := load_aggregates unit files
  exact ⟨h.holds_pages,h.holds_fragments,h.dataProvider_eq,h.site_eq,h.scripts,h.parseErrors,
    fun d path => Document.lostTo_message path d,
    fun f d => SourceFile.document?_eq_some.trans Loaded.read_eq_document,
    fun f s => SourceFile.script?_eq_some.trans Loaded.read_eq_script⟩

end Project
end AppLint
