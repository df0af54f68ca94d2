import AppLint.Project
import AppLint.Proofs.Catalog
import AppLint.Proofs.Except

/-! What loading one file can do to a project, and induction over the files of a batch. -/
namespace AppLint

abbrev SourceFile := String × String

/-- The place of a document in a project: pages and fragments have one for each id. -/
inductive Slot where
  | page (id : String)
  | fragment (id : String)
  | dataProvider
  | site
deriving DecidableEq

namespace Document

def slot : Document → Slot
  | page d => .page d.id
  | fragment d => .fragment d.id
  | dataProvider _ => .dataProvider
  | site _ => .site

/-- What is said of a document whose place belongs to the document of the file `path`. -/
def lostTo (path : String) : Document → LoadError
  | page d => .duplicatePage d.id path
  | fragment d => .duplicateFragment d.id path
  | dataProvider _ => .secondDataProvider path
  | site _ => .secondSite path

def page? : Document → Option Page
  | page d => some d
  | _ => none

def fragment? : Document → Option Fragment
  | fragment d => some d
  | _ => none

def dataProvider? : Document → Option DataProviderDocument
  | dataProvider d => some d
  | _ => none

def site? : Document → Option Site
  | site d => some d
  | _ => none

theorem lostTo_message (path : String) (d : Document) :
    ∃ start, (d.lostTo path).message = start ++ path := by
  cases d <;> exact ⟨_,rfl⟩

theorem ofBody_body {type : FileType} {b : Body} {d : Document} (h : ofBody type b = .ok d) :
    d.body = b := by
  cases type <;> simp only [ofBody,Except.ok.injEq,reduceCtorEq] at h <;> subst h <;> rfl

theorem ofTree_body {type : FileType} {path raw : String} {tree : Json.Value} {d : Document}
    (h : ofTree type path raw tree = .ok d) : d.body = ⟨path,raw,tree⟩ := by
  unfold ofTree at h
  split at h
  · cases h
  · obtain ⟨-,-,hd⟩ := Except.bind_eq_ok.mp h
    exact ofBody_body hd

end Document

namespace Loaded

theorem read_of_parse {path text : String} {type : FileType} {tree : Json.Value}
    (htype : FileType.detect? path = some type) (hscript : type ≠ .script)
    (htree : Json.parse text = .ok tree) :
    read path text =
      ((Document.ofTree type path text tree.uncommented).map document).mapError .document := by
  unfold read
  rw [htype,htree]
  cases type with
  | script => exact absurd rfl hscript
  | _ => exact Except.mapError_bind_pure _

/-- A document is read from a file of its type with a JSON text, without the commented-out parts. -/
theorem read_eq_document {path text : String} {d : Document} :
    read path text = .ok (.document d) ↔
      ∃ type tree, FileType.detect? path = some type ∧ type ≠ .script ∧
        Json.parse text = .ok tree ∧ Document.ofTree type path text tree.uncommented = .ok d := by
  unfold read
  split
  · rename_i htype
    simp [htype]
  · rename_i htype
    simp [htype,Except.mapError_eq_ok,Except.map_eq_ok]
  · rename_i type hscript htype
    simp only [Except.bind_eq_ok,Except.mapError_eq_ok]
    constructor
    · rintro ⟨tree,htree,d',hd,hlast⟩
      cases hlast
      exact ⟨type,tree,htype,hscript,htree,hd⟩
    · rintro ⟨type',tree,htype',-,htree,hd⟩
      obtain rfl : type = type' := Option.some.inj (htype.symm.trans htype')
      exact ⟨tree,htree,d,hd,rfl⟩

theorem read_document_path {path text : String} {d : Document}
    (h : read path text = .ok (.document d)) : d.path = path := by
  obtain ⟨type,tree,-,-,-,hd⟩ := read_eq_document.mp h
  rw [Document.path,Document.ofTree_body hd]

theorem read_eq_script {path text : String} {s : ScriptDocument} :
    read path text = .ok (.script s) ↔
      FileType.detect? path = some .script ∧ ScriptDocument.parse path text = .ok s := by
  unfold read
  split
  · rename_i htype
    simp [htype]
  · rename_i htype
    simp [htype,Except.mapError_eq_ok,Except.map_eq_ok]
  · rename_i type hscript htype
    simp only [Except.bind_eq_ok,Except.mapError_eq_ok]
    constructor
    · rintro ⟨tree,-,d,-,hlast⟩
      cases hlast
    · rintro ⟨htype',-⟩
      exact absurd (Option.some.inj (htype.symm.trans htype')) hscript

theorem read_script_path {path text : String} {s : ScriptDocument}
    (h : read path text = .ok (.script s)) : s.path = path := by
  have hs := (read_eq_script.mp h).2
  unfold ScriptDocument.parse at hs
  split at hs <;> simp at hs
  rw [← hs]

end Loaded

namespace Project

def stored? (p : Project) : Slot → Option Document
  | .page id => (p.page? id).map .page
  | .fragment id => (p.fragment? id).map .fragment
  | .dataProvider => p.dataProvider.map .dataProvider
  | .site => p.site.map .site

def store (p : Project) : Document → Project
  | .page d => { p with pages := p.pages.insert d }
  | .fragment d => { p with fragments := p.fragments.insert d }
  | .dataProvider d => { p with dataProvider := some d }
  | .site d => { p with site := some d }

def storeScript (p : Project) (s : ScriptDocument) : Project :=
  { p with scripts := p.scripts.insert s }

/-- A document is added if its place is free; otherwise the one that is there wins. -/
theorem insertDocument_eq (p : Project) (d : Document) :
    p.insertDocument d = match p.stored? d.slot with
      | some first => .error (d.lostTo first.path)
      | none => .ok (p.store d) := by
  cases d with
  | page d => cases h : p.page? d.id <;> simp [insertDocument,stored?,Document.slot,h] <;> rfl
  | fragment d =>
    cases h : p.fragment? d.id <;> simp [insertDocument,stored?,Document.slot,h] <;> rfl
  | dataProvider d =>
    cases h : p.dataProvider <;> simp [insertDocument,stored?,Document.slot,h] <;> rfl
  | site d => cases h : p.site <;> simp [insertDocument,stored?,Document.slot,h] <;> rfl

theorem stored?_store (p : Project) (d : Document) (s : Slot) :
    (p.store d).stored? s = if s = d.slot then some d else p.stored? s := by
  cases d with
  | page d =>
    cases s with
    | page id =>
      by_cases h : id = d.id
      · simp [store,stored?,page?,Document.slot,h]
      · simp [store,stored?,page?,Document.slot,h,Catalog.get?_insert_of_ne h]
    | _ => simp [store,stored?,fragment?,Document.slot]
  | fragment d =>
    cases s with
    | fragment id =>
      by_cases h : id = d.id
      · simp [store,stored?,fragment?,Document.slot,h]
      · simp [store,stored?,fragment?,Document.slot,h,Catalog.get?_insert_of_ne h]
    | _ => simp [store,stored?,page?,Document.slot]
  | dataProvider d => cases s <;> simp [store,stored?,page?,fragment?,Document.slot]
  | site d => cases s <;> simp [store,stored?,page?,fragment?,Document.slot]

@[simp] theorem stored?_recordFile (p : Project) (path : String) (s : Slot) :
    (p.recordFile path).stored? s = p.stored? s := by
  cases s <;> rfl
@[simp] theorem stored?_recordError (p : Project) (path : String) (e : LoadError) (s : Slot) :
    (p.recordError path e).stored? s = p.stored? s := by
  cases s <;> rfl
@[simp] theorem stored?_markPresent (p : Project) (type : FileType) (s : Slot) :
    (p.markPresent type).stored? s = p.stored? s := by
  cases s <;> rfl
@[simp] theorem stored?_storeScript (p : Project) (script : ScriptDocument) (s : Slot) :
    (p.storeScript script).stored? s = p.stored? s := by
  cases s <;> rfl
@[simp] theorem scripts_store (p : Project) (d : Document) : (p.store d).scripts = p.scripts := by
  cases d <;> rfl
@[simp] theorem parseErrors_store (p : Project) (d : Document) :
    (p.store d).parseErrors = p.parseErrors := by
  cases d <;> rfl

/-- All that loading a file can do. -/
inductive Step (f : SourceFile) (p : Project) : Project → Prop
  | malformed (e : LoadError) (hread : Loaded.read f.1 f.2 = .error e) :
      Step f p ((p.recordFile f.1).recordError f.1 e)
  | script (s : ScriptDocument) (hread : Loaded.read f.1 f.2 = .ok (.script s)) :
      Step f p (((p.recordFile f.1).storeScript s).markPresent .script)
  | taken (d first : Document) (hread : Loaded.read f.1 f.2 = .ok (.document d))
      (hslot : p.stored? d.slot = some first) :
      Step f p ((p.recordFile f.1).recordError f.1 (d.lostTo first.path))
  | free (d : Document) (hread : Loaded.read f.1 f.2 = .ok (.document d))
      (hslot : p.stored? d.slot = none) :
      Step f p (((p.recordFile f.1).store d).markPresent d.type)

theorem loadFile_step (p : Project) (f : SourceFile) : Step f p (p.loadFile f).value := by
  obtain ⟨path,text⟩ := f
  unfold loadFile
  dsimp only
  cases hread : Loaded.read path text with
  | error e =>
    have hadd : (p.recordFile path).add path text = .error e := by
      simp [add,hread,bind,Except.bind]
    rw [hadd]
    exact Step.malformed e hread
  | ok content =>
    cases content with
    | script s =>
      have hadd : (p.recordFile path).add path text =
          .ok (.script,(p.recordFile path).storeScript s) := by
        simp [add,hread,bind,Except.bind,insert,pure,Except.pure,Loaded.type,storeScript]
      rw [hadd]
      exact Step.script s hread
    | document d =>
      cases hslot : p.stored? d.slot with
      | some first =>
        have hadd : (p.recordFile path).add path text = .error (d.lostTo first.path) := by
          simp [add,hread,bind,Except.bind,insert,insertDocument_eq,hslot]
        rw [hadd]
        exact Step.taken d first hread hslot
      | none =>
        have hadd : (p.recordFile path).add path text =
            .ok (d.type,(p.recordFile path).store d) := by
          simp [add,hread,bind,Except.bind,insert,insertDocument_eq,hslot,pure,Except.pure,
            Loaded.type]
        rw [hadd]
        exact Step.free d hread hslot

def receive (path : String) (content : Except LoadError Loaded) (p : Project) : Project :=
  match content with
  | .error e => (p.recordFile path).recordError path e
  | .ok (.script s) => ((p.recordFile path).storeScript s).markPresent .script
  | .ok (.document d) =>
    match p.stored? d.slot with
    | some first => (p.recordFile path).recordError path (d.lostTo first.path)
    | none => ((p.recordFile path).store d).markPresent d.type

theorem loadFile_value (p : Project) (f : SourceFile) :
    (p.loadFile f).value = p.receive f.1 (Loaded.read f.1 f.2) := by
  have hstep := loadFile_step p f
  generalize (p.loadFile f).value = q at hstep
  cases hstep with
  | malformed e hread | script s hread => simp only [receive,hread]
  | taken d first hread hslot | free d hread hslot => simp only [receive,hread,hslot]

theorem loadFiles_induction {motive : List SourceFile → Project → Prop}
    (step : ∀ earlier f p q, Step f p q → motive earlier p → motive (earlier ++ [f]) q)
    (files earlier : List SourceFile) (p : Project) (h : motive earlier p) :
    motive (earlier ++ files) (p.loadFiles files).value := by
  induction files generalizing earlier p with
  | nil => simpa [loadFiles] using h
  | cons f rest ih =>
    have hf := step earlier f p _ (loadFile_step p f) h
    simpa [loadFiles] using ih (earlier ++ [f]) _ hf

/-- What holds of an empty project and is kept by loading a file holds of every loaded batch. -/
theorem load_induction {motive : List SourceFile → Project → Prop} (unit : AnalysisUnit)
    (start : motive [] { tracker := { unit := unit } })
    (step : ∀ earlier f p q, Step f p q → motive earlier p → motive (earlier ++ [f]) q)
    (files : List SourceFile) : motive files (load unit files).value := by
  simpa [load] using loadFiles_induction step files [] _ start

end Project
end AppLint
