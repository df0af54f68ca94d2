import AppLint.Proofs.LoadStep
import Mathlib.Data.List.Forall2

/-! Projects without the texts of their documents. Texts serve to look up lines only: what a batch
loads to, the texts apart, is given by the paths and trees of its files. -/
namespace AppLint

def Body.withoutText (b : Body) : Body := { b with raw := "" }

def Page.withoutText (d : Page) : Page := { d with body := d.body.withoutText }

def Fragment.withoutText (d : Fragment) : Fragment := { d with body := d.body.withoutText }

theorem Page.id_withoutText (d : Page) : d.withoutText.id = d.id := rfl

theorem Fragment.id_withoutText (d : Fragment) : d.withoutText.id = d.id := rfl

def DataProviderDocument.withoutText (d : DataProviderDocument) : DataProviderDocument :=
  { d with body := d.body.withoutText }

def Site.withoutText (d : Site) : Site := { d with body := d.body.withoutText }

namespace Document

def withoutText : Document → Document
  | page d => page d.withoutText
  | fragment d => fragment d.withoutText
  | dataProvider d => dataProvider d.withoutText
  | site d => site d.withoutText

@[simp] theorem slot_withoutText (d : Document) : d.withoutText.slot = d.slot := by
  cases d <;> rfl
@[simp] theorem type_withoutText (d : Document) : d.withoutText.type = d.type := by
  cases d <;> rfl
@[simp] theorem path_withoutText (d : Document) : d.withoutText.path = d.path := by
  cases d <;> rfl
@[simp] theorem tree_withoutText (d : Document) : d.withoutText.tree = d.tree := by
  cases d <;> rfl
@[simp] theorem lostTo_withoutText (path : String) (d : Document) :
    d.withoutText.lostTo path = d.lostTo path := by
  cases d <;> rfl

theorem ofTree_withoutText (type : FileType) (path raw : String) (tree : Json.Value) :
    (ofTree type path raw tree).map withoutText = ofTree type path "" tree := by
  unfold ofTree
  split
  · rfl
  · cases validate type tree with
    | error e => rfl
    | ok _ => cases type <;> rfl

end Document

namespace Loaded

def withoutText : Loaded → Loaded
  | script s => script s
  | document d => document d.withoutText

/-- What is read from a JSON text, the text apart, is given by its tree. -/
theorem read_withoutText {path text : String} {type : FileType} {tree : Json.Value}
    (htype : FileType.detect? path = some type) (hscript : type ≠ .script)
    (htree : Json.parse text = .ok tree) :
    (read path text).map withoutText =
      ((Document.ofTree type path "" tree.uncommented).map document).mapError .document := by
  rw [read_of_parse htype hscript htree,← Document.ofTree_withoutText type path text]
  cases Document.ofTree type path text tree.uncommented <;> rfl

end Loaded

namespace Project

def withoutText (p : Project) : Project :=
  { p with
    pages := p.pages.map Page.withoutText Page.id_withoutText
    fragments := p.fragments.map Fragment.withoutText Fragment.id_withoutText
    dataProvider := p.dataProvider.map DataProviderDocument.withoutText
    site := p.site.map Site.withoutText }

@[simp] theorem page?_withoutText (p : Project) (id : String) :
    p.withoutText.page? id = (p.page? id).map Page.withoutText :=
  Catalog.get?_map _ Page.id_withoutText p.pages id

@[simp] theorem fragment?_withoutText (p : Project) (id : String) :
    p.withoutText.fragment? id = (p.fragment? id).map Fragment.withoutText :=
  Catalog.get?_map _ Fragment.id_withoutText p.fragments id

theorem stored?_withoutText (p : Project) (s : Slot) :
    p.withoutText.stored? s = (p.stored? s).map Document.withoutText := by
  cases s with
  | page id =>
    simp only [stored?,page?_withoutText,Option.map_map]
    rfl
  | fragment id =>
    simp only [stored?,fragment?_withoutText,Option.map_map]
    rfl
  | dataProvider =>
    simp only [stored?,withoutText,Option.map_map]
    rfl
  | site =>
    simp only [stored?,withoutText,Option.map_map]
    rfl

theorem store_withoutText (p : Project) (d : Document) :
    (p.store d).withoutText = p.withoutText.store d.withoutText := by
  cases d with
  | page d | fragment d =>
    simp only [store,withoutText,Document.withoutText,Catalog.map_insert]
  | dataProvider d | site d => rfl

/-- A file does the same to a project whether texts are dropped before or after: whether a place is
taken, and by which path, does not depend on them. -/
theorem receive_withoutText (p : Project) (path : String) (content : Except LoadError Loaded) :
    (p.receive path content).withoutText =
      p.withoutText.receive path (content.map Loaded.withoutText) := by
  cases content with
  | error e => rfl
  | ok c =>
    cases c with
    | script s => rfl
    | document d =>
      simp only [receive,Except.map,Loaded.withoutText,Document.slot_withoutText,
        stored?_withoutText]
      cases p.stored? d.slot with
      | some first =>
        simp only [Option.map_some,Document.lostTo_withoutText,Document.path_withoutText]
        rfl
      | none =>
        have hstore := store_withoutText (p.recordFile path) d
        simp only [Option.map_none,Document.type_withoutText]
        exact congrArg (markPresent d.type) hstore

end Project

namespace SourceFile

/-- Two files with one path have the same text, or JSON texts for a document with trees that differ
in commented-out fields only. -/
def SameButComments (f g : SourceFile) : Prop :=
  f.1 = g.1 ∧ (f.2 = g.2 ∨ ∃ type tree tree', FileType.detect? f.1 = some type ∧ type ≠ .script ∧
    Json.parse f.2 = .ok tree ∧ Json.parse g.2 = .ok tree' ∧ tree.uncommented = tree'.uncommented)

theorem SameButComments.read_eq {f g : SourceFile} (h : f.SameButComments g) :
    (Loaded.read f.1 f.2).map Loaded.withoutText =
      (Loaded.read g.1 g.2).map Loaded.withoutText := by
  obtain ⟨hpath,htext | ⟨type,tree,tree',htype,hscript,htree,htree',hsame⟩⟩ := h
  · rw [hpath,htext]
  · rw [Loaded.read_withoutText htype hscript htree,hsame,
      Loaded.read_withoutText (hpath ▸ htype) hscript htree',hpath]

end SourceFile

namespace Project

-- The two runs go in step: after each file they differ in texts only.
theorem loadFiles_withoutText {files files' : List SourceFile}
    (h : List.Forall₂ SourceFile.SameButComments files files') {p q : Project}
    (hpq : p.withoutText = q.withoutText) :
    (p.loadFiles files).value.withoutText = (q.loadFiles files').value.withoutText := by
  induction h generalizing p q with
  | nil => exact hpq
  | @cons f g rest rest' hfg _ ih =>
    have hfile : (p.loadFile f).value.withoutText = (q.loadFile g).value.withoutText := by
      rw [loadFile_value,loadFile_value,receive_withoutText,receive_withoutText,hpq,hfg.1,
        ← hfg.read_eq,hfg.1]
    simpa only [loadFiles,Logged.value_bind] using ih hfile

theorem load_withoutText (unit : AnalysisUnit) {files files' : List SourceFile}
    (h : List.Forall₂ SourceFile.SameButComments files files') :
    (load unit files).value.withoutText = (load unit files').value.withoutText := by
  simpa only [load,Logged.value_bind,Logged.value_pure] using loadFiles_withoutText h rfl

end Project
end AppLint
