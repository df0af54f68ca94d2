import AppLint.Proofs.Bookkeeping
import AppLint.Proofs.DocumentShape

/-! How a loaded project represents its files: documents and scripts stand under their own ids and
paths, their fields are those of their trees, and nothing that is commented out is left in a
tree. -/
namespace AppLint

namespace Batch

theorem mem_of_document? {s : Slot} {files : List SourceFile} {d : Document}
    (h : document? s files = some d) :
    d.slot = s ∧ ∃ f ∈ files, Loaded.read f.1 f.2 = .ok (.document d) := by
  obtain ⟨w,hw,hd⟩ := Option.bind_eq_some_iff.mp h
  obtain ⟨d',hd',hslot⟩ := winner?_slot hw
  obtain rfl : d' = d := Option.some.inj (hd'.symm.trans hd)
  exact ⟨hslot,w,List.mem_of_find?_eq_some hw,SourceFile.document?_eq_some.mp hd⟩

theorem mem_of_script? {path : String} {files : List SourceFile} {s : ScriptDocument}
    (h : script? path files = some s) :
    ∃ f ∈ files, f.1 = path ∧ Loaded.read f.1 f.2 = .ok (.script s) := by
  obtain ⟨f,hf,hs⟩ := List.exists_of_findSome?_eq_some h
  split_ifs at hs with hpath
  exact ⟨f,List.mem_reverse.mp hf,hpath,SourceFile.script?_eq_some.mp hs⟩

theorem mem_rejections {files : List SourceFile} {f : SourceFile} {e : LoadError} (hf : f ∈ files)
    (hread : Loaded.read f.1 f.2 = .error e) (earlier : List SourceFile) :
    ⟨f.1,e⟩ ∈ rejections earlier files := by
  induction files generalizing earlier with
  | nil => cases hf
  | cons g rest ih =>
    rw [rejections,List.mem_append]
    rcases List.mem_cons.mp hf with rfl | hmem
    · exact Or.inl (by simp [rejection?,hread])
    · exact Or.inr (ih hmem _)

end Batch

theorem Document.Lacks.read_eq_error {path text : String} {type : FileType} {tree : Json.Value}
    (h : Lacks type tree) (htype : FileType.detect? path = some type)
    (htree : Json.parse text = .ok tree) : ∃ e, Loaded.read path text = .error (.document e) := by
  have hscript : type ≠ .script := by
    rintro rfl
    simp [Lacks,requiredFields] at h
  rw [Loaded.read_of_parse htype hscript htree]
  cases hdoc : ofTree type path text tree.uncommented with
  | ok d => exact absurd hdoc (h.uncommented.ofTree_ne_ok path text d)
  | error e => exact ⟨e,rfl⟩

namespace Project

theorem stored?_of_mem_pages {p : Project} {id : String} {d : Page}
    (h : (id,d) ∈ p.pages) : p.stored? (.page id) = some (.page d) := by
  simp [stored?,page?,Catalog.mem_iff_get?.mp h]

theorem stored?_of_mem_fragments {p : Project} {id : String} {d : Fragment}
    (h : (id,d) ∈ p.fragments) : p.stored? (.fragment id) = some (.fragment d) := by
  simp [stored?,fragment?,Catalog.mem_iff_get?.mp h]

namespace Aggregates
variable {files : List SourceFile} {p : Project} (h : Aggregates files p)
include h

theorem file_of_stored {s : Slot} {d : Document} (hs : p.stored? s = some d) :
    d.slot = s ∧ ∃ f ∈ files, Loaded.read f.1 f.2 = .ok (.document d) := by
  rw [h.stored] at hs
  exact Batch.mem_of_document? hs

theorem file_of_mem {d : Document} (hd : d ∈ p.documents) :
    ∃ f ∈ files, Loaded.read f.1 f.2 = .ok (.document d) := by
  have hstored : ∃ s, p.stored? s = some d := by
    simp only [documents,Catalog.values,Keyed.values,List.mem_append,List.mem_map,Option.mem_toList] at hd
    rcases hd with ((⟨-,⟨e,he,rfl⟩,rfl⟩ | ⟨-,⟨e,he,rfl⟩,rfl⟩) | ⟨d,hd,rfl⟩) | ⟨d,hd,rfl⟩
    · exact ⟨_,stored?_of_mem_pages he⟩
    · exact ⟨_,stored?_of_mem_fragments he⟩
    · exact ⟨.dataProvider,by rw [stored?,hd,Option.map_some]⟩
    · exact ⟨.site,by rw [stored?,hd,Option.map_some]⟩
  obtain ⟨s,hs⟩ := hstored
  exact (h.file_of_stored hs).2

end Aggregates

/-- What can be relied on in a project that is loaded from `files`. -/
structure Represents (files : List SourceFile) (p : Project) : Prop where
  pages : ∀ id d, (id,d) ∈ p.pages → d.id = id ∧ d.body.Frames d.id ∧ d.HasTitle
  fragments : ∀ id d, (id,d) ∈ p.fragments → d.id = id ∧ d.body.Frames d.id
  scripts : ∀ path s, (path,s) ∈ p.scripts → s.path = path ∧
    s.path ∈ p.tracker.filesAnalyzed ∧ FileType.detect? s.path = some .script
  documents : ∀ d ∈ p.documents,
    d.path ∈ p.tracker.filesAnalyzed ∧ FileType.detect? d.path = some d.type
  plain : ∀ d ∈ p.documents, ∀ fields,
    fields ∈ d.tree.objects ∨ (∃ path, d.tree.at? path = some (.object fields)) →
      ∀ rest, "_" ++ rest ∉ Keyed.keys fields
  required : ∀ f ∈ files, ∀ type tree, FileType.detect? f.1 = some type →
    Json.parse f.2 = .ok tree → Document.Lacks type tree →
      (∀ d ∈ p.documents, ¬(d.path = f.1 ∧ d.body.raw = f.2)) ∧
      ∃ e, ⟨f.1,.document e⟩ ∈ p.parseErrors

/-- In a loaded project all pages and fragments stand under their ids and all scripts under their
paths. Ids, titles and components are as the trees have them, the path of a document is that of a
file of its type in the batch, and no tree has a commented-out field at any depth. A file in which a
needed field is missing, or there only as a comment, is reported and not stored. -/
theorem load_represents (unit : AnalysisUnit) (files : List SourceFile) :
    Represents files (load unit files).value := by
  have h := load_aggregates unit files
  have hanalyzed := (load_recorded unit files).analyzed
  exact
    { pages := by
        intro id d hd
        obtain ⟨hslot,f,-,hread⟩ := h.file_of_stored (stored?_of_mem_pages hd)
        obtain ⟨type,tree,-,-,-,hdoc⟩ := Loaded.read_eq_document.mp hread
        exact ⟨Slot.page.inj hslot,Page.fits_of_ofTree hdoc⟩
      fragments := by
        intro id d hd
        obtain ⟨hslot,f,-,hread⟩ := h.file_of_stored (stored?_of_mem_fragments hd)
        obtain ⟨type,tree,-,-,-,hdoc⟩ := Loaded.read_eq_document.mp hread
        exact ⟨Slot.fragment.inj hslot,Fragment.frames_of_ofTree hdoc⟩
      scripts := by
        intro path s hs
        obtain ⟨f,hf,hpath,hread⟩ := Batch.mem_of_script? ((h.scripts path s).mp hs)
        rw [Loaded.read_script_path hread,hanalyzed]
        exact ⟨hpath,List.mem_map_of_mem hf,(Loaded.read_eq_script.mp hread).1⟩
      documents := by
        intro d hd
        obtain ⟨f,hf,hread⟩ := h.file_of_mem hd
        obtain ⟨type,tree,htype,-,-,hdoc⟩ := Loaded.read_eq_document.mp hread
        rw [Loaded.read_document_path hread,hanalyzed,Document.ofTree_type hdoc]
        exact ⟨List.mem_map_of_mem hf,htype⟩
      plain := by
        intro d hd fields hfields rest hmem
        obtain ⟨f,-,hread⟩ := h.file_of_mem hd
        obtain ⟨type,tree,-,-,-,hdoc⟩ := Loaded.read_eq_document.mp hread
        rw [Document.tree,Document.ofTree_body hdoc] at hfields
        have hplain : Json.isCommented ("_" ++ rest) = false := by
          rcases hfields with hwalk | ⟨path,hpath⟩
          · exact Json.Value.isCommented_of_mem_objects hwalk hmem
          · exact Json.Value.isCommented_of_at?_uncommented hpath hmem
        simp [(Json.isCommented_iff _).mpr ⟨rest,rfl⟩] at hplain
      required := by
        intro f hf type tree htype htree hlacks
        obtain ⟨e,hread⟩ := hlacks.read_eq_error htype htree
        refine ⟨?_,e,?_⟩
        · rintro d hd ⟨hpath,hraw⟩
          obtain ⟨g,-,hg⟩ := h.file_of_mem hd
          obtain ⟨type',tree',-,-,-,hdoc⟩ := Loaded.read_eq_document.mp hg
          rw [Document.path,Document.ofTree_body hdoc] at hpath
          rw [Document.ofTree_body hdoc] at hraw
          -- The file that the document comes from would be one that cannot be read.
          dsimp only at hpath hraw
          rw [hpath,hraw,hread] at hg
          cases hg
        · rw [h.parseErrors]
          exact Batch.mem_rejections hf hread [] }

/-- A page with a title that is commented out, and one with no id but a commented-out one. -/
theorem load_represents_drafts :
    let files := [
      ("a.page","\x7b\"id\":\"a\",\"_title\":\"Draft\",\"components\":[\x7b\"_on\":1\x7d]\x7d"),
      ("b.page","\x7b\"_id\":\"b\"\x7d")]
    let p := (load .individualFiles files).value
    Document.Lacks .page (.object [("_id",.string "b")]) ∧
      (∃ e, ⟨"b.page",.document e⟩ ∈ p.parseErrors) ∧
      (∀ d ∈ p.documents, d.path ≠ "b.page") ∧
      p.pages.entries.map (fun (id,d) => (id,d.title)) = [("a",none)] := by
  intro files p
  have htree : Json.parse "\x7b\"_id\":\"b\"\x7d" = .ok (.object [("_id",.string "b")]) :=
    Except.toOption_eq_some.mp (by decide +kernel)
  have hlacks : Document.Lacks .page (.object [("_id",.string "b")]) :=
    Or.inl ⟨"id",by simp [Document.requiredFields],by decide +kernel⟩
  have hfile := (load_represents .individualFiles files).required ("b.page",_) (by simp [files])
    .page _ (by decide +kernel) htree hlacks
  exact ⟨hlacks,hfile.2,by decide +kernel,by decide +kernel⟩

end Project
end AppLint
