import AppLint.Proofs.LoadStep

/-! The tracker of a loaded project marks exactly the types of which there are documents. -/
namespace AppLint

namespace Tracker

theorem has_markPresent (t : Tracker) (type other : FileType) :
    (t.markPresent type).has other = true ↔ t.has other = true ∨ other = type := by
  unfold markPresent has
  split
  · rename_i hmem
    simp only [List.contains_iff_mem]
    constructor
    · exact Or.inl
    · rintro (h | rfl)
      · exact h
      · exact hmem
  · simp [or_comm]

end Tracker

namespace Project

/-- The tracker knows of a type just if the project has a document of it. -/
def Truthful (p : Project) : Prop := ∀ type, p.tracker.has type = true ↔ 0 < p.fileCount type

theorem Truthful.has_eq_false {p : Project} (h : Truthful p) (type : FileType) :
    p.tracker.has type = false ↔ p.fileCount type = 0 := by
  rw [← Bool.not_eq_true,h type,Nat.not_lt,Nat.le_zero]

theorem fileCount_store (p : Project) (d : Document) (type : FileType) :
    0 < (p.store d).fileCount type ↔ 0 < p.fileCount type ∨ type = d.type := by
  cases d <;> cases type <;>
    simp [store,fileCount,Document.type,Catalog.size_insert_pos]

theorem fileCount_storeScript (p : Project) (s : ScriptDocument) (type : FileType) :
    0 < (p.storeScript s).fileCount type ↔ 0 < p.fileCount type ∨ type = .script := by
  cases type <;>
    simp [storeScript,fileCount,Catalog.size_insert_pos]

theorem Truthful.markPresent {p q : Project} {type : FileType} (h : Truthful p)
    (htracker : ∀ t, q.tracker.has t = p.tracker.has t)
    (hcount : ∀ t, 0 < q.fileCount t ↔ 0 < p.fileCount t ∨ t = type) :
    Truthful (q.markPresent type) := by
  intro t
  have hmark := Tracker.has_markPresent q.tracker type t
  rw [htracker,h t] at hmark
  exact hmark.trans (hcount t).symm

theorem truthful_step (f : SourceFile) (p q : Project) (hstep : Step f p q) (h : Truthful p) :
    Truthful q := by
  cases hstep with
  | malformed e hread => exact h
  | taken d first hread hslot => exact h
  | script s hread =>
    exact h.markPresent (fun _ => rfl) (fileCount_storeScript (p.recordFile f.1) s)
  | free d hread hslot =>
    refine h.markPresent (fun t => ?_) (fileCount_store (p.recordFile f.1) d)
    cases d <;> rfl

theorem load_truthful (unit : AnalysisUnit) (files : List SourceFile) :
    Truthful (load unit files).value := by
  have hstart : Truthful { tracker := { unit := unit } } := by
    intro type
    cases type <;> simp [Tracker.has,fileCount]
  exact load_induction (motive := fun _ p => Truthful p) unit hstart
    (fun _ f p q => truthful_step f p q) files

theorem load_has_site (unit : AnalysisUnit) (files : List SourceFile) :
    (load unit files).value.tracker.has .site = (load unit files).value.site.isSome := by
  have h := load_truthful unit files .site
  rw [Bool.eq_iff_iff,h]
  cases hs : (load unit files).value.site <;> simp [fileCount,hs]

end Project
end AppLint
