import AppLint.Proofs.FileOrder

/-! A file that cannot be loaded leaves nothing behind but its error: the other files of the batch
give the same project on their own. -/
namespace AppLint

namespace Project

def outcomes (p : Project) : List SourceFile → List (SourceFile × Option LoadError)
  | [] => []
  | f :: rest =>
    let q := (p.loadFile f).value
    (f,(q.parseErrors.drop p.parseErrors.length).head?.map ParseError.error) :: q.outcomes rest

def failures (outcomes : List (SourceFile × Option LoadError)) : List ParseError :=
  outcomes.filterMap fun (f,error?) => error?.map fun e => ⟨f.1,e⟩

def kept (p : Project) (files : List SourceFile) : List SourceFile :=
  ((p.outcomes files).filter fun outcome => outcome.2.isNone).map Prod.fst

theorem map_fst_outcomes (p : Project) (files : List SourceFile) :
    (p.outcomes files).map Prod.fst = files := by
  induction files generalizing p with
  | nil => rfl
  | cons f rest ih => simp [outcomes,ih]

theorem step_parseErrors {f : SourceFile} {p q : Project} (hstep : Step f p q) :
    q.parseErrors = p.parseErrors ∨ ∃ e, q.parseErrors = p.parseErrors ++ [⟨f.1,e⟩] := by
  cases hstep with
  | malformed e hread => exact Or.inr ⟨e,rfl⟩
  | taken d first hread hslot => exact Or.inr ⟨d.lostTo first.path,rfl⟩
  | script s hread => exact Or.inl rfl
  | free d hread hslot => exact Or.inl (by simp [markPresent,recordFile])

section
variable {p : Project} {f : SourceFile}

theorem outcomes_cons_loaded (h : (p.loadFile f).value.parseErrors = p.parseErrors)
    (rest : List SourceFile) :
    p.outcomes (f :: rest) = (f,none) :: (p.loadFile f).value.outcomes rest := by
  simp [outcomes,h]

theorem outcomes_cons_failed {e : LoadError}
    (h : (p.loadFile f).value.parseErrors = p.parseErrors ++ [⟨f.1,e⟩]) (rest : List SourceFile) :
    p.outcomes (f :: rest) = (f,some e) :: (p.loadFile f).value.outcomes rest := by
  simp [outcomes,h]

end

theorem loadFiles_cons (p : Project) (f : SourceFile) (rest : List SourceFile) :
    (p.loadFiles (f :: rest)).value = ((p.loadFile f).value.loadFiles rest).value := by
  simp [loadFiles]

theorem loadFiles_parseErrors (p : Project) (files : List SourceFile) :
    (p.loadFiles files).value.parseErrors = p.parseErrors ++ failures (p.outcomes files) := by
  induction files generalizing p with
  | nil => simp [loadFiles,outcomes,failures]
  | cons f rest ih =>
    rw [loadFiles_cons,ih]
    rcases step_parseErrors (loadFile_step p f) with hloaded | ⟨e,hfailed⟩
    · simp [outcomes_cons_loaded hloaded,failures,hloaded]
    · simp [outcomes_cons_failed hfailed,failures,hfailed]

section
variable {p q : Project}

theorem SameDocuments.stored? (h : q.SameDocuments p) (s : Slot) : q.stored? s = p.stored? s := by
  cases s <;>
    simp only [Project.stored?,page?,fragment?,h.pages,h.fragments,h.dataProvider,h.site]

theorem SameDocuments.store (h : q.SameDocuments p) (d : Document) :
    (q.store d).SameDocuments (p.store d) := by
  cases d with
  | page d => exact { h with pages := by simp only [Project.store,h.pages] }
  | fragment d => exact { h with fragments := by simp only [Project.store,h.fragments] }
  | dataProvider d => exact { h with dataProvider := rfl }
  | site d => exact { h with site := rfl }

theorem SameDocuments.storeScript (h : q.SameDocuments p) (s : ScriptDocument) :
    (q.storeScript s).SameDocuments (p.storeScript s) :=
  { h with scripts := by simp only [Project.storeScript,h.scripts] }

end

structure Mirrors (q p : Project) : Prop extends q.SameDocuments p where
  clean : q.parseErrors = []

/-- A project without the errors follows each file that is loaded, and stays as it is at each file
that fails. -/
theorem Mirrors.step {f : SourceFile} {p p' q : Project} (h : Mirrors q p) (hstep : Step f p p') :
    (p'.parseErrors = p.parseErrors ∧ Mirrors (q.loadFile f).value p') ∨
      ((∃ e, p'.parseErrors = p.parseErrors ++ [⟨f.1,e⟩]) ∧ Mirrors q p') := by
  cases hstep with
  | malformed e hread =>
    exact Or.inr ⟨⟨e,rfl⟩,⟨{ h.toSameDocuments with },h.clean⟩⟩
  | taken d first hread hslot =>
    exact Or.inr ⟨⟨d.lostTo first.path,rfl⟩,⟨{ h.toSameDocuments with },h.clean⟩⟩
  | script s hread =>
    have hq : (q.loadFile f).value = ((q.recordFile f.1).storeScript s).markPresent .script := by
      simp only [loadFile_value,receive,hread]
    rw [hq]
    have hsame := h.toSameDocuments.storeScript s
    exact Or.inl ⟨rfl,⟨{ hsame with },h.clean⟩⟩
  | free d hread hslot =>
    -- The place is free in both projects, since they have the same documents.
    have hfree : q.stored? d.slot = none := (h.stored? d.slot).trans hslot
    have hq : (q.loadFile f).value = ((q.recordFile f.1).store d).markPresent d.type := by
      simp only [loadFile_value,receive,hread,hfree]
    rw [hq]
    have hrecorded : (q.recordFile f.1).SameDocuments (p.recordFile f.1) :=
      { h.toSameDocuments with }
    have hsame := hrecorded.store d
    exact Or.inl ⟨by simp [markPresent,recordFile],
      ⟨{ hsame with },by simpa [markPresent,recordFile] using h.clean⟩⟩

theorem Mirrors.loadFiles {p q : Project} (h : Mirrors q p) (files : List SourceFile) :
    Mirrors (q.loadFiles (p.kept files)).value (p.loadFiles files).value := by
  induction files generalizing p q with
  | nil => exact h
  | cons f rest ih =>
    rcases h.step (loadFile_step p f) with ⟨hloaded,hnext⟩ | ⟨⟨e,hfailed⟩,hnext⟩
    · have hkept : p.kept (f :: rest) = f :: (p.loadFile f).value.kept rest := by
        simp [kept,outcomes_cons_loaded hloaded]
      rw [hkept,loadFiles_cons,loadFiles_cons]
      exact ih hnext
    · have hkept : p.kept (f :: rest) = (p.loadFile f).value.kept rest := by
        simp [kept,outcomes_cons_failed hfailed]
      rw [hkept,loadFiles_cons]
      exact ih hnext

/-- The files of a batch that are loaded without an error give, on their own, a project without
errors that has the same documents and scripts. All rules find the same in it and leave out the same
checks. -/
theorem load_without_failed (unit : AnalysisUnit) (files : List SourceFile) :
    let start : Project := { tracker := { unit := unit } }
    let p := (load unit files).value
    let q := (load unit (start.kept files)).value
    (start.outcomes files).map Prod.fst = files ∧
    failures (start.outcomes files) = p.parseErrors ∧
    q.parseErrors = [] ∧
    q.pages = p.pages ∧ q.fragments = p.fragments ∧ q.scripts = p.scripts ∧
    q.dataProvider = p.dataProvider ∧ q.site = p.site ∧
    (∀ type, q.fileCount type = p.fileCount type) ∧
    q.tracker.filesPresent = p.tracker.filesPresent ∧
    (∀ b : BuiltinRule, b.analyze q = b.analyze p) ∧
    ∀ r : DeclaredRule, r.analyze q = r.analyze p := by
  intro start p q
  have herrors : p.parseErrors = failures (start.outcomes files) :=
    loadFiles_parseErrors start files
  have hstart : Mirrors start start := ⟨⟨rfl,rfl,rfl,rfl,rfl⟩,rfl⟩
  have hmirrors : Mirrors q p := hstart.loadFiles files
  have h : q.Alike p :=
    (load_truthful unit _).alike (load_truthful unit files) hmirrors.toSameDocuments
  have hpresent : q.tracker.filesPresent = p.tracker.filesPresent := by
    simp only [Tracker.filesPresent,h.has]
  exact ⟨map_fst_outcomes start files,herrors.symm,hmirrors.clean,h.pages,h.fragments,h.scripts,
    h.dataProvider,h.site,h.fileCount,hpresent,BuiltinRule.analyze_of_alike h,
    DeclaredRule.analyze_of_alike h⟩

example :
    let start : Project := { tracker := { unit := .fullApp } }
    let files := [("a.page","\x7b\"id\":\"a\"\x7d"),("b.page","\x7b"),
      ("again.page","\x7b\"id\":\"a\"\x7d"),("c.txt",""),("d.page","\x7b\"id\":\"d\"\x7d")]
    (start.kept files).map Prod.fst = ["a.page","d.page"] := by
  decide +kernel

end Project
end AppLint
