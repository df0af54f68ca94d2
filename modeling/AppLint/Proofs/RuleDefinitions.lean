import AppLint.DeclaredRule
import AppLint.Proofs.Except
import AppLint.Proofs.TextPieces

/-! When a definition defines a rule, and what it says about the files and texts that are searched. -/
namespace AppLint

theorem Text.trim_eq_nil_iff {s : List Char} : trim s = [] ↔ Blank s := by
  constructor
  · intro h
    obtain ⟨a,b,ha,hb,hs⟩ := eq_append_trim s
    rw [h,List.append_nil] at hs
    intro c hc
    rcases List.mem_append.mp (hs ▸ hc) with hc | hc
    · exact ha c hc
    · exact hb c hc
  · intro h
    simpa using trim_append_left h []

theorem any_eq_of_forall₂ {α β : Type} {R : α → β → Prop} {xs : List α} {ys : List β}
    (h : List.Forall₂ R xs ys) {p : α → Bool} {q : β → Bool} (hpq : ∀ x y, R x y → q y = p x) :
    ys.any q = xs.any p := by
  induction h with
  | nil => rfl
  | cons hxy _ ih => rw [List.any_cons,List.any_cons,hpq _ _ hxy,ih]

namespace GlobSet

theorem build_eq_ok {globs : List Glob} {s : GlobSet} : build globs = .ok s ↔ s.globs = globs := by
  unfold build
  split
  · rename_i hcheck
    constructor
    · intro h
      cases h
      rfl
    · rintro rfl
      rfl
  · rename_i e hcheck
    constructor
    · intro h
      cases h
    · rintro rfl
      cases hcheck.symm.trans s.checked

end GlobSet

namespace RuleDefinition

def matchesText (d : RuleDefinition) (text : List Char) : Bool :=
  match Regex.parse d.pattern with
  | .ok pattern => pattern.isMatch text
  | .error _ => false

/-- Files of the type are searched, since there are no tags or one is that of the type. -/
def coversType (d : RuleDefinition) (type : FileType) : Bool :=
  d.appliesTo.isEmpty || d.appliesTo.any fun tag => FileType.parse? tag = some type

/-- Files under the path are searched, since there are no wildcard patterns or one matches it. -/
def coversPath (d : RuleDefinition) (path : String) : Bool :=
  d.files.isEmpty || d.files.any fun source =>
    match Glob.parse source with
    | .ok glob => glob.isMatch path
    | .error _ => false

/-- The severity that the definition names; without one its findings are warnings. -/
def HasSeverity (d : RuleDefinition) (severity : Severity) : Prop :=
  d.severity.elim (severity = .warning) fun name => Severity.parse? name = some severity

end RuleDefinition

namespace DeclaredRule

theorem readSeverity_eq_ok_iff {name? : Option String} {severity : Severity} :
    readSeverity name? = .ok severity ↔
      name?.elim (severity = .warning) fun name => Severity.parse? name = some severity := by
  cases name? with
  | none => simp [readSeverity,eq_comm]
  | some name => cases h : Severity.parse? name <;> simp [readSeverity,h]

theorem readFileType_eq_ok {tag : String} {type : FileType} :
    readFileType tag = .ok type ↔ FileType.parse? tag = some type := by
  cases h : FileType.parse? tag <;> simp [readFileType,h]

theorem readGlob_eq_ok {source : String} {glob : Glob} :
    readGlob source = .ok glob ↔ Glob.parse source = .ok glob :=
  Except.mapError_eq_ok

theorem readFileTypes_eq_ok {tags : List String} {types : List FileType} :
    readFileTypes tags = .ok types ↔
      tags = [] ∧ types = FileType.all ∨
        tags ≠ [] ∧ List.Forall₂ (fun tag type => FileType.parse? tag = some type) tags types := by
  unfold readFileTypes
  cases tags with
  | nil => simp [eq_comm]
  | cons tag rest =>
    simp only [List.isEmpty_cons,Bool.false_eq_true,if_false,Except.mapM_eq_ok,readFileType_eq_ok,
      reduceCtorEq,false_and,false_or,ne_eq,not_false_eq_true,true_and]

theorem readGlobs_eq_ok {sources : List String} {files : Option GlobSet} :
    readGlobs sources = .ok files ↔
      sources = [] ∧ files = none ∨
        sources ≠ [] ∧ ∃ set, files = some set ∧
          List.Forall₂ (fun source glob => Glob.parse source = .ok glob) sources set.globs := by
  unfold readGlobs
  cases sources with
  | nil => simp [eq_comm]
  | cons source rest =>
    simp only [List.isEmpty_cons,Bool.false_eq_true,if_false,Except.bind_eq_ok,Except.mapM_eq_ok,
      Except.mapError_eq_ok,GlobSet.build_eq_ok,readGlob_eq_ok,reduceCtorEq,false_and,false_or,ne_eq,
      not_false_eq_true,true_and]
    constructor
    · rintro ⟨globs,hglobs,set,rfl,hlast⟩
      cases hlast
      exact ⟨set,rfl,hglobs⟩
    · rintro ⟨set,rfl,hglobs⟩
      exact ⟨set.globs,hglobs,set,rfl,rfl⟩

structure Defined (d : RuleDefinition) (r : DeclaredRule) : Prop where
  notBlank : ¬Text.Blank d.id.toList
  id : r.id = d.id
  description : r.description = d.description.getD d.message
  message : r.message = d.message
  severity : readSeverity d.severity = .ok r.severity
  pattern : Regex.parse d.pattern = .ok r.pattern
  appliesTo : readFileTypes d.appliesTo = .ok r.appliesTo
  key : r.key = d.key
  files : readGlobs d.files = .ok r.files

theorem compile_eq_ok_iff {d : RuleDefinition} {r : DeclaredRule} :
    compile d = .ok r ↔ Defined d r := by
  unfold compile
  split
  · rename_i hempty
    constructor
    · intro h
      cases h
    · intro h
      exact absurd (Text.trim_eq_nil_iff.mp (List.isEmpty_iff.mp hempty)) h.notBlank
  · rename_i hempty
    simp only [Except.bind_eq_ok,Except.mapError_eq_ok]
    constructor
    · rintro ⟨pattern,hpattern,severity,hseverity,appliesTo,happliesTo,files,hfiles,hlast⟩
      cases hlast
      refine ⟨fun hblank => hempty ?_,rfl,rfl,rfl,hseverity,hpattern,happliesTo,rfl,hfiles⟩
      exact List.isEmpty_iff.mpr (Text.trim_eq_nil_iff.mpr hblank)
    · intro h
      obtain ⟨-,hid,hdescription,hmessage,hseverity,hpattern,happliesTo,hkey,hfiles⟩ := h
      refine ⟨_,hpattern,_,hseverity,_,happliesTo,_,hfiles,?_⟩
      rw [← hid,← hdescription,← hmessage,← hkey]
      rfl

namespace Defined
variable {d : RuleDefinition} {r : DeclaredRule} (h : Defined d r)
include h

theorem hasSeverity : d.HasSeverity r.severity := readSeverity_eq_ok_iff.mp h.severity

theorem isMatch_eq (text : List Char) : r.pattern.isMatch text = d.matchesText text := by
  simp only [RuleDefinition.matchesText,h.pattern]

theorem coversType_eq (type : FileType) : r.appliesTo.contains type = d.coversType type := by
  unfold RuleDefinition.coversType
  rcases readFileTypes_eq_ok.mp h.appliesTo with ⟨htags,htypes⟩ | ⟨htags,htypes⟩
  · rw [htags,htypes]
    cases type <;> rfl
  · have hany : r.appliesTo.any (type == ·) =
        d.appliesTo.any fun tag => FileType.parse? tag = some type := by
      refine any_eq_of_forall₂ htypes fun tag other htag => ?_
      rw [htag,Bool.eq_iff_iff,beq_iff_eq,decide_eq_true_eq,Option.some.injEq]
      exact eq_comm
    rw [List.contains_eq_any_beq,hany,List.isEmpty_eq_false_iff.mpr htags,Bool.false_or]

theorem coversPath_eq (path : String) :
    r.files.all (·.isMatch path) = d.coversPath path := by
  unfold RuleDefinition.coversPath
  rcases readGlobs_eq_ok.mp h.files with ⟨hsources,hfiles⟩ | ⟨hsources,set,hfiles,hparse⟩
  · simp [hsources,hfiles]
  · have hany := any_eq_of_forall₂ (q := (·.isMatch path)) (p := fun source =>
        match Glob.parse source with
        | .ok glob => glob.isMatch path
        | .error _ => false) hparse fun source glob hglob => by simp only [hglob]
    simp [hsources,hfiles,GlobSet.isMatch,hany]

theorem applies_eq (type : FileType) (path : String) :
    r.applies type path = (d.coversType type && d.coversPath path) := by
  rw [applies,h.coversType_eq,h.coversPath_eq]

end Defined

end DeclaredRule
end AppLint
