import AppLint.FileType
import AppLint.Proofs.TextPieces

/-! The type of a file is decided by the end of its name: which endings stand for which type. -/
namespace AppLint

namespace FileType

/-- The name of a file without one `.json` at its end. -/
def stem (name : List Char) : List Char := Text.dropSuffix ".json".toList name

section
variable {e name : List Char} (he : '.' ∉ e) (hjson : e ≠ "json".toList)
include he hjson

theorem not_isSuffix_of_json (h : ".json".toList <:+ name) : ¬ '.' :: e <:+ name := fun hsuffix =>
  hjson (Text.eq_of_cons_isSuffix he (by decide) hsuffix h)

theorem isSuffix_stem_iff :
    '.' :: e <:+ stem name ↔ '.' :: e <:+ name ∨ '.' :: e ++ ".json".toList <:+ name := by
  rcases Text.dropSuffix_cases ".json".toList name with hname | ⟨hname,hnot⟩
  · have hends : ".json".toList <:+ name := ⟨_,hname.symm⟩
    have hcancel : '.' :: e ++ ".json".toList <:+ name ↔ '.' :: e <:+ stem name := by
      constructor
      · rintro ⟨front,hfront⟩
        rw [hname,← List.append_assoc] at hfront
        exact ⟨front,List.append_cancel_right hfront⟩
      · rintro ⟨front,hfront⟩
        refine ⟨front,?_⟩
        rw [← List.append_assoc,hfront]
        exact hname.symm
    rw [hcancel]
    exact (or_iff_right (not_isSuffix_of_json he hjson hends)).symm
  · have hdouble : ¬ '.' :: e ++ ".json".toList <:+ name := fun h =>
      hnot ((List.suffix_append _ _).trans h)
    rw [stem,hname]
    exact (or_iff_left hdouble).symm

theorem isSuffix_stem_and_iff :
    '.' :: e <:+ stem name ∧ ¬ ".json".toList <:+ name ↔ '.' :: e <:+ name := by
  rw [isSuffix_stem_iff he hjson]
  constructor
  · rintro ⟨hend | hdouble,hnot⟩
    · exact hend
    · exact absurd ((List.suffix_append _ _).trans hdouble) hnot
  · intro h
    exact ⟨Or.inl h,fun hends => not_isSuffix_of_json he hjson hends h⟩

end

def extensions : FileType → List String
  | page => ["page"]
  | fragment => ["fragment"]
  | dataProvider => ["dataprovider","provider"]
  | site => ["site"]
  | script => ["script"]

theorem extensions_plain (type : FileType) :
    ∀ e ∈ extensions type, '.' ∉ e.toList ∧ e ≠ "json" ∧ e ≠ "js" := by
  cases type <;> decide

theorem ofExtension?_eq_some {extension : String} {type : FileType} :
    ofExtension? extension = some type ↔ extension ∈ extensions type := by
  unfold ofExtension?
  constructor
  · intro h
    split_ifs at h with hpage hfragment hprovider hsite hscript
    all_goals cases h
    · exact List.mem_singleton.mpr hpage
    · exact List.mem_singleton.mpr hfragment
    · simpa [extensions] using hprovider
    · exact List.mem_singleton.mpr hsite
    · exact List.mem_singleton.mpr hscript
  · intro h
    cases type with
    | dataProvider =>
      have hcases : extension = "dataprovider" ∨ extension = "provider" := by
        simpa [extensions] using h
      rcases hcases with rfl | rfl <;> rfl
    | _ =>
      cases List.mem_singleton.mp h
      rfl

def extension (s : List Char) : String := String.ofList (Text.afterLast (· == '.') s)

theorem isSuffix_iff_extension {s : List Char} (hdot : '.' ∈ s) {e : String} (he : '.' ∉ e.toList) :
    '.' :: e.toList <:+ s ↔ extension s = e := by
  rw [Text.cons_isSuffix_iff he,extension]
  constructor
  · rintro ⟨-,h⟩
    rw [h,String.ofList_toList]
  · rintro rfl
    exact ⟨hdot,by simp⟩

/-- A type is found by an extension, also before `.json`; a script by `.js` too, but not before it. -/
theorem detect?_eq_some {path : String} {type : FileType} :
    detect? path = some type ↔
      (∃ e ∈ extensions type, '.' :: e.toList <:+ stem (baseName path)) ∨
        type = script ∧ '.' :: "js".toList <:+ stem (baseName path) ∧
          ¬ ".json".toList <:+ baseName path := by
  have hdetect : detect? path =
      if (stem (baseName path)).contains '.' then
        if extension (stem (baseName path)) = "js" then
          if ".json".toList.isSuffixOf (baseName path) then none else some script
        else ofExtension? (extension (stem (baseName path)))
      else none := rfl
  simp only [hdetect,List.contains_iff_mem,List.isSuffixOf_iff_suffix]
  generalize stem (baseName path) = s
  by_cases hdot : '.' ∈ s
  · rw [if_pos hdot,isSuffix_iff_extension hdot (by decide)]
    have hexists : (∃ e ∈ extensions type, '.' :: e.toList <:+ s) ↔
        extension s ∈ extensions type := by
      constructor
      · rintro ⟨e,he,hends⟩
        rwa [(isSuffix_iff_extension hdot (extensions_plain type e he).1).mp hends]
      · intro h
        exact ⟨_,h,(isSuffix_iff_extension hdot (extensions_plain type _ h).1).mpr rfl⟩
    have hnot : "js" ∉ extensions type := fun h => (extensions_plain type _ h).2.2 rfl
    rw [hexists]
    split_ifs with hjs hjson
    · simp only [hjs,hnot,hjson,not_true_eq_false,and_false,or_false]
    · simp only [hjs,hnot,hjson,not_false_eq_true,and_true,false_or,Option.some.injEq]
      exact eq_comm
    · simp only [hjs,false_and,and_false,or_false,ofExtension?_eq_some]
  · have hnone : ∀ e : List Char, ¬ '.' :: e <:+ s := fun e h => hdot (h.subset (by simp))
    simp [hdot,hnone]

def suffixes : FileType → List String
  | page => [".page",".page.json"]
  | fragment => [".fragment",".fragment.json"]
  | dataProvider => [".dataprovider",".dataprovider.json",".provider",".provider.json"]
  | site => [".site",".site.json"]
  | script => [".script",".js"]

/-- The name ends as those of files of the type do. -/
def Marks (type : FileType) (name : List Char) : Prop :=
  ∃ suffix ∈ suffixes type, suffix.toList <:+ name

theorem marks_iff_of_ne {type : FileType} (htype : type ≠ script) {name : List Char} :
    Marks type name ↔ ∃ e ∈ extensions type, '.' :: e.toList <:+ stem name := by
  have hsuffixes : suffixes type =
      (extensions type).flatMap fun e => ["." ++ e,"." ++ e ++ ".json"] := by
    cases type with
    | script => exact absurd rfl htype
    | _ => rfl
  have hstem : ∀ e ∈ extensions type, '.' :: e.toList <:+ stem name ↔
      ("." ++ e).toList <:+ name ∨ ("." ++ e ++ ".json").toList <:+ name := by
    intro e he
    obtain ⟨hdot,hjson,-⟩ := extensions_plain type e he
    have hdotted : ("." ++ e).toList = '.' :: e.toList := by simp
    rw [isSuffix_stem_iff hdot fun h => hjson (String.toList_inj.mp h),
      String.toList_append (s := "." ++ e),hdotted]
  simp only [Marks,hsuffixes,List.mem_flatMap,List.mem_cons,List.not_mem_nil,or_false]
  constructor
  · rintro ⟨suffix,⟨e,he,rfl | rfl⟩,hends⟩
    · exact ⟨e,he,(hstem e he).mpr (Or.inl hends)⟩
    · exact ⟨e,he,(hstem e he).mpr (Or.inr hends)⟩
  · rintro ⟨e,he,hends⟩
    rcases (hstem e he).mp hends with hends | hends
    · exact ⟨_,⟨e,he,Or.inl rfl⟩,hends⟩
    · exact ⟨_,⟨e,he,Or.inr rfl⟩,hends⟩

theorem marks_script_iff {name : List Char} :
    Marks script name ∨ ".script.json".toList <:+ name ↔
      '.' :: "script".toList <:+ stem name ∨
        '.' :: "js".toList <:+ stem name ∧ ¬ ".json".toList <:+ name := by
  rw [isSuffix_stem_iff (by decide) (by decide),isSuffix_stem_and_iff (by decide) (by decide)]
  simp only [Marks,suffixes,List.mem_cons,List.not_mem_nil,or_false,exists_eq_or_imp,exists_eq_left]
  exact or_right_comm

theorem detect?_iff_marks {path : String} {type : FileType} :
    detect? path = some type ↔ Marks type (baseName path) ∨
      type = script ∧ ".script.json".toList <:+ baseName path := by
  rw [detect?_eq_some]
  by_cases htype : type = script
  · subst htype
    simp only [true_and,marks_script_iff]
    simp only [extensions,List.mem_singleton,exists_eq_left]
  · simp only [htype,false_and,or_false,marks_iff_of_ne htype]

theorem not_marks_script {name : List Char} (h : ".script.json".toList <:+ name) :
    ¬Marks script name := by
  have hjson : ".json".toList <:+ name := List.IsSuffix.trans ⟨".script".toList,by decide⟩ h
  rintro ⟨suffix,hsuffix,hends⟩
  simp only [suffixes,List.mem_cons,List.not_mem_nil,or_false] at hsuffix
  rcases hsuffix with rfl | rfl
  · exact not_isSuffix_of_json (e := "script".toList) (by decide) (by decide) hjson hends
  · exact not_isSuffix_of_json (e := "js".toList) (by decide) (by decide) hjson hends

theorem detect?_eq_none {path : String} :
    detect? path = none ↔
      (∀ type, ¬Marks type (baseName path)) ∧ ¬ ".script.json".toList <:+ baseName path := by
  simp only [Option.eq_none_iff_forall_ne_some,ne_eq,detect?_iff_marks,not_or,not_and]
  constructor
  · intro h
    exact ⟨fun type => (h type).1,(h script).2 rfl⟩
  · rintro ⟨hmarks,hjson⟩ type
    exact ⟨hmarks type,fun _ => hjson⟩

theorem forall_iff_marks {path : String} :
    (∀ type, detect? path = some type ↔ Marks type (baseName path)) ↔
      ¬ ".script.json".toList <:+ baseName path := by
  constructor
  · intro h hjson
    exact not_marks_script hjson ((h script).mp (detect?_iff_marks.mpr (Or.inr ⟨rfl,hjson⟩)))
  · intro hjson type
    rw [detect?_iff_marks]
    exact or_iff_left fun h => hjson h.2

/-- The name of a file after its folder decides its type. In lower case it ends as the names of the
type do; besides, names that end with `.script.json` are those of scripts, though no such ending is
listed, and for all other names the list is exact. -/
theorem detect?_by_suffix (path : String) :
    ∃ folder name, path.toList = folder ++ name ∧ '/' ∉ name ∧ '\\' ∉ name ∧
      (folder = [] ∨ ∃ front c, folder = front ++ [c] ∧ (c = '/' ∨ c = '\\')) ∧
      (∀ type, detect? path = some type ↔ Marks type (Text.lower name) ∨
        type = script ∧ ".script.json".toList <:+ Text.lower name) ∧
      (detect? path = none ↔ (∀ type, ¬Marks type (Text.lower name)) ∧
        ¬ ".script.json".toList <:+ Text.lower name) ∧
      ((∀ type, detect? path = some type ↔ Marks type (Text.lower name)) ↔
        ¬ ".script.json".toList <:+ Text.lower name) := by
  obtain ⟨folder,hpath,hfolder⟩ :=
    Text.exists_front_afterLast (fun c => c == '/' || c == '\\') path.toList
  have hplain : ∀ c ∈ Text.afterLast (fun c => c == '/' || c == '\\') path.toList,
      c ≠ '/' ∧ c ≠ '\\' := by
    intro c hc
    simpa using Text.not_of_mem_afterLast hc
  refine ⟨folder,_,hpath,fun h => (hplain _ h).1 rfl,fun h => (hplain _ h).2 rfl,?_,
    fun type => detect?_iff_marks,detect?_eq_none,forall_iff_marks⟩
  simpa using hfolder

/-- A name with an ending that is not listed is that of a script. -/
theorem detect?_script_json :
    detect? "a.script.json" = some script ∧ ¬Marks script (Text.lower "a.script.json".toList) :=
  ⟨by decide +kernel,not_marks_script ⟨['a'],by decide +kernel⟩⟩

end FileType
end AppLint
