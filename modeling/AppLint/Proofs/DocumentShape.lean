import AppLint.Document
import AppLint.Proofs.JsonPath

/-! The trees that documents are made of, and what the fields of a document say of its tree. -/
namespace AppLint

open Json (Value)

namespace Schema

theorem text_eq_ok {v : Value} : text v = .ok () ↔ ∃ s, v = .string s := by
  cases v <;> simp [text]

theorem optionalText_eq_ok {v : Value} :
    optionalText v = .ok () ↔ v = .null ∨ ∃ s, v = .string s := by
  cases v <;> simp [optionalText,text]

theorem sequence_eq_ok {v : Value} : sequence v = .ok () ↔ ∃ items, v = .array items := by
  cases v <;> simp [sequence]

theorem required_eq_ok {name : String} {fs : Keyed Value} :
    required name fs = .ok () ↔ (Keyed.get? name fs).isSome := by
  unfold required Keyed.contains
  split <;> simp_all

theorem check_of_fields {checks : List (String × Check)} {fs : Keyed Value}
    (h : fields checks fs = .ok ()) {name : String} {check : Check}
    (hcheck : checks.lookup name = some check) {v : Value} (hv : Keyed.get? name fs = some v) :
    check v = .ok () := by
  have hentry := Except.forM_eq_ok.mp h (name,v) (Keyed.mem_of_get? hv)
  simpa only [hcheck] using hentry

end Schema

namespace Document

theorem validate_eq_ok {type : FileType} {tree : Value} :
    validate type tree = .ok () ↔
      ∃ fs, tree = .object fs ∧ Schema.fields (checks type) fs = .ok () ∧
        ∀ name ∈ requiredFields type, (Keyed.get? name fs).isSome := by
  unfold validate
  split
  · rename_i fs
    rw [Except.mapError_eq_ok,Except.then_eq_ok]
    simp [Except.forM_eq_ok,Schema.required_eq_ok]
  · rename_i hnot
    simp only [reduceCtorEq,false_iff]
    rintro ⟨fs,rfl,-⟩
    exact hnot fs rfl

theorem ofTree_eq_ok {type : FileType} {path raw : String} {tree : Value} {d : Document} :
    ofTree type path raw tree = .ok d ↔
      type ≠ .script ∧ validate type tree = .ok () ∧ ofBody type ⟨path,raw,tree⟩ = .ok d := by
  unfold ofTree
  split
  · simp_all
  · simp_all [Except.then_eq_ok]

theorem ofTree_type {type : FileType} {path raw : String} {tree : Value} {d : Document}
    (h : ofTree type path raw tree = .ok d) : d.type = type := by
  obtain ⟨-,-,hbody⟩ := ofTree_eq_ok.mp h
  cases type <;> simp only [ofBody,Except.ok.injEq,reduceCtorEq] at hbody <;> subst hbody <;> rfl

theorem field_of_validate {type : FileType} {tree : Value} (h : validate type tree = .ok ())
    {name : String} {check : Schema.Check} (hcheck : (checks type).lookup name = some check)
    {v : Value} (hv : tree.field? name = some v) : check v = .ok () := by
  obtain ⟨fs,rfl,hfields,-⟩ := validate_eq_ok.mp h
  exact Schema.check_of_fields hfields hcheck hv

theorem required_of_validate {type : FileType} {tree : Value} (h : validate type tree = .ok ())
    {name : String} (hname : name ∈ requiredFields type) : (tree.field? name).isSome := by
  obtain ⟨fs,rfl,-,hrequired⟩ := validate_eq_ok.mp h
  exact hrequired name hname

end Document

namespace Body

/-- The id and the components of a page or a fragment, as they stand in its tree. -/
structure Frames (b : Body) (id : String) : Prop where
  id : b.tree.field? "id" = some (.string id)
  components : b.tree.field? "components" = none ∨
    ∃ items, b.tree.field? "components" = some (.array items)

theorem frames_of_checks {type : FileType} {b : Body} (h : Document.validate type b.tree = .ok ())
    (hrequired : "id" ∈ Document.requiredFields type)
    (hid : (Document.checks type).lookup "id" = some Schema.text)
    (hcomponents : (Document.checks type).lookup "components" = some Schema.sequence) :
    b.Frames ((b.string? "id").getD "") := by
  obtain ⟨v,hv⟩ := Option.isSome_iff_exists.mp (Document.required_of_validate h hrequired)
  obtain ⟨s,rfl⟩ := Schema.text_eq_ok.mp (Document.field_of_validate h hid hv)
  refine ⟨by simp [string?,hv,Value.string?],?_⟩
  cases hc : b.tree.field? "components" with
  | none => exact Or.inl rfl
  | some w =>
    obtain ⟨items,rfl⟩ := Schema.sequence_eq_ok.mp (Document.field_of_validate h hcomponents hc)
    exact Or.inr ⟨items,rfl⟩

end Body

namespace Page

/-- The title of a page is the string in its tree; a title that is null counts as none. -/
def HasTitle (d : Page) : Prop :=
  d.body.tree.field? "title" = d.title.map .string ∨
    (d.title = none ∧ d.body.tree.field? "title" = some .null)

theorem fits_of_ofTree {type : FileType} {path raw : String} {tree : Value} {d : Page}
    (h : Document.ofTree type path raw tree = .ok (.page d)) :
    d.body.Frames d.id ∧ d.HasTitle := by
  obtain rfl : FileType.page = type := Document.ofTree_type h
  obtain ⟨-,hvalid,hbody⟩ := Document.ofTree_eq_ok.mp h
  simp only [Document.ofBody,Except.ok.injEq,Document.page.injEq] at hbody
  subst hbody
  refine ⟨Body.frames_of_checks hvalid (by simp [Document.requiredFields]) rfl rfl,?_⟩
  unfold HasTitle
  cases htitle : tree.field? "title" with
  | none => exact Or.inl (by simp [Body.string?,htitle])
  | some v =>
    have hv : Schema.optionalText v = .ok () := Document.field_of_validate hvalid rfl htitle
    rcases Schema.optionalText_eq_ok.mp hv with rfl | ⟨s,rfl⟩
    · exact Or.inr ⟨by simp [Body.string?,htitle,Value.string?],rfl⟩
    · exact Or.inl (by simp [Body.string?,htitle,Value.string?])

end Page

theorem Fragment.frames_of_ofTree {type : FileType} {path raw : String} {tree : Value}
    {d : Fragment} (h : Document.ofTree type path raw tree = .ok (.fragment d)) :
    d.body.Frames d.id := by
  obtain rfl : FileType.fragment = type := Document.ofTree_type h
  obtain ⟨-,hvalid,hbody⟩ := Document.ofTree_eq_ok.mp h
  simp only [Document.ofBody,Except.ok.injEq,Document.fragment.injEq] at hbody
  subst hbody
  exact Body.frames_of_checks hvalid (by simp [Document.requiredFields]) rfl rfl

theorem DataProvider.id_of_check {fs : Keyed Value} (h : check (.object fs) = .ok ()) :
    (Keyed.get? "id" fs).isSome := by
  obtain ⟨-,hrequired⟩ := Except.then_eq_ok.mp h
  exact Schema.required_eq_ok.mp (Except.forM_eq_ok.mp hrequired ("id",Schema.text) (by simp))

namespace Document

/-- A name that documents of the type, or endpoints in them, cannot do without does not stand in its
place. If it is commented out, another name stands there. -/
def Lacks (type : FileType) (tree : Value) : Prop :=
  (∃ name ∈ requiredFields type, tree.field? name = none) ∨
    (type = .dataProvider ∧ ∃ items fs, tree.field? "providers" = some (.array items) ∧
      .object fs ∈ items ∧ Keyed.get? "id" fs = none)

/-- Dropping what is commented out does not bring back what is lacking. -/
theorem Lacks.uncommented {type : FileType} {tree : Value} (h : Lacks type tree) :
    Lacks type tree.uncommented := by
  rcases h with ⟨name,hname,hnone⟩ | ⟨htype,items,fs,hitems,hmem,hnone⟩
  · exact Or.inl ⟨name,hname,by simp [Value.field?_uncommented,hnone]⟩
  · refine Or.inr ⟨htype,items.map Value.uncommented,Value.uncommentedFields fs,?_,
      List.mem_map_of_mem hmem,by simp [Value.get?_uncommentedFields,hnone]⟩
    have hproviders : Json.isCommented "providers" = false := by decide +kernel
    simp [Value.field?_uncommented,hproviders,hitems,Value.uncommented,Value.uncommentedItems_eq]

theorem Lacks.ofTree_ne_ok {type : FileType} {tree : Value} (h : Lacks type tree)
    (path raw : String) (d : Document) : ofTree type path raw tree ≠ .ok d := by
  intro hok
  obtain ⟨-,hvalid,-⟩ := ofTree_eq_ok.mp hok
  rcases h with ⟨name,hname,hnone⟩ | ⟨rfl,items,fs,hitems,hmem,hnone⟩
  · simpa [hnone] using required_of_validate hvalid hname
  · have heach : Schema.each DataProvider.check (.array items) = .ok () :=
      field_of_validate hvalid rfl hitems
    have hcheck : DataProvider.check (.object fs) = .ok () := Except.forM_eq_ok.mp heach _ hmem
    simpa [hnone] using DataProvider.id_of_check hcheck

end Document
end AppLint
