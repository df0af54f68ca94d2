import AppLint.Proofs.DocumentShape
import AppLint.Proofs.LoadStep

/-! Which trees are data provider and site documents, and what is read from them. Endpoints and
navigation entries are records: objects, or lists with the values of their fields in order. -/
namespace AppLint

open Json (Value)

namespace Schema

/-- Where a record has the value of a field: under its name in an object, at its index in a list. -/
def place? (name : String) (index : Nat) : Value → Option Value
  | .object fs => Keyed.get? name fs
  | .array vs => vs[index]?
  | _ => none

/-- An object, or a list with no more values than the record has fields. -/
inductive IsRecord (count : Nat) : Value → Prop
  | object (fs : Keyed Value) : IsRecord count (.object fs)
  | list (vs : List Value) (h : vs.length ≤ count) : IsRecord count (.array vs)

inductive Optional : Option Value → Option String → Prop
  | absent : Optional none none
  | null : Optional (some .null) none
  | text (s : String) : Optional (some (.string s)) (some s)

theorem part?_eq (name : String) (index : Nat) (v : Value) :
    part? name index v = (place? name index v).bind Value.string? := by
  cases v <;> rfl

theorem optional_iff {place : Option Value} {s : Option String} :
    Optional place s ↔
      (∀ v, place = some v → optionalText v = .ok ()) ∧ s = place.bind Value.string? := by
  constructor
  · rintro (_ | _ | t)
    · simp
    · simp [optionalText,Value.string?]
    · simp [optionalText,text,Value.string?]
  · rintro ⟨hcheck,rfl⟩
    cases place with
    | none => exact Optional.absent
    | some v =>
      rcases optionalText_eq_ok.mp (hcheck v rfl) with rfl | ⟨t,rfl⟩
      · exact Optional.null
      · exact Optional.text t

theorem text_place_iff {place : Option Value} {s : String} :
    place = some (.string s) ↔
      ((∀ v, place = some v → text v = .ok ()) ∧ place.isSome = true) ∧
        s = (place.bind Value.string?).getD "" := by
  constructor
  · rintro rfl
    simp [text,Value.string?]
  · rintro ⟨⟨hcheck,hsome⟩,rfl⟩
    obtain ⟨v,rfl⟩ := Option.isSome_iff_exists.mp hsome
    obtain ⟨t,rfl⟩ := text_eq_ok.mp (hcheck v rfl)
    rfl

theorem fields_eq_ok {checks : List (String × Check)} {fs : Keyed Value} (hasc : fs.Ascending)
    (hnames : ∀ e ∈ checks, checks.lookup e.1 = some e.2) :
    fields checks fs = .ok () ↔
      ∀ e ∈ checks, ∀ v, Keyed.get? e.1 fs = some v → e.2 v = .ok () := by
  constructor
  · intro h e he v hv
    exact check_of_fields h (hnames e he) hv
  · intro h
    refine Except.forM_eq_ok.mpr ?_
    rintro ⟨name,v⟩ hmem
    dsimp only
    cases hcheck : checks.lookup name with
    | none => rfl
    | some check =>
      obtain ⟨before,after,hlist,-⟩ := List.lookup_eq_some_iff.mp hcheck
      exact h (name,check) (by simp [hlist]) v (Keyed.get?_of_mem hasc hmem)

theorem each_eq_ok {check : Check} {v : Value} :
    each check v = .ok () ↔ ∃ items, v = .array items ∧ ∀ item ∈ items, check item = .ok () := by
  cases v with
  | array items => simp [each,Except.forM_eq_ok]
  | _ => simp [each]

theorem items_eq_ok {checks : List Check} {vs : List Value} :
    items checks vs = .ok () ↔
      vs.length ≤ checks.length ∧
        ∀ (i : Nat) check v, checks[i]? = some check → vs[i]? = some v → check v = .ok () := by
  have hforM : ((checks.zip vs).forM fun e => e.1 e.2) = .ok () ↔
      ∀ (i : Nat) check v, checks[i]? = some check → vs[i]? = some v → check v = .ok () := by
    refine Except.forM_eq_ok.trans ?_
    constructor
    · intro h i check v hcheck hv
      exact h (check,v) (List.mem_iff_getElem?.mpr ⟨i,List.getElem?_zip_eq_some.mpr ⟨hcheck,hv⟩⟩)
    · intro h e he
      obtain ⟨i,hi⟩ := List.mem_iff_getElem?.mp he
      obtain ⟨hcheck,hv⟩ := List.getElem?_zip_eq_some.mp hi
      exact h i e.1 e.2 hcheck hv
  unfold items
  rw [Except.then_eq_ok,and_comm]
  refine and_congr ?_ hforM
  split_ifs with hlong
  · simp [hlong]
  · simp [Nat.le_of_not_lt hlong,pure,Except.pure]

section
variable {name : String} {needed : Nat} {checks : List (String × Check)}

theorem forall_mem_take_iff {α : Type} {xs : List α} {n : Nat} {P : α → Prop} :
    (∀ x ∈ xs.take n, P x) ↔ ∀ e ∈ xs.zipIdx, e.2 < n → P e.1 := by
  constructor
  · rintro h ⟨x,i⟩ he hi
    have hx := List.mem_zipIdx_iff_getElem?.mp he
    refine h x (List.mem_iff_getElem?.mpr ⟨i,?_⟩)
    rw [List.getElem?_take_of_lt hi,hx]
  · intro h x hx
    obtain ⟨i,hi⟩ := List.mem_iff_getElem?.mp hx
    rw [List.getElem?_take] at hi
    split_ifs at hi with hlt
    exact h (x,i) (List.mem_zipIdx_iff_getElem?.mpr hi) hlt

theorem record_object_eq_ok {fs : Keyed Value} (hasc : fs.Ascending)
    (hnames : ∀ e ∈ checks, checks.lookup e.1 = some e.2) :
    record name needed checks (.object fs) = .ok () ↔
      ∀ e ∈ checks.zipIdx, (∀ w, Keyed.get? e.1.1 fs = some w → e.1.2 w = .ok ()) ∧
        (e.2 < needed → (Keyed.get? e.1.1 fs).isSome = true) := by
  have hrequired : ((checks.take needed).forM fun e => required e.1 fs) = .ok () ↔
      ∀ e ∈ checks.zipIdx, e.2 < needed → (Keyed.get? e.1.1 fs).isSome = true := by
    refine Except.forM_eq_ok.trans ?_
    simp only [required_eq_ok]
    exact forall_mem_take_iff
  have hfields : fields checks fs = .ok () ↔
      ∀ e ∈ checks.zipIdx, ∀ w, Keyed.get? e.1.1 fs = some w → e.1.2 w = .ok () := by
    rw [fields_eq_ok hasc hnames]
    nth_rewrite 1 [← List.zipIdx_map_fst 0 checks]
    exact List.forall_mem_map
  rw [forall₂_and]
  exact Except.then_eq_ok.trans (and_congr hfields hrequired)

theorem record_array_eq_ok {vs : List Value} (hneeded : needed ≤ checks.length) :
    record name needed checks (.array vs) = .ok () ↔
      vs.length ≤ checks.length ∧ ∀ e ∈ checks.zipIdx,
        (∀ w, vs[e.2]? = some w → e.1.2 w = .ok ()) ∧ (e.2 < needed → vs[e.2]?.isSome = true) := by
  have hitems : items (checks.map (·.2)) vs = .ok () ↔
      vs.length ≤ checks.length ∧
        ∀ e ∈ checks.zipIdx, ∀ w, vs[e.2]? = some w → e.1.2 w = .ok () := by
    rw [items_eq_ok,List.length_map]
    refine and_congr_right fun _ => ?_
    simp only [List.getElem?_map,Option.map_eq_some_iff]
    constructor
    · intro h e he w hw
      exact h e.2 e.1.2 w ⟨e.1,List.mem_zipIdx_iff_getElem?.mp he,rfl⟩ hw
    · rintro h i check w ⟨e,he,rfl⟩ hw
      exact h (e,i) (List.mem_zipIdx_iff_getElem?.mpr he) w hw
  have hfull : (∀ e ∈ checks.zipIdx, e.2 < needed → vs[e.2]?.isSome = true) ↔
      needed ≤ vs.length := by
    simp only [isSome_getElem?]
    constructor
    · intro h
      by_contra hshort
      have hlt : vs.length < checks.length := by omega
      have hmem : (checks.get ⟨vs.length,hlt⟩,vs.length) ∈ checks.zipIdx :=
        List.mem_zipIdx_iff_getElem?.mpr (List.getElem?_eq_getElem hlt)
      exact absurd (h _ hmem (Nat.lt_of_not_le hshort)) (Nat.lt_irrefl _)
    · intro h e _ hlt
      omega
  rw [forall₂_and,hfull,← and_assoc,← hitems]
  by_cases hshort : vs.length < needed
  · simp only [record,if_pos hshort,Except.then_eq_ok,Nat.not_le_of_lt hshort,reduceCtorEq,
      and_false]
  · simp only [record,if_neg hshort,Nat.le_of_not_lt hshort,and_true]

end

/-- A value is a record with these checks if it has the form of one, the values in its places pass
the checks, and none of the first `needed` places is empty. -/
theorem record_eq_ok {name : String} {needed : Nat} {checks : List (String × Check)} {v : Value}
    (hv : v.Ordered) (hneeded : needed ≤ checks.length)
    (hnames : ∀ e ∈ checks, checks.lookup e.1 = some e.2) :
    record name needed checks v = .ok () ↔
      IsRecord checks.length v ∧ ∀ e ∈ checks.zipIdx,
        (∀ w, place? e.1.1 e.2 v = some w → e.1.2 w = .ok ()) ∧
          (e.2 < needed → (place? e.1.1 e.2 v).isSome = true) := by
  cases v with
  | object fs =>
    have hform : IsRecord checks.length (.object fs) := .object fs
    simp only [hform,true_and,place?]
    exact record_object_eq_ok (Value.ordered_object.mp hv).1 hnames
  | array vs =>
    have hform : IsRecord checks.length (.array vs) ↔ vs.length ≤ checks.length := by
      constructor
      · intro h
        cases h with
        | list _ hlength => exact hlength
      · exact .list vs
    rw [hform]
    exact record_array_eq_ok hneeded
  | _ =>
    simp only [record,reduceCtorEq,false_iff,not_and]
    rintro ⟨⟩

theorem forall₂_iff_each {α : Type} {check : Check} {ofValue : Value → α} {R : Value → α → Prop}
    (hread : ∀ v a, v.Ordered → (R v a ↔ check v = .ok () ∧ a = ofValue v)) {items : List Value}
    (hitems : ∀ v ∈ items, v.Ordered) {as : List α} :
    List.Forall₂ R items as ↔ each check (.array items) = .ok () ∧ as = items.map ofValue := by
  have hstep : List.Forall₂ R items as ↔
      List.Forall₂ (fun v a => check v = .ok () ∧ a = ofValue v) items as := by
    constructor
    · intro h
      have hboth := (List.forall₂_and_left items as).mpr ⟨hitems,h⟩
      exact hboth.imp fun v a hv => (hread v a hv.1).mp hv.2
    · intro h
      have hboth := (List.forall₂_and_left items as).mpr ⟨hitems,h⟩
      exact hboth.imp fun v a hv => (hread v a hv.1).mpr hv.2
  have hmap : List.Forall₂ (fun v a => a = ofValue v) items as ↔ as = items.map ofValue := by
    rw [← List.forall₂_eq_eq_eq,List.forall₂_map_right_iff]
    exact ⟨List.Forall₂.flip,List.Forall₂.flip⟩
  rw [hstep,List.forall₂_and_left,hmap,each_eq_ok]
  simp

end Schema

open Schema (Optional IsRecord place?)

structure DataProvider.ReadFrom (v : Value) (d : DataProvider) : Prop where
  id : place? "id" 0 v = some (.string d.id)
  url : Optional (place? "url" 1 v) d.url
  method : Optional (place? "method" 2 v) d.method

structure NavigationEntry.ReadFrom (v : Value) (e : NavigationEntry) : Prop where
  label : Optional (place? "label" 0 v) e.label
  page : Optional (place? "page" 1 v) e.page

theorem DataProvider.check_eq_ok {v : Value} {d : DataProvider} (hv : v.Ordered) :
    IsRecord 3 v ∧ d.ReadFrom v ↔ check v = .ok () ∧ d = ofValue v := by
  have hcheck : check v = .ok () ↔ IsRecord 3 v ∧
      ((∀ w, place? "id" 0 v = some w → Schema.text w = .ok ()) ∧
        (place? "id" 0 v).isSome = true) ∧
      (∀ w, place? "url" 1 v = some w → Schema.optionalText w = .ok ()) ∧
      ∀ w, place? "method" 2 v = some w → Schema.optionalText w = .ok () := by
    refine (Schema.record_eq_ok hv (by simp) (by simp [List.lookup_cons])).trans ?_
    simp
  obtain ⟨id,url,method⟩ := d
  simp only [hcheck,ofValue,Schema.part?_eq,mk.injEq]
  constructor
  · rintro ⟨hform,hid,hurl,hmethod⟩
    obtain ⟨hidOk,hid⟩ := Schema.text_place_iff.mp hid
    obtain ⟨hurlOk,hurl⟩ := Schema.optional_iff.mp hurl
    obtain ⟨hmethodOk,hmethod⟩ := Schema.optional_iff.mp hmethod
    exact ⟨⟨hform,hidOk,hurlOk,hmethodOk⟩,hid,hurl,hmethod⟩
  · rintro ⟨⟨hform,hidOk,hurlOk,hmethodOk⟩,hid,hurl,hmethod⟩
    exact ⟨hform,Schema.text_place_iff.mpr ⟨hidOk,hid⟩,Schema.optional_iff.mpr ⟨hurlOk,hurl⟩,
      Schema.optional_iff.mpr ⟨hmethodOk,hmethod⟩⟩

theorem NavigationEntry.check_eq_ok {v : Value} {e : NavigationEntry} (hv : v.Ordered) :
    IsRecord 2 v ∧ e.ReadFrom v ↔ check v = .ok () ∧ e = ofValue v := by
  have hcheck : check v = .ok () ↔ IsRecord 2 v ∧
      (∀ w, place? "label" 0 v = some w → Schema.optionalText w = .ok ()) ∧
      ∀ w, place? "page" 1 v = some w → Schema.optionalText w = .ok () := by
    refine (Schema.record_eq_ok hv (by simp) (by simp [List.lookup_cons])).trans ?_
    simp
  obtain ⟨label,page⟩ := e
  simp only [hcheck,ofValue,Schema.part?_eq,mk.injEq]
  constructor
  · rintro ⟨hform,hlabel,hpage⟩
    obtain ⟨hlabelOk,hlabel⟩ := Schema.optional_iff.mp hlabel
    obtain ⟨hpageOk,hpage⟩ := Schema.optional_iff.mp hpage
    exact ⟨⟨hform,hlabelOk,hpageOk⟩,hlabel,hpage⟩
  · rintro ⟨⟨hform,hlabelOk,hpageOk⟩,hlabel,hpage⟩
    exact ⟨hform,Schema.optional_iff.mpr ⟨hlabelOk,hlabel⟩,Schema.optional_iff.mpr ⟨hpageOk,hpage⟩⟩

theorem Document.validate_iff {type : FileType} {tree : Value} (htree : tree.Ordered) :
    validate type tree = .ok () ↔ tree.isObject = true ∧
      (∀ e ∈ checks type, ∀ v, tree.field? e.1 = some v → e.2 v = .ok ()) ∧
      ∀ name ∈ requiredFields type, (tree.field? name).isSome = true := by
  have hnames : ∀ e ∈ checks type, (checks type).lookup e.1 = some e.2 := by
    cases type <;> simp [checks,List.lookup_cons]
  rw [validate_eq_ok]
  constructor
  · rintro ⟨fs,rfl,hfields,hrequired⟩
    exact ⟨rfl,(Schema.fields_eq_ok (Value.ordered_object.mp htree).1 hnames).mp hfields,hrequired⟩
  · rintro ⟨hobject,hfields,hrequired⟩
    obtain ⟨fs,hfs⟩ := Option.isSome_iff_exists.mp hobject
    obtain rfl := (Value.object?_eq_some tree fs).mp hfs
    exact ⟨fs,rfl,(Schema.fields_eq_ok (Value.ordered_object.mp htree).1 hnames).mpr hfields,
      hrequired⟩

structure DataProviderDocument.Shape (form : Value → Prop) (d : DataProviderDocument) : Prop where
  root : d.body.tree.isObject = true
  providers : ∃ items, d.body.tree.field? "providers" = some (.array items) ∧
    List.Forall₂ (fun v provider => form v ∧ provider.ReadFrom v) items d.providers

structure Site.Shape (form : Value → Prop) (site : Site) : Prop where
  root : site.body.tree.isObject = true
  name : Optional (site.body.tree.field? "name") site.name
  homePage : Optional (site.body.tree.field? "homePage") site.homePage
  navigation : site.body.tree.field? "navigation" = none ∧ site.navigation = [] ∨
    ∃ items, site.body.tree.field? "navigation" = some (.array items) ∧
      List.Forall₂ (fun v entry => form v ∧ entry.ReadFrom v) items site.navigation

theorem Json.Value.ordered_of_field? {v w : Value} {name : String} (hv : v.Ordered)
    (h : v.field? name = some w) : w.Ordered := by
  cases v with
  | object fs => exact (ordered_object.mp hv).2 (name,w) (Keyed.mem_of_get? h)
  | _ => cases h

/-- A list of records below a key: their reading fits what is checked of them and made of them. -/
theorem Body.records_iff {α : Type} {check : Schema.Check} {ofValue : Value → α}
    {R : Value → α → Prop} (hread : ∀ v a, v.Ordered → (R v a ↔ check v = .ok () ∧ a = ofValue v))
    {b : Body} (hb : b.tree.Ordered) {key : String} {as : List α} :
    (b.tree.field? key = none ∧ as = [] ∨
      ∃ items, b.tree.field? key = some (.array items) ∧ List.Forall₂ R items as) ↔
      (∀ v, b.tree.field? key = some v → Schema.each check v = .ok ()) ∧
        as = (b.items key).map ofValue := by
  cases hv : b.tree.field? key with
  | none => simp [items,hv]
  | some v =>
    have hordered := Value.ordered_of_field? hb hv
    simp only [reduceCtorEq,false_and,false_or,Option.some.injEq,forall_eq']
    constructor
    · rintro ⟨vs,rfl,hvs⟩
      simpa [items,hv,Value.array?] using
        (Schema.forall₂_iff_each hread (Value.ordered_array.mp hordered)).mp hvs
    · rintro ⟨hcheck,has⟩
      obtain ⟨vs,rfl,-⟩ := Schema.each_eq_ok.mp hcheck
      simp only [items,hv,Value.array?,Option.bind_some,Option.getD_some] at has
      have hitems := Value.ordered_array.mp hordered
      exact ⟨vs,rfl,(Schema.forall₂_iff_each hread hitems).mpr ⟨hcheck,has⟩⟩

theorem DataProviderDocument.ofTree_iff {path raw : String} {tree : Value} {doc : Document}
    (htree : tree.Ordered) :
    Document.ofTree .dataProvider path raw tree = .ok doc ↔
      ∃ d : DataProviderDocument, doc = .dataProvider d ∧ d.body = ⟨path,raw,tree⟩ ∧
        d.Shape (IsRecord 3) := by
  have hrecords := @Body.records_iff _ _ _ _ (fun v d => DataProvider.check_eq_ok) ⟨path,raw,tree⟩
    htree "providers"
  rw [Document.ofTree_eq_ok,Document.validate_iff htree]
  simp only [Document.checks,Document.requiredFields,Document.ofBody,Except.ok.injEq,
    List.forall_mem_singleton]
  constructor
  · rintro ⟨-,⟨hroot,hcheck,hsome⟩,rfl⟩
    obtain ⟨hnone,-⟩ | hitems := hrecords.mpr ⟨hcheck,rfl⟩
    · simp [hnone] at hsome
    · exact ⟨_,rfl,rfl,hroot,hitems⟩
  · rintro ⟨⟨providers,-⟩,rfl,rfl,hroot,hitems⟩
    obtain ⟨items,hsome,-⟩ := id hitems
    obtain ⟨hcheck,rfl⟩ := hrecords.mp (Or.inr hitems)
    exact ⟨by simp,⟨hroot,hcheck,Option.isSome_of_eq_some hsome⟩,rfl⟩

theorem Site.ofTree_iff {path raw : String} {tree : Value} {doc : Document}
    (htree : tree.Ordered) :
    Document.ofTree .site path raw tree = .ok doc ↔
      ∃ site : Site, doc = .site site ∧ site.body = ⟨path,raw,tree⟩ ∧ site.Shape (IsRecord 2) := by
  have hrecords := @Body.records_iff _ _ _ _ (fun v e => NavigationEntry.check_eq_ok)
    ⟨path,raw,tree⟩ htree "navigation"
  rw [Document.ofTree_eq_ok,Document.validate_iff htree]
  simp only [Document.checks,Document.requiredFields,Document.ofBody,Except.ok.injEq,
    List.forall_mem_cons]
  constructor
  · rintro ⟨-,⟨hroot,⟨hname,hhome,hnavigation,-⟩,-⟩,rfl⟩
    exact ⟨_,rfl,rfl,hroot,Schema.optional_iff.mpr ⟨hname,rfl⟩,
      Schema.optional_iff.mpr ⟨hhome,rfl⟩,hrecords.mpr ⟨hnavigation,rfl⟩⟩
  · rintro ⟨⟨name,homePage,navigation,-⟩,rfl,rfl,hroot,hname,hhome,hnavigation⟩
    dsimp only at hname hhome
    obtain ⟨hnameOk,rfl⟩ := Schema.optional_iff.mp hname
    obtain ⟨hhomeOk,rfl⟩ := Schema.optional_iff.mp hhome
    obtain ⟨hnavigationOk,rfl⟩ := hrecords.mp hnavigation
    exact ⟨by simp,⟨hroot,⟨hnameOk,hhomeOk,hnavigationOk,by simp⟩,by simp⟩,rfl⟩

theorem Schema.forall₂_isObject_iff {α : Type} {R : Value → α → Prop} {count : Nat}
    {items : List Value} {as : List α} :
    List.Forall₂ (fun v a => v.isObject = true ∧ R v a) items as ↔
      List.Forall₂ (fun v a => IsRecord count v ∧ R v a) items as ∧ ∀ vs, .array vs ∉ items := by
  have hobjects : (∀ v ∈ items, v.isObject = true) ↔
      (∀ v ∈ items, IsRecord count v) ∧ ∀ vs, .array vs ∉ items := by
    constructor
    · intro h
      refine ⟨fun v hv => ?_,fun vs hvs => ?_⟩
      · obtain ⟨fs,hfs⟩ := Option.isSome_iff_exists.mp (h v hv)
        rw [(Value.object?_eq_some v fs).mp hfs]
        exact IsRecord.object fs
      · simpa [Value.isObject,Value.object?] using h (.array vs) hvs
    · rintro ⟨hform,hlists⟩ v hv
      cases hform v hv with
      | object fs => rfl
      | list vs => exact absurd hv (hlists vs)
  rw [List.forall₂_and_left,List.forall₂_and_left,hobjects]
  exact and_right_comm

theorem DataProviderDocument.shape_isObject_iff {d : DataProviderDocument} :
    d.Shape (fun v => v.isObject = true) ↔ d.Shape (IsRecord 3) ∧
      ∀ items vs, d.body.tree.field? "providers" = some (.array items) → .array vs ∉ items := by
  constructor
  · rintro ⟨hroot,items,hitems,hread⟩
    obtain ⟨hread,hlists⟩ := Schema.forall₂_isObject_iff.mp hread
    refine ⟨⟨hroot,items,hitems,hread⟩,fun others vs hothers => ?_⟩
    cases hitems.symm.trans hothers
    exact hlists vs
  · rintro ⟨⟨hroot,items,hitems,hread⟩,hlists⟩
    exact ⟨hroot,items,hitems,
      Schema.forall₂_isObject_iff.mpr ⟨hread,fun vs => hlists items vs hitems⟩⟩

theorem Site.shape_isObject_iff {site : Site} :
    site.Shape (fun v => v.isObject = true) ↔ site.Shape (IsRecord 2) ∧
      ∀ items vs, site.body.tree.field? "navigation" = some (.array items) → .array vs ∉ items := by
  constructor
  · rintro ⟨hroot,hname,hhome,⟨hnone,hnil⟩ | ⟨items,hitems,hread⟩⟩
    · refine ⟨⟨hroot,hname,hhome,Or.inl ⟨hnone,hnil⟩⟩,fun items vs hitems => ?_⟩
      cases hnone.symm.trans hitems
    · obtain ⟨hread,hlists⟩ := Schema.forall₂_isObject_iff.mp hread
      refine ⟨⟨hroot,hname,hhome,Or.inr ⟨items,hitems,hread⟩⟩,fun others vs hothers => ?_⟩
      cases hitems.symm.trans hothers
      exact hlists vs
  · rintro ⟨⟨hroot,hname,hhome,hnone | ⟨items,hitems,hread⟩⟩,hlists⟩
    · exact ⟨hroot,hname,hhome,Or.inl hnone⟩
    · exact ⟨hroot,hname,hhome,Or.inr ⟨items,hitems,
        Schema.forall₂_isObject_iff.mpr ⟨hread,fun vs => hlists items vs hitems⟩⟩⟩

namespace Document

/-- A tree is a data provider or a site document just if it has the shape of one, and the document
has the values that stand in the tree. Endpoints and navigation entries pass as objects and as
lists; what has the shape with objects alone is what passes without such a list. -/
theorem ofTree_reads_records {tree : Value} (htree : tree.Ordered) (path raw : String) :
    (∀ doc, ofTree .dataProvider path raw tree = .ok doc ↔
      ∃ d : DataProviderDocument, doc = .dataProvider d ∧ d.body = ⟨path,raw,tree⟩ ∧
        d.Shape (IsRecord 3)) ∧
    (∀ doc, ofTree .site path raw tree = .ok doc ↔
      ∃ site : Site, doc = .site site ∧ site.body = ⟨path,raw,tree⟩ ∧ site.Shape (IsRecord 2)) ∧
    (∀ d : DataProviderDocument, d.body = ⟨path,raw,tree⟩ →
      (d.Shape (fun v => v.isObject = true) ↔
        ofTree .dataProvider path raw tree = .ok (.dataProvider d) ∧
          ∀ items vs, tree.field? "providers" = some (.array items) → .array vs ∉ items)) ∧
    ∀ site : Site, site.body = ⟨path,raw,tree⟩ →
      (site.Shape (fun v => v.isObject = true) ↔
        ofTree .site path raw tree = .ok (.site site) ∧
          ∀ items vs, tree.field? "navigation" = some (.array items) → .array vs ∉ items) := by
  refine ⟨fun doc => DataProviderDocument.ofTree_iff htree,fun doc => Site.ofTree_iff htree,
    fun d hd => ?_,fun site hsite => ?_⟩
  · rw [DataProviderDocument.shape_isObject_iff,DataProviderDocument.ofTree_iff htree,hd]
    simp [hd]
  · rw [Site.shape_isObject_iff,Site.ofTree_iff htree,hsite]
    simp [hsite]

/-- An endpoint as a list of its values beside one that is an object with a null in it. -/
theorem ofTree_reads_records_mixed :
    let listed : Value := .array [.string "x",.string "http://a"]
    let plain : Value := .object [("id",.string "y"),("url",.null)]
    let tree : Value := .object [("providers",.array [listed,plain])]
    tree.Ordered ∧ ofTree .dataProvider "d.provider" "" tree =
      .ok (.dataProvider ⟨[⟨"x",some "http://a",none⟩,⟨"y",none,none⟩],⟨"d.provider","",tree⟩⟩) := by
  intro listed plain tree
  have htree : tree.Ordered := Value.ordered_normalize tree
  refine ⟨htree,((ofTree_reads_records htree "d.provider" "").1 _).mpr ⟨_,rfl,rfl,rfl,_,rfl,?_⟩⟩
  refine .cons ⟨.list _ (by decide),rfl,.text _,.absent⟩ (.cons ⟨.object _,rfl,.null,.absent⟩ .nil)

/-- Lists in the place of an endpoint and of a navigation entry are accepted, though the trees do
not have the shape with objects. -/
theorem lists_pass_for_objects :
    let providers : Value := .object [("providers",.array [.array [.string "x"]])]
    let site : Value := .object [("navigation",.array [.array [.string "Home",.string "home"]])]
    (∃ doc, ofTree .dataProvider "d.provider" "" providers = .ok doc) ∧
      (¬∃ d : DataProviderDocument, d.body = ⟨"d.provider","",providers⟩ ∧
        d.Shape fun v => v.isObject = true) ∧
      (∃ doc, ofTree .site "a.site" "" site = .ok doc) ∧
      ¬∃ s : Site, s.body = ⟨"a.site","",site⟩ ∧ s.Shape fun v => v.isObject = true := by
  intro providers site
  refine ⟨⟨_,rfl⟩,?_,⟨_,rfl⟩,?_⟩
  · rintro ⟨d,hd,hshape⟩
    have hlists := (DataProviderDocument.shape_isObject_iff.mp hshape).2
    rw [hd] at hlists
    exact hlists _ [.string "x"] rfl (by simp)
  · rintro ⟨s,hs,hshape⟩
    have hlists := (Site.shape_isObject_iff.mp hshape).2
    rw [hs] at hlists
    exact hlists _ [.string "Home",.string "home"] rfl (by simp)

end Document
end AppLint
