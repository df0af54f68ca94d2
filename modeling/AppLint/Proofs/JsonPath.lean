import AppLint.Json.Commented
import AppLint.Json.Reader
import AppLint.Proofs.Except
import AppLint.Proofs.JsonEquality
import AppLint.Proofs.Keyed

/-! Values by path: what is found at a path, where the objects of a value stand, and what becomes of
both when commented-out fields are dropped. -/
namespace AppLint
namespace Json

/-- A step into a value: to a field of an object, or to an item of a list. -/
inductive Segment where
  | field (name : String)
  | item (index : Nat)
deriving DecidableEq, Repr

abbrev Path := List Segment

namespace Segment

def isPlain : Segment → Bool
  | field name => !isCommented name
  | item _ => true

end Segment

def Path.Plain (p : Path) : Prop := ∀ s ∈ p, s.isPlain = true

instance (p : Path) : Decidable p.Plain := inferInstanceAs (Decidable (∀ s ∈ p, s.isPlain = true))

@[simp] theorem Path.plain_nil : Path.Plain [] := by simp [Path.Plain]

@[simp] theorem Path.plain_cons (s : Segment) (p : Path) :
    Path.Plain (s :: p) ↔ s.isPlain = true ∧ Path.Plain p := by
  simp [Path.Plain]

theorem isCommented_iff (name : String) : isCommented name = true ↔ ∃ rest, name = "_" ++ rest := by
  unfold isCommented
  rw [beq_iff_eq]
  constructor
  · intro h
    obtain ⟨rest,hrest⟩ := List.head?_eq_some_iff.mp h
    refine ⟨String.ofList rest,String.toList_inj.mp ?_⟩
    simp [hrest]
  · rintro ⟨rest,rfl⟩
    simp

namespace Value

def child? : Segment → Value → Option Value
  | .field name, v => v.field? name
  | .item i, v => v.array?.bind fun items => items[i]?

def at? : Path → Value → Option Value
  | [], v => some v
  | s :: p, v => (v.child? s).bind (at? p)

theorem uncommentedItems_eq (items : List Value) :
    uncommentedItems items = items.map uncommented := by
  induction items with
  | nil => rfl
  | cons v rest ih => simp [uncommentedItems,ih]

theorem uncommentedFields_eq (fields : List (String × Value)) :
    uncommentedFields fields =
      (fields.filter fun e => !isCommented e.1).map fun e => (e.1,e.2.uncommented) := by
  induction fields with
  | nil => rfl
  | cons e rest ih =>
    obtain ⟨name,v⟩ := e
    cases h : isCommented name <;> simp [uncommentedFields,h,ih]

theorem get?_uncommentedFields (name : String) (fields : List (String × Value)) :
    Keyed.get? name (uncommentedFields fields) =
      if isCommented name then none else (Keyed.get? name fields).map uncommented := by
  induction fields with
  | nil => simp [uncommentedFields]
  | cons e rest ih =>
    obtain ⟨k,v⟩ := e
    by_cases hk : k = name
    · subst hk
      cases h : isCommented k <;> simp_all [uncommentedFields,Keyed.get?]
    · cases h : isCommented k <;> simp [uncommentedFields,Keyed.get?,h,hk,ih]

theorem field?_uncommented (name : String) (v : Value) :
    v.uncommented.field? name =
      if isCommented name then none else (v.field? name).map uncommented := by
  cases v with
  | object fields => simp only [uncommented,field?,get?_uncommentedFields]
  | _ => simp [uncommented,field?]

/-- A step leads to what is left of the value there, unless the step is to a commented-out field. -/
theorem child?_uncommented (s : Segment) (v : Value) :
    v.uncommented.child? s = if s.isPlain then (v.child? s).map uncommented else none := by
  cases s with
  | field name => cases h : isCommented name <;> simp [child?,field?_uncommented,Segment.isPlain,h]
  | item i =>
    cases v with
    | array items => simp [child?,uncommented,array?,uncommentedItems_eq,Segment.isPlain]
    | _ => simp [child?,uncommented,array?,Segment.isPlain]

theorem at?_uncommented (p : Path) (v : Value) :
    v.uncommented.at? p = if p.Plain then (v.at? p).map uncommented else none := by
  induction p generalizing v with
  | nil => simp [at?]
  | cons s p ih =>
    simp only [at?,child?_uncommented,Path.plain_cons]
    cases hs : s.isPlain with
    | false => simp
    | true => cases hv : v.child? s <;> simp [ih]

/-- What is left of a value, one level deep: lists keep their length, objects the names that are not
commented out, and all else stays as it is. -/
inductive Thinned : Value → Value → Prop
  | null : Thinned .null .null
  | bool (b : Bool) : Thinned (.bool b) (.bool b)
  | number (n : Number) : Thinned (.number n) (.number n)
  | string (s : String) : Thinned (.string s) (.string s)
  | array {items left : List Value} (h : left.length = items.length) :
      Thinned (.array items) (.array left)
  | object {fields left : List (String × Value)}
      (h : Keyed.keys left = (Keyed.keys fields).filter fun name => !isCommented name) :
      Thinned (.object fields) (.object left)

theorem keys_uncommentedFields (fields : List (String × Value)) :
    Keyed.keys (uncommentedFields fields) =
      (Keyed.keys fields).filter fun name => !isCommented name := by
  simp only [uncommentedFields_eq,Keyed.keys,List.map_map,List.filter_map]
  rfl

theorem thinned_uncommented (v : Value) : Thinned v v.uncommented := by
  cases v with
  | null => exact .null
  | bool b => exact .bool b
  | number n => exact .number n
  | string s => exact .string s
  | array items => exact .array (by simp [uncommentedItems_eq])
  | object fields => exact .object (keys_uncommentedFields fields)

theorem isCommented_of_at?_uncommented {v : Value} {p : Path} {fields : List (String × Value)}
    (h : v.uncommented.at? p = some (.object fields)) {name : String}
    (hname : name ∈ Keyed.keys fields) : isCommented name = false := by
  rw [at?_uncommented] at h
  split_ifs at h
  obtain ⟨u,-,hu⟩ := Option.map_eq_some_iff.mp h
  have hthinned := thinned_uncommented u
  rw [hu] at hthinned
  cases hthinned with
  | object hkeys =>
    rw [hkeys] at hname
    simpa using (List.mem_filter.mp hname).2

mutual

/-- The objects in a value with their paths, outer ones before those inside them. -/
def located : Value → List (Path × List (String × Value))
  | array items => locatedItems 0 items
  | object fields => ([],fields) :: locatedFields fields
  | _ => []

def locatedItems (index : Nat) : List Value → List (Path × List (String × Value))
  | [] => []
  | v :: rest =>
    (located v).map (fun o => (.item index :: o.1,o.2)) ++ locatedItems (index + 1) rest

def locatedFields : List (String × Value) → List (Path × List (String × Value))
  | [] => []
  | (name,v) :: rest =>
    (located v).map (fun o => (.field name :: o.1,o.2)) ++ locatedFields rest

end

mutual

theorem map_snd_located (v : Value) : v.located.map Prod.snd = v.objects := by
  cases v with
  | array items => simpa only [located,objects] using map_snd_locatedItems 0 items
  | object fields => simp only [located,objects,List.map_cons,map_snd_locatedFields fields]
  | _ => rfl

theorem map_snd_locatedItems (index : Nat) (items : List Value) :
    (locatedItems index items).map Prod.snd = objectsOfItems items := by
  match items with
  | [] => rfl
  | v :: rest =>
    simp only [locatedItems,objectsOfItems,List.map_append,List.map_map,
      ← map_snd_located v,← map_snd_locatedItems (index + 1) rest]
    rfl

theorem map_snd_locatedFields (fields : List (String × Value)) :
    (locatedFields fields).map Prod.snd = objectsOfFields fields := by
  match fields with
  | [] => rfl
  | (name,v) :: rest =>
    simp only [locatedFields,objectsOfFields,List.map_append,List.map_map,
      ← map_snd_located v,← map_snd_locatedFields rest]
    rfl

end

/-- Those of the objects that no commented-out field encloses, each without its own commented-out
fields. -/
def visible (located : List (Path × List (String × Value))) : List (List (String × Value)) :=
  (located.filter fun o => o.1.Plain).map fun o =>
    (o.2.filter fun e => !isCommented e.1).map fun e => (e.1,e.2.uncommented)

@[simp] theorem visible_append (a b : List (Path × List (String × Value))) :
    visible (a ++ b) = visible a ++ visible b := by
  simp [visible]

/-- Below a step that is plain the same objects are visible, and below any other none. -/
theorem visible_below (s : Segment) (located : List (Path × List (String × Value))) :
    visible (located.map fun o => (s :: o.1,o.2)) = if s.isPlain then visible located else [] := by
  simp only [visible,List.filter_map,List.map_map,Function.comp_def,Path.plain_cons]
  cases s.isPlain <;> simp

mutual

theorem objects_uncommented (v : Value) : v.uncommented.objects = visible v.located := by
  cases v with
  | array items => simpa only [uncommented,objects,located] using objectsOfItems_uncommented 0 items
  | object fields =>
    simp only [uncommented,objects,located,objectsOfFields_uncommented fields]
    rw [uncommentedFields_eq]
    rfl
  | _ => rfl

theorem objectsOfItems_uncommented (index : Nat) (items : List Value) :
    objectsOfItems (uncommentedItems items) = visible (locatedItems index items) := by
  match items with
  | [] => rfl
  | v :: rest =>
    simp only [uncommentedItems,objectsOfItems,locatedItems,visible_append,visible_below,
      objects_uncommented v,objectsOfItems_uncommented (index + 1) rest]
    rfl

theorem objectsOfFields_uncommented (fields : List (String × Value)) :
    objectsOfFields (uncommentedFields fields) = visible (locatedFields fields) := by
  match fields with
  | [] => rfl
  | (name,v) :: rest =>
    have hrest := objectsOfFields_uncommented rest
    cases h : isCommented name with
    | true => simp [uncommentedFields,locatedFields,visible_below,Segment.isPlain,h,hrest]
    | false =>
      simp [uncommentedFields,objectsOfFields,locatedFields,visible_below,Segment.isPlain,h,hrest,
        objects_uncommented v]

end

theorem isCommented_of_mem_objects {v : Value} {fields : List (String × Value)}
    (h : fields ∈ v.uncommented.objects) {name : String} (hname : name ∈ Keyed.keys fields) :
    isCommented name = false := by
  rw [objects_uncommented] at h
  obtain ⟨o,-,rfl⟩ := List.mem_map.mp h
  rw [← uncommentedFields_eq,keys_uncommentedFields] at hname
  simpa using (List.mem_filter.mp hname).2

theorem objectsOfItems_eq (items : List Value) : objectsOfItems items = items.flatMap objects := by
  induction items with
  | nil => rfl
  | cons v rest ih => simp [objectsOfItems,ih]

theorem objectsOfFields_eq (fields : List (String × Value)) :
    objectsOfFields fields = fields.flatMap fun e => e.2.objects := by
  induction fields with
  | nil => rfl
  | cons e rest ih => simp [objectsOfFields,ih]

/-- The fields of every object stand in ascending order of their names. -/
def Ordered (v : Value) : Prop := ∀ fields ∈ v.objects, Keyed.Ascending fields

theorem ordered_array {items : List Value} :
    (array items).Ordered ↔ ∀ v ∈ items, v.Ordered := by
  simp only [Ordered,objects,objectsOfItems_eq,List.mem_flatMap]
  constructor
  · intro h v hv fields hfields
    exact h fields ⟨v,hv,hfields⟩
  · rintro h fields ⟨v,hv,hfields⟩
    exact h v hv fields hfields

theorem ordered_object {fields : List (String × Value)} :
    (object fields).Ordered ↔ Keyed.Ascending fields ∧ ∀ e ∈ fields, e.2.Ordered := by
  simp only [Ordered,objects,objectsOfFields_eq,List.forall_mem_cons,List.mem_flatMap]
  constructor
  · rintro ⟨hasc,h⟩
    exact ⟨hasc,fun e he inner hinner => h inner ⟨e,he,hinner⟩⟩
  · rintro ⟨hasc,h⟩
    refine ⟨hasc,?_⟩
    rintro inner ⟨e,he,hinner⟩
    exact h e he inner hinner

mutual

theorem ordered_normalize (v : Value) : v.normalize.Ordered := by
  cases v with
  | array items => exact ordered_array.mpr (ordered_normalizeItems items)
  | object fields =>
    refine ordered_object.mpr ⟨Keyed.ascending_ofList _,fun e he => ?_⟩
    exact ordered_normalizeFields fields e (Keyed.mem_of_mem_ofList he)
  | _ => simp [normalize,Ordered,objects]

theorem ordered_normalizeItems (items : List Value) : ∀ v ∈ normalizeItems items, v.Ordered := by
  match items with
  | [] => simp [normalizeItems]
  | v :: rest =>
    exact List.forall_mem_cons.mpr ⟨ordered_normalize v,ordered_normalizeItems rest⟩

theorem ordered_normalizeFields (fields : List (String × Value)) :
    ∀ e ∈ normalizeFields fields, e.2.Ordered := by
  match fields with
  | [] => simp [normalizeFields]
  | (name,v) :: rest =>
    exact List.forall_mem_cons.mpr ⟨ordered_normalize v,ordered_normalizeFields rest⟩

end

theorem ordered_of_parse {text : String} {v : Value} (h : parse text = .ok v) : v.Ordered := by
  obtain ⟨raw,-,rfl⟩ := Except.map_eq_ok.mp h
  exact ordered_normalize raw

mutual

/-- All values in a value with their paths, outer ones before those inside them. -/
def nodes : Value → List (Path × Value)
  | array items => ([],array items) :: nodesOfItems 0 items
  | object fields => ([],object fields) :: nodesOfFields fields
  | v => [([],v)]

def nodesOfItems (index : Nat) : List Value → List (Path × Value)
  | [] => []
  | v :: rest => (nodes v).map (fun o => (.item index :: o.1,o.2)) ++ nodesOfItems (index + 1) rest

def nodesOfFields : List (String × Value) → List (Path × Value)
  | [] => []
  | (name,v) :: rest => (nodes v).map (fun o => (.field name :: o.1,o.2)) ++ nodesOfFields rest

end

mutual

theorem mem_nodes {v : Value} (h : v.Ordered) (p : Path) (w : Value) :
    (p,w) ∈ v.nodes ↔ v.at? p = some w := by
  match v with
  | array items =>
    rw [nodes,List.mem_cons,mem_nodesOfItems (ordered_array.mp h)]
    match p with
    | [] => simpa [at?] using eq_comm
    | .field name :: q => simp [at?,child?,field?]
    | .item i :: q => simp [at?,child?,array?]
  | object fields =>
    obtain ⟨hasc,hfields⟩ := ordered_object.mp h
    rw [nodes,List.mem_cons,mem_nodesOfFields hfields]
    match p with
    | [] => simpa [at?] using eq_comm
    | .field name :: q => simp [at?,child?,field?,Option.bind_eq_some_iff,Keyed.mem_iff_get? hasc]
    | .item i :: q => simp [at?,child?,array?]
  | null | bool _ | number _ | string _ =>
    match p with
    | [] => simpa [at?,nodes] using eq_comm
    | .field name :: q => simp [at?,child?,field?,nodes]
    | .item i :: q => simp [at?,child?,array?,nodes]

theorem mem_nodesOfItems {items : List Value} (h : ∀ v ∈ items, v.Ordered) {index : Nat} {p : Path}
    {w : Value} :
    (p,w) ∈ nodesOfItems index items ↔
      ∃ i q, p = .item (index + i) :: q ∧ items[i]?.bind (at? q) = some w := by
  match items with
  | [] => simp [nodesOfItems]
  | v :: rest =>
    obtain ⟨hv,hrest⟩ := List.forall_mem_cons.mp h
    rw [nodesOfItems,List.mem_append,List.mem_map,mem_nodesOfItems hrest]
    constructor
    · rintro (⟨⟨q,found⟩,hq,heq⟩ | ⟨i,q,rfl,hq⟩)
      · cases heq
        exact ⟨0,q,rfl,(mem_nodes hv q found).mp hq⟩
      · exact ⟨i + 1,q,by rw [Nat.add_assoc,Nat.add_comm 1],hq⟩
    · rintro ⟨i,q,rfl,hq⟩
      cases i with
      | zero => exact Or.inl ⟨(q,w),(mem_nodes hv q w).mpr hq,rfl⟩
      | succ i => exact Or.inr ⟨i,q,by rw [Nat.add_assoc,Nat.add_comm 1],hq⟩

theorem mem_nodesOfFields {fields : List (String × Value)} (h : ∀ e ∈ fields, e.2.Ordered) {p : Path}
    {w : Value} :
    (p,w) ∈ nodesOfFields fields ↔
      ∃ name q v, p = .field name :: q ∧ (name,v) ∈ fields ∧ v.at? q = some w := by
  match fields with
  | [] => simp [nodesOfFields]
  | (name,v) :: rest =>
    obtain ⟨hv,hrest⟩ := List.forall_mem_cons.mp h
    rw [nodesOfFields,List.mem_append,List.mem_map,mem_nodesOfFields hrest]
    constructor
    · rintro (⟨⟨q,found⟩,hq,heq⟩ | ⟨other,q,u,rfl,hu,hq⟩)
      · cases heq
        exact ⟨name,q,v,rfl,List.mem_cons_self,(mem_nodes hv q found).mp hq⟩
      · exact ⟨other,q,u,rfl,List.mem_cons_of_mem _ hu,hq⟩
    · rintro ⟨other,q,u,rfl,hu,hq⟩
      rcases List.mem_cons.mp hu with heq | hmem
      · cases heq
        exact Or.inl ⟨(q,w),(mem_nodes hv q w).mpr hq,rfl⟩
      · exact Or.inr ⟨other,q,u,rfl,hmem,hq⟩

end

/-- The values of one kind among values with paths, as `view` shows them. -/
def kept {α : Type} (view : Value → Option α) (nodes : List (Path × Value)) : List (Path × α) :=
  nodes.filterMap fun o => (view o.2).map fun a => (o.1,a)

theorem kept_below {α : Type} (view : Value → Option α) (s : Segment) (nodes : List (Path × Value)) :
    kept view (nodes.map fun o => (s :: o.1,o.2)) =
      (kept view nodes).map fun o => (s :: o.1,o.2) := by
  simp only [kept,List.filterMap_map,List.map_filterMap,Function.comp_def,Option.map_map]

theorem mem_kept {α : Type} {view : Value → Option α} {make : α → Value}
    (hview : ∀ v a, view v = some a ↔ v = make a) {nodes : List (Path × Value)} {p : Path} {a : α} :
    (p,a) ∈ kept view nodes ↔ (p,make a) ∈ nodes := by
  rw [kept,List.mem_filterMap]
  constructor
  · rintro ⟨⟨q,v⟩,hmem,hkept⟩
    obtain ⟨a',ha,heq⟩ := Option.map_eq_some_iff.mp hkept
    cases heq
    exact (hview v a).mp ha ▸ hmem
  · intro hmem
    exact ⟨(p,make a),hmem,by rw [(hview _ a).mpr rfl,Option.map_some]⟩

theorem object?_eq_some (v : Value) (fields : List (String × Value)) :
    v.object? = some fields ↔ v = .object fields := by
  cases v <;> simp [object?]

theorem string?_eq_some (v : Value) (s : String) : v.string? = some s ↔ v = .string s := by
  cases v <;> simp [string?]

mutual

theorem located_eq (v : Value) : v.located = kept object? v.nodes := by
  cases v with
  | array items => exact locatedItems_eq 0 items
  | object fields => exact congrArg (([],fields) :: ·) (locatedFields_eq fields)
  | _ => rfl

theorem locatedItems_eq (index : Nat) (items : List Value) :
    locatedItems index items = kept object? (nodesOfItems index items) := by
  match items with
  | [] => rfl
  | v :: rest =>
    rw [locatedItems,nodesOfItems,located_eq v,locatedItems_eq (index + 1) rest,
      ← kept_below]
    exact List.filterMap_append.symm

theorem locatedFields_eq (fields : List (String × Value)) :
    locatedFields fields = kept object? (nodesOfFields fields) := by
  match fields with
  | [] => rfl
  | (name,v) :: rest =>
    rw [locatedFields,nodesOfFields,located_eq v,locatedFields_eq rest,← kept_below]
    exact List.filterMap_append.symm

end

theorem mem_located {v : Value} (h : v.Ordered) (p : Path) (fields : List (String × Value)) :
    (p,fields) ∈ v.located ↔ v.at? p = some (.object fields) := by
  rw [located_eq,mem_kept object?_eq_some,mem_nodes h]

mutual

theorem uncommented_uncommented (v : Value) : v.uncommented.uncommented = v.uncommented := by
  cases v with
  | array items => exact congrArg array (uncommentedItems_uncommentedItems items)
  | object fields => exact congrArg object (uncommentedFields_uncommentedFields fields)
  | _ => rfl

theorem uncommentedItems_uncommentedItems (items : List Value) :
    uncommentedItems (uncommentedItems items) = uncommentedItems items := by
  match items with
  | [] => rfl
  | v :: rest =>
    simp only [uncommentedItems,uncommented_uncommented v,uncommentedItems_uncommentedItems rest]

theorem uncommentedFields_uncommentedFields (fields : List (String × Value)) :
    uncommentedFields (uncommentedFields fields) = uncommentedFields fields := by
  match fields with
  | [] => rfl
  | (name,v) :: rest =>
    have hrest := uncommentedFields_uncommentedFields rest
    cases h : isCommented name <;> simp [uncommentedFields,h,hrest,uncommented_uncommented v]

end

/-- What is left of a value when commented-out fields are dropped. Exactly the paths without such
fields lead somewhere, and what they lead to is thinned out on its own level. Nothing is left to be
dropped a second time. The objects that are left are those which no commented-out field encloses, in
the same order, with the names that are not commented out; the last two parts say where the objects
of a value stand, and the first which names are commented out. -/
theorem uncommented_keeps_plain_paths (v : Value) :
    (∀ name, isCommented name = true ↔ ∃ rest, name = "_" ++ rest) ∧
    (∀ p, (v.uncommented.at? p).isSome ↔ (v.at? p).isSome ∧ p.Plain) ∧
    (∀ p w, v.uncommented.at? p = some w → ∃ u, v.at? p = some u ∧ Thinned u w) ∧
    v.uncommented.uncommented = v.uncommented ∧
    v.uncommented.objects = visible v.located ∧
    v.located.map Prod.snd = v.objects ∧
    (v.Ordered → ∀ p fields, (p,fields) ∈ v.located ↔ v.at? p = some (.object fields)) := by
  refine ⟨isCommented_iff,fun p => ?_,fun p w hw => ?_,uncommented_uncommented v,
    objects_uncommented v,map_snd_located v,mem_located⟩
  · rw [at?_uncommented]
    by_cases hp : p.Plain <;> simp [hp]
  · rw [at?_uncommented] at hw
    split_ifs at hw
    obtain ⟨u,hu,rfl⟩ := Option.map_eq_some_iff.mp hw
    exact ⟨u,hu,thinned_uncommented u⟩

/-- A text with a commented-out object, and with an object in a list that has a commented-out
field. -/
theorem uncommented_keeps_plain_paths_in_lists :
    let text := "\x7b\"c\":[null,\x7b\"e\":true,\"_d\":null\x7d],\"_a\":\x7b\"b\":null\x7d\x7d"
    let inner := [("_d",Value.null),("e",.bool true)]
    let v := Value.object [("_a",.object [("b",.null)]),("c",.array [.null,.object inner])]
    parse text = .ok v ∧ v.Ordered ∧
      (v.uncommented.at? [.field "c",.item 1,.field "e"]).isSome ∧
      ¬(v.uncommented.at? [.field "_a",.field "b"]).isSome ∧
      ([.field "c",.item 1],inner) ∈ v.located ∧
      v.uncommented.objects.map Keyed.keys = [["c"],["e"]] := by
  intro text inner v
  have hparse : parse text = .ok v := Except.toOption_eq_some.mp (by decide +kernel)
  have hordered : v.Ordered := ordered_of_parse hparse
  obtain ⟨-,hpath,-,-,-,-,hlocated⟩ := uncommented_keeps_plain_paths v
  refine ⟨hparse,hordered,(hpath _).mpr ⟨rfl,by decide +kernel⟩,fun h => ?_,
    (hlocated hordered _ _).mpr rfl,by decide +kernel⟩
  exact absurd ((hpath _).mp h).2 (by decide +kernel)

end Value
end Json
end AppLint
