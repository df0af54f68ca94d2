import AppLint.Catalog
import AppLint.Proofs.Keyed

/-! Catalogs: what it means that one stores exactly what a function says, and catalogs with other
values or with fewer. -/
namespace AppLint
namespace Catalog
variable {α β : Type} {name : α → String} {name' : β → String}

theorem mem_iff_get? {key : String} {value : α} {c : Catalog α name} :
    (key,value) ∈ c ↔ c.get? key = some value :=
  Keyed.mem_iff_get? c.ascending

theorem mem_keys_iff {key : String} {c : Catalog α name} :
    key ∈ c.keys ↔ (c.get? key).isSome = true :=
  Keyed.mem_keys_iff

theorem map_name_values (c : Catalog α name) : c.values.map name = c.keys := by
  rw [values,Keyed.values,List.map_map]
  exact List.map_congr_left c.named

theorem pairwise_name (c : Catalog α name) : (c.values.map name).Pairwise (· < ·) := by
  rw [map_name_values]
  exact c.ascending

theorem isSome_get? {key : String} {c : Catalog α name} :
    (c.get? key).isSome = true ↔ key ∈ c.values.map name := by
  rw [map_name_values,mem_keys_iff]

/-! ## None, one more -/

@[simp] theorem values_empty : (∅ : Catalog α name).values = [] := rfl

theorem entries_eq_nil {c : Catalog α name} : c.entries = [] ↔ c = ∅ :=
  (Catalog.ext_iff (x := c) (y := ∅)).symm

@[simp] theorem size_eq_zero {c : Catalog α name} : c.size = 0 ↔ c = ∅ := by
  rw [size,List.length_eq_zero_iff,entries_eq_nil]

theorem size_pos {c : Catalog α name} : 0 < c.size ↔ c ≠ ∅ := by
  rw [Nat.pos_iff_ne_zero,Ne,size_eq_zero]

@[simp] theorem isEmpty_iff {c : Catalog α name} : c.isEmpty = true ↔ c = ∅ := by
  rw [isEmpty,List.isEmpty_iff,entries_eq_nil]

theorem isEmpty_eq_false {c : Catalog α name} : c.isEmpty = false ↔ c ≠ ∅ := by
  rw [← Bool.not_eq_true,isEmpty_iff]

theorem length_values (c : Catalog α name) : c.values.length = c.size := by
  simp [values,Keyed.values,size]

theorem length_keys (c : Catalog α name) : c.keys.length = c.size := by
  simp [keys,Keyed.keys,size]

theorem size_insert_pos (value : α) (c : Catalog α name) : 0 < (c.insert value).size :=
  Keyed.length_insert_pos _ value c.entries

theorem size_insert_of_get?_eq_none {value : α} {c : Catalog α name}
    (h : c.get? (name value) = none) : (c.insert value).size = c.size + 1 :=
  Keyed.length_insert_of_get?_eq_none h value

@[simp] theorem get?_insert_self (value : α) (c : Catalog α name) :
    (c.insert value).get? (name value) = some value :=
  Keyed.get?_insert_self _ value c.entries

theorem get?_insert_of_ne {value : α} {other : String} (h : other ≠ name value)
    (c : Catalog α name) : (c.insert value).get? other = c.get? other :=
  Keyed.get?_insert_of_ne h value c.entries

/-! ## What a catalog stores -/

/-- The catalog has the values that `find` gives, and no others. -/
def Holds (c : Catalog α name) (find : String → Option α) : Prop :=
  ∀ key value, (key,value) ∈ c ↔ find key = some value

theorem holds_iff {c : Catalog α name} {find : String → Option α} :
    c.Holds find ↔ ∀ key, c.get? key = find key := by
  simp only [Holds,mem_iff_get?]
  exact forall_congr' fun key => ⟨Option.ext,fun h value => by rw [h]⟩

theorem holds_empty : (∅ : Catalog α name).Holds fun _ => none := by
  rw [holds_iff]
  intro key
  rfl

theorem Holds.insert {c : Catalog α name} {find : String → Option α} (h : c.Holds find)
    (value : α) : (c.insert value).Holds (Function.update find (name value) (some value)) := by
  rw [holds_iff] at h ⊢
  intro other
  by_cases hother : other = name value
  · subst hother
    simp
  · rw [get?_insert_of_ne hother,Function.update_of_ne hother,h]

theorem Holds.unique {a b : Catalog α name} {find : String → Option α} (ha : a.Holds find)
    (hb : b.Holds find) : a = b := by
  have hpairwise : ∀ c : Catalog α name, c.entries.Pairwise fun x y => x.1 < y.1 := fun c =>
    List.pairwise_map.mp c.ascending
  have hperm : a.entries.Perm b.entries := by
    have hnodup : ∀ c : Catalog α name, c.entries.Nodup := fun c =>
      (hpairwise c).imp fun hlt heq => hlt.ne (congrArg Prod.fst heq)
    rw [List.perm_ext_iff_of_nodup (hnodup a) (hnodup b)]
    rintro ⟨key,value⟩
    exact (ha key value).trans (hb key value).symm
  refine Catalog.ext (hperm.eq_of_pairwise (fun x y _ _ hxy hyx => ?_) (hpairwise a) (hpairwise b))
  exact absurd hyx hxy.asymm

/-! ## Other values -/

/-- Change the values and not their names. -/
def map (f : α → β) (hname : ∀ v, name' (f v) = name v) (c : Catalog α name) : Catalog β name' where
  entries := Keyed.mapValues f c.entries
  ascending := by
    rw [Keyed.Ascending,Keyed.keys_mapValues]
    exact c.ascending
  named e he := by
    obtain ⟨e,hmem,rfl⟩ := List.mem_map.mp he
    exact (hname e.2).trans (c.named e hmem)

section
variable (f : α → β) (hname : ∀ v, name' (f v) = name v) (c : Catalog α name)

@[simp] theorem get?_map (key : String) : (c.map f hname).get? key = (c.get? key).map f :=
  Keyed.get?_mapValues f key c.entries

@[simp] theorem values_map : (c.map f hname).values = c.values.map f :=
  Keyed.values_mapValues f c.entries

@[simp] theorem isEmpty_map : (c.map f hname).isEmpty = c.isEmpty := List.isEmpty_map

@[simp] theorem map_insert (value : α) :
    (c.insert value).map f hname = (c.map f hname).insert (f value) := by
  refine Catalog.ext ?_
  simp only [map,insert,Keyed.mapValues_insert,hname]

end

def filter (keep : α → Bool) (c : Catalog α name) : Catalog α name where
  entries := c.entries.filter fun e => keep e.2
  ascending := c.ascending.sublist (List.filter_sublist.map _)
  named e he := c.named e (List.mem_filter.mp he).1

@[simp] theorem values_filter (keep : α → Bool) (c : Catalog α name) :
    (c.filter keep).values = c.values.filter keep := by
  simp only [values,filter,Keyed.values,List.filter_map]
  rfl

end Catalog
end AppLint
