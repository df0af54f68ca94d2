import AppLint.Keyed
import Mathlib.Data.List.Induction
import Mathlib.Data.String.Basic

/-! Maps with ascending keys: looking up, putting in and changing values. -/
namespace AppLint
namespace Keyed
variable {α β : Type}

theorem ofList_append_singleton (entries : List (String × α)) (e : String × α) :
    ofList (entries ++ [e]) = insert e.1 e.2 (ofList entries) := by
  simp [ofList]

theorem ascending_ofList (entries : List (String × α)) : Ascending (ofList entries) := by
  induction entries using List.reverseRecOn with
  | nil => exact List.Pairwise.nil
  | append_singleton entries e ih =>
    rw [ofList_append_singleton]
    exact ascending_insert e.1 e.2 _ ih

theorem mem_of_mem_ofList {entries : List (String × α)} {e : String × α} (h : e ∈ ofList entries) :
    e ∈ entries := by
  induction entries using List.reverseRecOn with
  | nil => simp [ofList] at h
  | append_singleton entries last ih =>
    rw [ofList_append_singleton] at h
    rcases eq_or_mem_of_mem_insert h with rfl | hmem
    · simp
    · exact List.mem_append_left _ (ih hmem)

theorem mem_of_get? {key : String} {value : α} {entries : Keyed α}
    (h : get? key entries = some value) : (key,value) ∈ entries := by
  induction entries with
  | nil => simp at h
  | cons e rest ih =>
    obtain ⟨k,v⟩ := e
    simp only [get?] at h
    split_ifs at h with hk
    · simp_all
    · exact List.mem_cons_of_mem _ (ih h)

theorem get?_of_mem {key : String} {value : α} {entries : Keyed α} (hasc : Ascending entries)
    (h : (key,value) ∈ entries) : get? key entries = some value := by
  induction entries with
  | nil => simp at h
  | cons e rest ih =>
    obtain ⟨k,v⟩ := e
    obtain ⟨hk,hrest⟩ := List.pairwise_cons.mp hasc
    rcases List.mem_cons.mp h with heq | hmem
    · simp_all [get?]
    · have hlt : k < key := hk key (List.mem_map_of_mem hmem)
      simp [get?,hlt.ne,ih hrest hmem]

theorem mem_iff_get? {key : String} {value : α} {entries : Keyed α} (hasc : Ascending entries) :
    (key,value) ∈ entries ↔ get? key entries = some value :=
  ⟨get?_of_mem hasc,mem_of_get?⟩

theorem mem_keys_iff {key : String} {entries : Keyed α} :
    key ∈ entries.keys ↔ (get? key entries).isSome = true := by
  induction entries with
  | nil => simp [keys]
  | cons e rest ih =>
    obtain ⟨k,v⟩ := e
    by_cases hk : k = key
    · simp [keys,get?,hk]
    · have hne : ¬key = k := fun h => hk h.symm
      simpa [keys,get?,hk,hne] using ih

theorem get?_ofList (key : String) (entries : List (String × α)) :
    get? key (ofList entries) = (entries.reverse.find? fun e => e.1 = key).map Prod.snd := by
  induction entries using List.reverseRecOn with
  | nil => rfl
  | append_singleton entries e ih =>
    rw [ofList_append_singleton,List.reverse_append,List.reverse_singleton,List.singleton_append,
      List.find?_cons]
    by_cases h : e.1 = key
    · subst h
      simp
    · rw [get?_insert_of_ne (Ne.symm h),ih]
      simp [h]

theorem length_insert_pos (key : String) (value : α) (entries : Keyed α) :
    0 < (insert key value entries).length := by
  cases entries with
  | nil => simp [insert]
  | cons e rest =>
    simp only [insert]
    split
    · simp
    · split <;> simp

theorem length_insert_of_get?_eq_none {key : String} {entries : Keyed α}
    (h : get? key entries = none) (value : α) :
    (insert key value entries).length = entries.length + 1 := by
  induction entries with
  | nil => rfl
  | cons e rest ih =>
    obtain ⟨k,v⟩ := e
    simp only [get?] at h
    split_ifs at h with hk
    simp only [insert]
    split_ifs with hlt
    · rfl
    · simp [ih h]

def mapValues (f : α → β) (entries : Keyed α) : Keyed β := entries.map fun (key,v) => (key,f v)

@[simp] theorem keys_mapValues (f : α → β) (entries : Keyed α) :
    (mapValues f entries).keys = entries.keys := by
  simp [mapValues,keys,Function.comp_def]

@[simp] theorem get?_mapValues (f : α → β) (key : String) (entries : Keyed α) :
    get? key (mapValues f entries) = (get? key entries).map f := by
  induction entries with
  | nil => rfl
  | cons e rest ih =>
    obtain ⟨k,v⟩ := e
    by_cases hk : k = key
    · simp [mapValues,get?,hk]
    · simpa [mapValues,get?,hk] using ih

@[simp] theorem mapValues_insert (f : α → β) (key : String) (value : α) (entries : Keyed α) :
    mapValues f (insert key value entries) = insert key (f value) (mapValues f entries) := by
  induction entries with
  | nil => rfl
  | cons e rest ih =>
    obtain ⟨k,v⟩ := e
    simp only [insert,mapValues,List.map_cons] at ih ⊢
    split_ifs
    · rfl
    · rfl
    · rw [List.map_cons,ih]

@[simp] theorem values_mapValues (f : α → β) (entries : Keyed α) :
    (mapValues f entries).values = entries.values.map f := by
  simp [mapValues,values,Function.comp_def]

end Keyed
end AppLint
