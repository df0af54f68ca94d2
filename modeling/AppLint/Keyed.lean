/-! Entries under pairwise different keys, in ascending order of the keys. -/
namespace AppLint

/-- A finite map as the list of its entries by key. -/
abbrev Keyed (α : Type) := List (String × α)

namespace Keyed
variable {α : Type}

/-- The value under the first entry with this key. -/
def get? (key : String) : Keyed α → Option α
  | [] => none
  | (k,v) :: rest => if k = key then some v else get? key rest

/-- Put a value under a key, in place of the one that stood there. -/
def insert (key : String) (value : α) : Keyed α → Keyed α
  | [] => [(key,value)]
  | (k,v) :: rest =>
    if key < k then (key,value) :: (k,v) :: rest
    else if k = key then (key,value) :: rest
    else (k,v) :: insert key value rest

/-- Collect entries, where of two with one key the later counts. -/
def ofList (entries : List (String × α)) : Keyed α :=
  entries.foldl (fun acc (k,v) => insert k v acc) []

def keys (entries : Keyed α) : List String := entries.map (·.1)

def values (entries : Keyed α) : List α := entries.map (·.2)

def contains (key : String) (entries : Keyed α) : Bool := (get? key entries).isSome

@[simp] theorem get?_nil (key : String) : get? key ([] : Keyed α) = none := rfl

@[simp] theorem get?_insert_self (key : String) (value : α) (entries : Keyed α) :
    get? key (insert key value entries) = some value := by
  induction entries with
  | nil => simp [insert,get?]
  | cons e rest ih =>
    obtain ⟨k,v⟩ := e
    simp only [insert]
    split
    · simp [get?]
    · split
      · simp [get?]
      · rename_i h
        simp [get?,h,ih]

theorem get?_insert_of_ne {key other : String} (h : other ≠ key) (value : α) (entries : Keyed α) :
    get? other (insert key value entries) = get? other entries := by
  induction entries with
  | nil => simp [insert,get?,Ne.symm h]
  | cons e rest ih =>
    obtain ⟨k,v⟩ := e
    simp only [insert]
    split
    · simp [get?,Ne.symm h]
    · split
      · rename_i hk
        subst hk
        simp [get?,Ne.symm h]
      · simp [get?,ih]

/-- Every key stands once, behind all smaller ones. -/
def Ascending (entries : Keyed α) : Prop := entries.keys.Pairwise (· < ·)

theorem eq_or_mem_of_mem_insert {key : String} {value : α} {entries : Keyed α} {e : String × α}
    (h : e ∈ insert key value entries) : e = (key,value) ∨ e ∈ entries := by
  induction entries with
  | nil => simpa [insert] using h
  | cons first rest ih =>
    obtain ⟨k,v⟩ := first
    simp only [insert] at h
    split at h
    · simpa using h
    · split at h
      · rcases List.mem_cons.mp h with hnew | hrest
        · exact Or.inl hnew
        · exact Or.inr (List.mem_cons_of_mem _ hrest)
      · rcases List.mem_cons.mp h with hfirst | hrest
        · exact Or.inr (by simp [hfirst])
        · exact (ih hrest).imp_right (List.mem_cons_of_mem _)

theorem ascending_insert (key : String) (value : α) (entries : Keyed α) (h : Ascending entries) :
    Ascending (insert key value entries) := by
  induction entries with
  | nil => simp [Ascending,insert,keys]
  | cons e rest ih =>
    obtain ⟨k,v⟩ := e
    obtain ⟨hk,hrest⟩ := List.pairwise_cons.mp h
    simp only [insert]
    split
    case isTrue hlt =>
      refine List.pairwise_cons.mpr ⟨?_,h⟩
      intro other hother
      rcases List.mem_cons.mp hother with rfl | hmem
      · exact hlt
      · exact String.lt_trans hlt (hk other hmem)
    case isFalse hlt =>
      split
      case isTrue heq =>
        subst heq
        exact h
      case isFalse hne =>
        refine List.pairwise_cons.mpr ⟨?_,ih hrest⟩
        intro other hother
        obtain ⟨e,he,rfl⟩ := List.mem_map.mp hother
        rcases eq_or_mem_of_mem_insert he with rfl | hmem
        · exact Std.lt_of_le_of_ne (String.not_lt.mp hlt) hne
        · exact hk e.1 (List.mem_map_of_mem hmem)

end Keyed
end AppLint
