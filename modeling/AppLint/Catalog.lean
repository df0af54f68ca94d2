import AppLint.Keyed

/-! Values by their names. -/
namespace AppLint

/-- Values in ascending order of their names, each under its own name and no two under one. -/
@[ext] structure Catalog (α : Type) (name : α → String) where
  entries : Keyed α
  ascending : entries.Ascending
  named : ∀ e ∈ entries, name e.2 = e.1

namespace Catalog
variable {α : Type} {name : α → String}

instance : EmptyCollection (Catalog α name) := ⟨⟨[],.nil,by simp⟩⟩

instance : Membership (String × α) (Catalog α name) := ⟨fun c e => e ∈ c.entries⟩

def get? (key : String) (c : Catalog α name) : Option α := Keyed.get? key c.entries

/-- Put a value under its name, in place of the one that stood there. -/
def insert (value : α) (c : Catalog α name) : Catalog α name where
  entries := Keyed.insert (name value) value c.entries
  ascending := Keyed.ascending_insert _ _ _ c.ascending
  named e he := by
    rcases Keyed.eq_or_mem_of_mem_insert he with rfl | hmem
    · rfl
    · exact c.named e hmem

def keys (c : Catalog α name) : List String := c.entries.keys

def values (c : Catalog α name) : List α := c.entries.values

def size (c : Catalog α name) : Nat := c.entries.length

def isEmpty (c : Catalog α name) : Bool := c.entries.isEmpty

end Catalog
end AppLint
