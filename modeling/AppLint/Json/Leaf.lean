import AppLint.Json.Value

/-! The strings in a value. -/
namespace AppLint
namespace Json

/-- A string with the name of the innermost field around it. -/
structure Leaf where
  key : Option String
  value : String
deriving DecidableEq, Repr

namespace Value

mutual

/-- All strings, in the order of the value, where `key` stands around it. -/
def leaves (key : Option String) : Value → List Leaf
  | string s => [⟨key,s⟩]
  | array items => leavesOfItems key items
  | object fields => leavesOfFields fields
  | _ => []

def leavesOfItems (key : Option String) : List Value → List Leaf
  | [] => []
  | v :: rest => leaves key v ++ leavesOfItems key rest

def leavesOfFields : List (String × Value) → List Leaf
  | [] => []
  | (name,v) :: rest => leaves (some name) v ++ leavesOfFields rest

end

end Value
end Json
end AppLint
