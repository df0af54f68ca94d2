import AppLint.Json.Value

/-! Fields that are commented out by an underscore in front of their names. -/
namespace AppLint
namespace Json

/-- Only the ASCII underscore comments a field out. -/
def isCommented (name : String) : Bool := name.toList.head? == some '_'

namespace Value

mutual

/-- The value without commented fields, at every depth. -/
def uncommented : Value → Value
  | array items => array (uncommentedItems items)
  | object fields => object (uncommentedFields fields)
  | v => v

def uncommentedItems : List Value → List Value
  | [] => []
  | v :: rest => uncommented v :: uncommentedItems rest

def uncommentedFields : List (String × Value) → List (String × Value)
  | [] => []
  | (name,v) :: rest =>
    if isCommented name then uncommentedFields rest
    else (name,uncommented v) :: uncommentedFields rest

end

mutual

/-- The objects in a value, outer ones before those inside them. -/
def objects : Value → List (List (String × Value))
  | array items => objectsOfItems items
  | object fields => fields :: objectsOfFields fields
  | _ => []

def objectsOfItems : List Value → List (List (String × Value))
  | [] => []
  | v :: rest => objects v ++ objectsOfItems rest

def objectsOfFields : List (String × Value) → List (List (String × Value))
  | [] => []
  | (_,v) :: rest => objects v ++ objectsOfFields rest

end

end Value
end Json
end AppLint
