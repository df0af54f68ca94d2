import AppLint.Keyed
import AppLint.Numeric.Binary64

/-! JSON values. -/
namespace AppLint
namespace Json

/-- A number: an integer of at most 64 bits, or a floating-point number. -/
inductive Number where
  | integer (n : Int)
  | real (x : Binary64)
deriving DecidableEq, Repr, Inhabited

/-- A JSON value; the fields of an object stand in ascending order of their names. -/
inductive Value where
  | null
  | bool (b : Bool)
  | number (n : Number)
  | string (s : String)
  | array (items : List Value)
  | object (fields : List (String × Value))
deriving Repr, Inhabited

namespace Value

/-- The name of a value's kind. -/
def kind : Value → String
  | null => "null"
  | bool _ => "boolean"
  | number _ => "number"
  | string _ => "string"
  | array _ => "array"
  | object _ => "object"

/-- A field of an object. -/
def field? (name : String) : Value → Option Value
  | object fields => Keyed.get? name fields
  | _ => none

def string? : Value → Option String
  | string s => some s
  | _ => none

def array? : Value → Option (List Value)
  | array items => some items
  | _ => none

def object? : Value → Option (Keyed Value)
  | object fields => some fields
  | _ => none

def isObject (v : Value) : Bool := v.object?.isSome

/-- The integer from 0 to below 2^64 that a value is. -/
def natural? : Value → Option Nat
  | number (.integer n) => if 0 ≤ n ∧ n < UInt64.size then some n.toNat else none
  | _ => none

mutual

/-- Order the fields of all objects by name; of fields with one name the last is kept. -/
def normalize : Value → Value
  | array items => array (normalizeItems items)
  | object fields => object (Keyed.ofList (normalizeFields fields))
  | v => v

def normalizeItems : List Value → List Value
  | [] => []
  | v :: rest => normalize v :: normalizeItems rest

def normalizeFields : List (String × Value) → List (String × Value)
  | [] => []
  | (name,v) :: rest => (name,normalize v) :: normalizeFields rest

end

end Value
end Json
end AppLint
