import AppLint.Json.Decode

/-! The shapes of document trees. -/
namespace AppLint
namespace Schema

open Json (Value)

abbrev Check := Value → Except Mismatch Unit

def text : Check
  | .string _ => .ok ()
  | v => .error (.invalidType v.found "a string")

/-- A string, or null in place of it. -/
def optionalText : Check
  | .null => .ok ()
  | v => text v

def sequence : Check
  | .array _ => .ok ()
  | v => .error (.invalidType v.found "a sequence")

/-- Check the items of a list in order. -/
def each (check : Check) : Check
  | .array items => items.forM check
  | v => .error (.invalidType v.found "a sequence")

/-- Check the fields that have a check, in their order; other fields are free. -/
def fields (checks : List (String × Check)) (fs : Keyed Value) : Except Mismatch Unit :=
  fs.forM fun (name,v) =>
    match checks.lookup name with
    | some check => check v
    | none => .ok ()

def required (name : String) (fs : Keyed Value) : Except Mismatch Unit :=
  if Keyed.contains name fs then .ok () else .error (.missingField name)

/-- Check the items of a list that stands for a record, one check an item. -/
def items (checks : List Check) (vs : List Value) : Except Mismatch Unit := do
  (checks.zip vs).forM fun (check,v) => check v
  if vs.length > checks.length then
    .error (.invalidLength vs.length "fewer elements in array")

/-- The record `name`: an object, or a list with the values of its fields in order. The first
`needed` fields must be there. -/
def record (name : String) (needed : Nat) (checks : List (String × Check)) : Check
  | .object fs => do
    fields checks fs
    (checks.take needed).forM fun (field,_) => required field fs
  | .array vs =>
    if vs.length < needed then do
      items (checks.map (·.2)) vs
      .error (.invalidLength vs.length
        ("struct " ++ name ++ " with " ++ toString checks.length ++ " element" ++
          if checks.length == 1 then "" else "s"))
    else items (checks.map (·.2)) vs
  | v => .error (.invalidType v.found ("struct " ++ name))

/-- The string under the name of a field, or at its place in a list. -/
def part? (name : String) (index : Nat) : Value → Option String
  | .object fs => (Keyed.get? name fs).bind Value.string?
  | .array vs => vs[index]?.bind Value.string?
  | _ => none

end Schema
end AppLint
