import AppLint.Yaml.Decode

/-! YAML texts as JSON values. -/
namespace AppLint
namespace Yaml

open Json (Number Value)

namespace Scalar

/-- The JSON value of a scalar. What is no finite number becomes null. -/
def toJson : Scalar → Except Mismatch Value
  | null => .ok .null
  | boolean b => .ok (.bool b)
  | integer n =>
    if n < -Nat.pow 2 63 || Nat.pow 2 64 ≤ n then .error .outOfRange else .ok (.number (.integer n))
  | real (.finite x) => .ok (.number (.real x))
  | real _ => .ok .null
  | text s => .ok (.string s)

end Scalar

namespace Decode

def isLocal (tag : Option String) : Bool := tag.any Scalar.isLocalTag

/-- A value, with `depth` levels of nesting left. -/
def jsonValue : Nat → Place → Node → Decode Value
  | depth, p, n => do
    let n ← target p n
    located (markOf n) p.path do
      match n, depth with
      | .absent _, _ => return .null
      | .scalar _ tag style s, _ =>
        if isLocal tag then refuse (.invalidType .choice "any valid JSON value")
        else
          match Scalar.resolve tag style s >>= Scalar.toJson with
          | .ok v => return v
          | .error m => refuse m
      | .sequence mark tag items, depth =>
        if isLocal tag then refuse (.invalidType .choice "any valid JSON value")
        else
          match depth with
          | 0 => throw (.tooDeep mark)
          | depth + 1 =>
            return .array (← items.zipIdx.mapM fun (item,i) =>
              jsonValue depth { p with path := .item p.path i } item)
      | .mapping mark tag entries, depth =>
        if isLocal tag then refuse (.invalidType .choice "any valid JSON value")
        else
          match depth with
          | 0 => throw (.tooDeep mark)
          | depth + 1 =>
            let fields ← entries.zipIdx.mapM fun ((key,value),i) => do
              let name ← text p (if i == 0 then "a string key" else "a string") key
              return (name,← jsonValue depth { p with path := valuePath p key } value)
            return .object (Keyed.ofList fields)
      | _, _ => throw (endError p.document)

end Decode

/-- The value of a text, at most 128 levels deep. -/
def parse (text : String) : Except Error Value :=
  Decode.run (fun p n => Decode.jsonValue p.depth p n) text

end Yaml
end AppLint
