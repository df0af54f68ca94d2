import AppLint.Json.Decode
import AppLint.Template

/-! Template nodes from JSON text: objects whose field `node`, or `kind` for expressions, names the
form. -/
namespace AppLint
namespace Template

open Json (Reader Value)
open Json.Reader

abbrev Decoded := Except Mismatch

def elementCount (n : Nat) : String :=
  if n == 1 then "1 element" else toString n ++ " elements"

def stringOf (v : Value) : Decoded String :=
  match v with
  | .string s => .ok s
  | v => .error (.invalidType v.found "a string")

/-- The data of a form: named fields, or items in the order of the fields. -/
inductive Payload where
  | fields (fs : List (String × Value))
  | items (vs : List Value)

/-- Read the fields `names`, in the order in which they are written, with `read`. -/
def payload {α : Type} (form : String) (names : List String) (read : String → Value → Decoded α) :
    Payload → Decoded (List (String × α))
  | .fields fs => do
    let mut done : List (String × α) := []
    for (name,v) in fs do
      if name ∈ names then
        if done.any (·.1 = name) then throw (.duplicateField name)
        done := done ++ [(name,← read name v)]
    for name in names do
      if !done.any (·.1 = name) then throw (.missingField name)
    return done
  | .items vs => do
    let mut done : List (String × α) := []
    for (i,name) in (List.range names.length).zip names do
      match vs[i]? with
      | some v => done := done ++ [(name,← read name v)]
      | none => throw (.invalidLength i ("struct variant " ++ form ++ " with " ++ elementCount names.length))
    if vs.length > names.length then
      throw (.invalidLength vs.length (elementCount names.length ++ " in sequence"))
    return done

def expressionForms : List String :=
  ["identifier","string_literal","property_access","null_coalescing"]

/-- The form that a tag names, by name or by index. -/
def formOf (v : Value) : Decoded String :=
  match v with
  | .string s =>
    if s ∈ expressionForms then .ok s else .error (.unknownVariant s expressionForms)
  | .number (.integer n) =>
    if n < 0 then .error (.invalidType (.integer n) "variant identifier")
    else match expressionForms[n.toNat]? with
      | some s => .ok s
      | none => .error (.invalidValue (.integer n) "variant index 0 <= i < 4")
  | v => .error (.invalidType v.found "variant identifier")

/-- Separate the tag from the other fields. -/
def tagged (fields : List (String × Value)) : Decoded (String × Payload) := do
  let mut form : Option String := none
  let mut rest : List (String × Value) := []
  for (name,v) in fields do
    if name = "kind" then
      if form.isSome then throw (.duplicateField "kind")
      form := some (← formOf v)
    else rest := rest ++ [(name,v)]
  match form with
  | some f => return (f,.fields rest)
  | none => throw (.missingField "kind")

def taggedItems : List Value → Decoded (String × Payload)
  | [] => .error (.missingField "kind")
  | v :: rest => do return (← formOf v,.items rest)

/-- A part of an expression: a name or another expression. -/
inductive Part where
  | name (s : String)
  | expr (e : Expr)

def Part.toName : Part → String
  | name s => s
  | expr _ => ""

def Part.toExpr : Part → Expr
  | expr e => e
  | name s => .identifier s

def decodeExpr : Nat → Value → Decoded Expr
  | 0, v => .error (.invalidType v.found "internally tagged enum Expr")
  | depth + 1, v => do
    let (form,data) ← match v with
      | .object fields => tagged fields
      | .array items => taggedItems items
      | v => throw (.invalidType v.found "internally tagged enum Expr")
    let read (name : String) (v : Value) : Decoded Part :=
      if name = "object" || name = "left" || name = "right" then
        (decodeExpr depth v).map .expr
      else (stringOf v).map .name
    if form = "identifier" then
      let ps ← payload "Expr::Identifier" ["name"] read data
      return .identifier ((ps.lookup "name").map Part.toName |>.getD "")
    else if form = "string_literal" then
      let ps ← payload "Expr::StringLiteral" ["value"] read data
      return .stringLiteral ((ps.lookup "value").map Part.toName |>.getD "")
    else if form = "property_access" then
      let ps ← payload "Expr::PropertyAccess" ["object","property"] read data
      return .propertyAccess ((ps.lookup "object").map Part.toExpr |>.getD default)
        ((ps.lookup "property").map Part.toName |>.getD "")
    else
      let ps ← payload "Expr::NullCoalescing" ["left","right"] read data
      return .nullCoalescing ((ps.lookup "left").map Part.toExpr |>.getD default)
        ((ps.lookup "right").map Part.toExpr |>.getD default)

def nodeForms : List String := ["text","interpolation"]

def decodeNode (form : String) (data : Payload) : Decoded TemplateNode := do
  if form = "text" then
    let ps ← payload "TemplateNode::Text" ["value"] (fun _ v => stringOf v) data
    return .text ((ps.lookup "value").getD "")
  else
    let ps ← payload "TemplateNode::Interpolation" ["expr"] (fun _ v => decodeExpr depthLimit v) data
    return .interpolation ((ps.lookup "expr").getD default)

def nodeFields (depth : Nat) (first : Bool) (form : Option String)
    (done : List (String × Value)) : Nat → Reader (String × Payload)
  | 0 => mismatch (.missingField "node")
  | fuel + 1 => do
    match ← anotherField first with
    | none =>
      match form with
      | some f => return (f,.fields done.reverse)
      | none => mismatch (.missingField "node")
    | some name =>
      if name = "node" then
        if form.isSome then mismatch (.duplicateField "node")
        else
          colon
          let f ← variantName nodeForms
          nodeFields depth false (some f) done fuel
      else
        colon
        let v ← value depth
        nodeFields depth false form ((name,v) :: done) fuel

def nodeItems (depth : Nat) : Reader (String × Payload) := do
  if ← anotherItem true then
    let form ← variantName nodeForms
    let vs ← listItems (value depth) false [] ((← get).rest.length + 1)
    return (form,.items vs)
  else mismatch (.missingField "node")

/-- One node. -/
def readNode (depth : Nat) : Reader TemplateNode := do
  let (form,data) ← located do
    let c ← valueStart
    if c == '[' then
      let depth ← deeper depth
      eat
      closedBy (nodeItems depth) listEnd
    else if c == '\x7b' then
      let depth ← deeper depth
      eat
      closedBy (do nodeFields depth true none [] ((← get).rest.length + 1)) objectEnd
    else mismatch (.invalidType (← scalar c).found "internally tagged enum TemplateNode")
  match decodeNode form data with
  | .ok node => return node
  | .error m => mismatch m

/-- A list of nodes. -/
def parseNodes (source : String) : Except Json.Error (List TemplateNode) :=
  (Reader.list depthLimit readNode).run source

end Template
end AppLint
