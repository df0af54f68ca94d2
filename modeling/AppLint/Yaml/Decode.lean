import AppLint.Json.Value
import AppLint.Yaml.Document
import AppLint.Yaml.Scalar

/-! Data of a given shape from the trees of YAML texts. The first thing that does not fit is
reported, be it the shape or the text. -/
namespace AppLint
namespace Yaml

/-- The way to a node from the root. -/
inductive Path where
  | root
  | item (parent : Path) (index : Nat)
  | field (parent : Path) (name : String)
  /-- Under a key that is no scalar. -/
  | unnamed (parent : Path)
deriving DecidableEq, Repr

namespace Path

def text : Path → String
  | root => "."
  | item parent index => parent.text ++ "[" ++ toString index ++ "]"
  | field root name => name
  | field parent name => parent.text ++ "." ++ name
  | unnamed root => "?"
  | unnamed parent => parent.text ++ ".?"

end Path

inductive Error where
  | broken (b : Break)
  | endOfText
  | severalDocuments
  | tooDeep (mark : Mark)
  | tooManyAliases
  | mismatch (m : Mismatch) (place : Option (Mark × Path))
deriving DecidableEq, Repr

namespace Error

def wording : Wording := ⟨"unit value",Binary64.plain⟩

/-- A message with the place after it, unless that is the very start. -/
def atMark (message : String) (mark : Mark) : String :=
  if mark.isStart then message else message ++ " at " ++ mark.text

def message : Error → String
  | broken (.syntaxError e) => e.message
  | broken (.unknownAnchor mark) => atMark "unknown anchor" mark
  | endOfText => "EOF while parsing a value"
  | severalDocuments => "deserializing from YAML containing more than one document is not supported"
  | tooDeep mark => atMark "recursion limit exceeded" mark
  | tooManyAliases => "repetition limit exceeded"
  | mismatch m none => m.message wording
  | mismatch m (some (mark,.root)) => atMark (m.message wording) mark
  | mismatch m (some (mark,path)) => atMark (path.text ++ ": " ++ m.message wording) mark

/-- Give a place to a mismatch that has none yet. -/
def locate (mark : Mark) (path : Path) : Error → Error
  | mismatch m none => mismatch m (some (mark,path))
  | e => e

end Error

/-- Where in a document something is read, and how many levels of nesting are left there. -/
structure Place where
  document : Document
  path : Path := .root
  depth : Nat := 128

/-- Decoding counts how many aliases were followed. -/
abbrev Decode := StateT Nat (Except Error)

namespace Decode

def refuse {α : Type} (m : Mismatch) : Decode α := throw (.mismatch m none)

def located {α : Type} (mark : Mark) (path : Path) (d : Decode α) : Decode α := fun n =>
  (d n).mapError (Error.locate mark path)

def endError (d : Document) : Error :=
  match d.broken with
  | some b => .broken b
  | none => .endOfText

/-- The node that an alias stands for. The number of aliases that are followed is limited by the size
of the document. -/
def target (p : Place) : Node → Decode Node
  | .reference _ number => do
    modify (· + 1)
    if (← get) > 100 * p.document.root.parts then throw .tooManyAliases
    else
      match p.document.anchor? number with
      | some n => return n
      | none => throw (endError p.document)
  | .cut => throw (endError p.document)
  | n => return n

/-- Fail over a node. -/
def unexpected {α : Type} (expected : String) : Node → Decode α
  | .scalar _ tag style s =>
    match Scalar.resolve tag style s with
    | .ok v => refuse (.invalidType v.found expected)
    | .error m => refuse m
  | .sequence .. => refuse (.invalidType .sequence expected)
  | .mapping .. => refuse (.invalidType .map expected)
  | _ => throw .endOfText

def markOf : Node → Mark
  | .scalar mark .. | .sequence mark .. | .mapping mark .. | .reference mark _ | .absent mark => mark
  | .cut => {}

/-- One level deeper. -/
def deeper (p : Place) (mark : Mark) : Decode Place :=
  match p.depth with
  | 0 => throw (.tooDeep mark)
  | depth + 1 => return { p with depth := depth }

/-- Nothing at all, or a plain scalar without text, stands for an empty collection. -/
def isEmpty : Node → Bool
  | .absent _ => true
  | .scalar _ _ .plain "" => true
  | _ => false

/-- The text of any scalar. -/
def text (p : Place) (expected : String) (n : Node) : Decode String := do
  let n ← target p n
  located (markOf n) p.path do
    match n with
    | .scalar _ _ _ s => return s
    | n => unexpected expected n

def boolean (p : Place) (n : Node) : Decode Bool := do
  let n ← target p n
  located (markOf n) p.path do
    match n with
    | .scalar _ tag style s =>
      if style = .plain || (style = .literal && tag == some (Scalar.kindTag "bool")) then
        match Scalar.boolean? s with
        | some b => return b
        | none => unexpected "a boolean" n
      else unexpected "a boolean" n
    | n => unexpected "a boolean" n

/-- Null, or what `read` reads. -/
def optional {α : Type} (p : Place) (read : Place → Node → Decode α) (n : Node) : Decode (Option α) := do
  let n ← target p n
  let isNull ← match n with
    | .scalar _ tag .plain s =>
      match tag with
      | none => pure (s == "" || Scalar.isNull s)
      | some tag =>
        if tag = Scalar.kindTag "null" then
          if Scalar.isNull s then pure true else refuse (.invalidValue (.text s) "null")
        else pure false
    | .absent _ => pure true
    | _ => pure false
  if isNull then return none else return some (← read p n)

def list {α : Type} (p : Place) (read : Place → Node → Decode α) (n : Node) : Decode (List α) := do
  let n ← target p n
  located (markOf n) p.path do
    match n with
    | .sequence mark _ items =>
      let p ← deeper p mark
      items.zipIdx.mapM fun (item,i) => read { p with path := .item p.path i } item
    | n => if isEmpty n then return [] else unexpected "a sequence" n

/-- The path to the value of an entry. -/
def valuePath (p : Place) : Node → Path
  | .scalar _ _ _ s => .field p.path s
  | _ => .unnamed p.path

/-- Go through the fields of a record. -/
def record {α σ : Type} (p : Place) (expected : String) (start : σ)
    (read : σ → String → Place → Node → Decode σ) (finish : σ → Decode α) (n : Node) : Decode α := do
  let n ← target p n
  located (markOf n) p.path do
    match n with
    | .mapping mark _ entries =>
      let p ← deeper p mark
      finish (← entries.foldlM (fun state (key,value) => do
        let name ← text p "field identifier" key
        read state name { p with path := valuePath p key } value) start)
    | n => if isEmpty n then finish start else unexpected expected n

/-- Pass over a node. -/
def skip (p : Place) (n : Node) : Decode Unit :=
  if n.isBroken then throw (endError p.document) else return ()

/-- Read the first and only document of a text. -/
def run {α : Type} (read : Place → Node → Decode α) (text : String) : Except Error α := do
  let document := Document.parse text
  let (a,_) ← StateT.run (read { document := document } document.root) 0
  match document.broken with
  | some b => throw (.broken b)
  | none => if document.more then throw .severalDocuments else return a

end Decode
end Yaml
end AppLint
