import AppLint.Yaml.Token

/-! The trees that YAML texts describe. A text with an error describes a tree that is cut off
there. -/
namespace AppLint
namespace Yaml

inductive Node where
  | scalar (mark : Mark) (tag : Option String) (style : ScalarStyle) (text : String)
  | sequence (mark : Mark) (tag : Option String) (items : List Node)
  | mapping (mark : Mark) (tag : Option String) (entries : List (Node × Node))
  /-- The node that has an anchor, by the anchor's number. -/
  | reference (mark : Mark) (number : Nat)
  /-- Nothing: the text holds no document. -/
  | absent (mark : Mark)
  /-- The text breaks off. -/
  | cut
deriving Repr, Inhabited

namespace Node

def isCut : Node → Bool
  | cut => true
  | _ => false

mutual

/-- The number of parts: scalars, aliases, and starts and ends of collections. -/
def parts : Node → Nat
  | scalar .. | reference .. | absent _ => 1
  | cut => 0
  | sequence _ _ items => 1 + partsOfItems items
  | mapping _ _ entries => 1 + partsOfEntries entries

def partsOfItems : List Node → Nat
  | [] => 1
  | [n] => n.parts + if n.isCut then 0 else 1
  | n :: rest => n.parts + partsOfItems rest

def partsOfEntries : List (Node × Node) → Nat
  | [] => 1
  | [(k,v)] => k.parts + v.parts + if v.isCut then 0 else 1
  | (k,v) :: rest => k.parts + v.parts + partsOfEntries rest

end

mutual

/-- Whether the text breaks off inside the node. -/
def isBroken : Node → Bool
  | cut => true
  | sequence _ _ items => anyBroken items
  | mapping _ _ entries => anyBrokenEntry entries
  | _ => false

def anyBroken : List Node → Bool
  | [] => false
  | n :: rest => n.isBroken || anyBroken rest

def anyBrokenEntry : List (Node × Node) → Bool
  | [] => false
  | (k,v) :: rest => k.isBroken || v.isBroken || anyBrokenEntry rest

end

end Node

end Yaml
end AppLint
