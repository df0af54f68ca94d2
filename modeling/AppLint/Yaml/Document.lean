import AppLint.Keyed
import AppLint.Yaml.Node
import AppLint.Yaml.Token.Stream

/-! The first document of a YAML text, put together from the text's tokens. -/
namespace AppLint
namespace Yaml

/-- Why a tree is cut off. -/
inductive Break where
  | syntaxError (e : SyntaxError)
  | unknownAnchor (mark : Mark)
deriving DecidableEq, Repr

/-- Tokens of which the first are put together. -/
structure Composer where
  tokens : List Token
  /-- The error after the last token. -/
  ending : Option SyntaxError
  broken : Option Break := none
  /-- What tag handles stand for. -/
  handles : List (String × String) := []
  /-- The numbers of anchors by name. A new anchor takes as its number how many names there are. -/
  anchors : Keyed Nat := []
  /-- The anchored nodes in the order in which they start, with their numbers. -/
  anchored : List (Nat × Nat) := []
  nodes : List (Nat × Node) := []

namespace Composer

abbrev Compose := StateM Composer

def breakOff (b : Break) : Compose Unit := modify fun c => { c with broken := some b, tokens := [] }

/-- Break off at `mark` while `what`. -/
def refuse (problem : String) (mark : Mark) (context : Option (String × Mark) := none) : Compose Unit :=
  breakOff (.syntaxError { problem := problem, mark := mark, context := context })

/-- The next token; at the error that ends them, break off. -/
def peek : Compose (Option Token) := do
  let c ← get
  match c.tokens, c.broken, c.ending with
  | t :: _, _, _ => return some t
  | [], none, some e => breakOff (.syntaxError e); return none
  | [], _, _ => return none

def eat : Compose Unit := modify fun c => { c with tokens := c.tokens.drop 1 }

def isBroken : Compose Bool := do return (← get).broken.isSome

def empty (mark : Mark) (tag : Option String := none) : Node := .scalar mark tag .plain ""

def defaultHandles : List (String × String) := [("!","!"),("!!","tag:yaml.org,2002:")]

/-- The properties of a node, in either order. -/
structure Properties where
  start : Mark
  anchor : Option String := none
  tag : Option (String × String × Mark) := none

def properties (start : Mark) : Compose Properties := do
  let anchor : Compose (Option String) := do
    match ← peek with
    | some ⟨.anchor name,_,_⟩ => eat; return some name
    | _ => return none
  let tag : Compose (Option (String × String × Mark)) := do
    match ← peek with
    | some ⟨.tag handle suffix,mark,_⟩ => eat; return some (handle,suffix,mark)
    | _ => return none
  match ← anchor with
  | some name => return { start := start, anchor := some name, tag := ← tag }
  | none =>
    match ← tag with
    | some t => return { start := start, tag := some t, anchor := ← anchor }
    | none => return { start := start }

/-- The tag in full. -/
def fullTag (p : Properties) : Compose (Option String) := do
  match p.tag with
  | none => return none
  | some (handle,suffix,mark) =>
    if handle = "" then return some suffix
    else
      match (← get).handles.lookup handle with
      | some leader => return some (leader ++ suffix)
      | none =>
        refuse "found undefined tag handle" mark (some ("while parsing a node",p.start))
        return none

/-- Give the node that starts here a number; the result is its place among the anchored nodes. -/
def numberAnchor (name : String) : Compose Nat := do
  let c ← get
  let number := c.anchors.length
  set { c with anchors := Keyed.insert name number c.anchors
               anchored := c.anchored ++ [(number,c.anchored.length)] }
  return c.anchored.length

def reference (name : String) (mark : Mark) : Compose Node := do
  match Keyed.get? name (← get).anchors with
  | some number => return .reference mark number
  | none =>
    breakOff (.unknownAnchor mark)
    return .cut

mutual

def node (block indentless : Bool) : Nat → Compose Node
  | 0 => return .cut
  | fuel + 1 => do
    let some first ← peek | return .cut
    if let .reference name := first.kind then
      eat
      reference name first.start
    else
      let p ← properties first.start
      let some t ← peek | return .cut
      let tag ← fullTag p
      if ← isBroken then return .cut
      else
        match p.anchor with
        | none => content block indentless p tag t fuel
        | some name =>
          let place ← numberAnchor name
          let n ← content block indentless p tag t fuel
          modify fun c => { c with nodes := (place,n) :: c.nodes }
          return n

/-- What follows the properties of a node. -/
def content (block indentless : Bool) (p : Properties) (tag : Option String) (t : Token) :
    Nat → Compose Node
  | 0 => return .cut
  | fuel + 1 => do
    match t.kind with
    | .scalar text style =>
      eat
      return .scalar p.start (if tag = some "!" then none else tag) style text
    | .flowSequenceStart => eat; return .sequence p.start tag (← flowItems t.start true fuel)
    | .flowMappingStart => eat; return .mapping p.start tag (← flowEntries t.start true fuel)
    | kind =>
      if indentless && kind == .blockEntry then
        return .sequence p.start tag (← indentlessItems fuel)
      else if block && kind == .blockSequenceStart then
        eat
        return .sequence p.start tag (← blockItems t.start fuel)
      else if block && kind == .blockMappingStart then
        eat
        return .mapping p.start tag (← blockEntries t.start fuel)
      else if p.anchor.isSome || tag.isSome then return empty p.start tag
      else
        refuse "did not find expected node content" t.start
          (some (if block then "while parsing a block node" else "while parsing a flow node",p.start))
        return .cut

/-- A node, or an empty one if one of the tokens `before` stands here. -/
def nodeUnless (before : List TokenKind) (block indentless : Bool) (mark : Token → Mark) :
    Nat → Compose Node
  | 0 => return .cut
  | fuel + 1 => do
    let some t ← peek | return .cut
    if before.contains t.kind then return empty (mark t) else node block indentless fuel

def blockItems (start : Mark) : Nat → Compose (List Node)
  | 0 => return [.cut]
  | fuel + 1 => do
    let some t ← peek | return [.cut]
    match t.kind with
    | .blockEntry =>
      eat
      let n ← nodeUnless [.blockEntry,.blockEnd] true false (fun _ => t.stop) fuel
      return n :: (← blockItems start fuel)
    | .blockEnd => eat; return []
    | _ =>
      refuse "did not find expected '-' indicator" t.start
        (some ("while parsing a block collection",start))
      return [.cut]

/-- The items of a sequence that stands under a key at the key's own column. -/
def indentlessItems : Nat → Compose (List Node)
  | 0 => return [.cut]
  | fuel + 1 => do
    let some t ← peek | return [.cut]
    if t.kind == .blockEntry then
      eat
      let n ← nodeUnless [.blockEntry,.key,.value,.blockEnd] true false (fun _ => t.stop) fuel
      return n :: (← indentlessItems fuel)
    else return []

def blockEntries (start : Mark) : Nat → Compose (List (Node × Node))
  | 0 => return [(.cut,.cut)]
  | fuel + 1 => do
    let some t ← peek | return [(.cut,.cut)]
    match t.kind with
    | .key =>
      eat
      let key ← nodeUnless [.key,.value,.blockEnd] true true (fun _ => t.stop) fuel
      let value ← blockValue fuel
      return (key,value) :: (← blockEntries start fuel)
    | .blockEnd => eat; return []
    | _ =>
      refuse "did not find expected key" t.start (some ("while parsing a block mapping",start))
      return [(.cut,.cut)]

def blockValue : Nat → Compose Node
  | 0 => return .cut
  | fuel + 1 => do
    let some t ← peek | return .cut
    if t.kind == .value then
      eat
      nodeUnless [.key,.value,.blockEnd] true true (fun _ => t.stop) fuel
    else return empty t.start

def flowItems (start : Mark) (first : Bool) : Nat → Compose (List Node)
  | 0 => return [.cut]
  | fuel + 1 => do
    let some t ← flowNext start first .flowSequenceEnd "while parsing a flow sequence"
      "did not find expected ',' or ']'" | return [.cut]
    match t.kind with
    | .flowSequenceEnd => eat; return []
    | .key =>
      eat
      let entry ← flowPair fuel
      return .mapping t.start none [entry] :: (← flowItems start false fuel)
    | _ =>
      let n ← node false false fuel
      return n :: (← flowItems start false fuel)

/-- The next token inside brackets, after the comma that must come before all but the first item. -/
def flowNext (start : Mark) (first : Bool) (closing : TokenKind) (what problem : String) :
    Compose (Option Token) := do
  let some t ← peek | return none
  if first || t.kind == closing then return some t
  else if t.kind == .flowEntry then eat; peek
  else
    refuse problem t.start (some (what,start))
    return none

/-- A key and its value that stand in a sequence without braces around them. -/
def flowPair : Nat → Compose (Node × Node)
  | 0 => return (.cut,.cut)
  | fuel + 1 => do
    let some t ← peek | return (.cut,.cut)
    let key ←
      if [TokenKind.value,.flowEntry,.flowSequenceEnd].contains t.kind then
        eat
        pure (empty t.stop)
      else node false false fuel
    return (key,← flowValue .flowSequenceEnd fuel)

def flowValue (closing : TokenKind) : Nat → Compose Node
  | 0 => return .cut
  | fuel + 1 => do
    let some t ← peek | return .cut
    if t.kind == .value then
      eat
      nodeUnless [.flowEntry,closing] false false (·.start) fuel
    else return empty t.start

def flowEntries (start : Mark) (first : Bool) : Nat → Compose (List (Node × Node))
  | 0 => return [(.cut,.cut)]
  | fuel + 1 => do
    let some t ← flowNext start first .flowMappingEnd "while parsing a flow mapping"
      "did not find expected ',' or '\x7d'" | return [(.cut,.cut)]
    match t.kind with
    | .flowMappingEnd => eat; return []
    | .key =>
      eat
      let key ← nodeUnless [.value,.flowEntry,.flowMappingEnd] false false (·.start) fuel
      let value ← flowValue .flowMappingEnd fuel
      return (key,value) :: (← flowEntries start false fuel)
    | _ =>
      let key ← node false false fuel
      let some after ← peek | return [(key,.cut)]
      return (key,empty after.start) :: (← flowEntries start false fuel)

end

/-- The directives in front of a document. -/
def directives (versioned : Bool) : Nat → Compose Unit
  | 0 => return ()
  | fuel + 1 => do
    let some t ← peek | return ()
    match t.kind with
    | .versionDirective major minor =>
      if versioned then refuse "found duplicate %YAML directive" t.start
      else if major != 1 || (minor != 1 && minor != 2) then
        refuse "found incompatible YAML document" t.start
      else
        eat
        directives true fuel
    | .tagDirective handle leader =>
      if ((← get).handles.lookup handle).isSome then refuse "found duplicate %TAG directive" t.start
      else
        modify fun c => { c with handles := (handle,leader) :: c.handles }
        eat
        directives versioned fuel
    | _ => modify fun c => { c with handles := c.handles ++ defaultHandles }

/-- The node of the first document. -/
def root (fuel : Nat) : Compose Node := do
  let some t ← peek | return .cut
  match t.kind with
  | .streamEnd => return .absent t.start
  | .versionDirective _ _ | .tagDirective _ _ | .documentStart =>
    directives false fuel
    let some t ← peek | return .cut
    if t.kind == .documentStart then
      eat
      let some t ← peek | return .cut
      match t.kind with
      | .versionDirective _ _ | .tagDirective _ _ | .documentStart | .documentEnd | .streamEnd =>
        return empty t.start
      | _ => node true false fuel
    else
      refuse "did not find expected <document start>" t.start
      return .cut
  | _ =>
    directives false fuel
    node true false fuel

/-- Whether anything but the end of the text follows the first document. -/
def moreFollows : Nat → Compose Bool
  | 0 => return false
  | fuel + 1 => do
    match ← peek with
    | some ⟨.documentEnd,_,_⟩ => eat; moreFollows fuel
    | some ⟨.streamEnd,_,_⟩ => return false
    | _ => return true

end Composer

/-- The first document of a text. -/
structure Document where
  root : Node
  /-- The numbers of anchors with the nodes they are on. -/
  anchored : List (Nat × Node)
  /-- The error that ends the document. -/
  broken : Option Break
  /-- Another document follows. -/
  more : Bool
deriving Repr

namespace Document

def parse (text : String) : Document :=
  let (ts,ending) := tokens text
  let fuel := 4 * ts.length + 16
  let composer : Composer := { tokens := ts, ending := ending }
  let (root,composer) := (Composer.root fuel).run composer
  let (_,composer) := Composer.peek.run composer
  let more := if composer.broken.isSome then false else ((Composer.moreFollows fuel).run composer).1
  let anchored := composer.anchored.reverse.filterMap fun (number,place) =>
    (composer.nodes.lookup place).map (number,·)
  ⟨root,anchored,composer.broken,more⟩

/-- The node under an anchor's number, of several the one that starts last. -/
def anchor? (number : Nat) (d : Document) : Option Node := d.anchored.lookup number

end Document
end Yaml
end AppLint
