import AppLint.Yaml.Token.Property

/-! The tokens of a text, one after the other. Indentation shows where blocks start and end, and a
colon shows afterwards that what was read before it is a key. -/
namespace AppLint
namespace Yaml

/-- Something that is a key if a colon follows it. -/
structure PossibleKey where
  /-- The index that its token has. -/
  index : Nat
  mark : Mark
  /-- In this place only a key may stand. -/
  required : Bool
deriving Repr

/-- A text of which the first tokens are read. -/
structure TokenStream where
  cursor : Cursor
  tokens : Array Token := #[]
  /-- The column of the block that is being read, -1 outside of blocks. -/
  indent : Int := -1
  outerIndents : List Int := []
  keyAllowed : Bool := true
  /-- The possible keys, of the innermost brackets first and of the blocks around all brackets
  last. -/
  keys : List (Option PossibleKey) := [none]
deriving Repr

namespace TokenStream

abbrev Step := Except SyntaxError TokenStream

def flowLevel (s : TokenStream) : Nat := s.keys.length - 1

def inFlow (s : TokenStream) : Bool := 0 < s.flowLevel

def mark (s : TokenStream) : Mark := s.cursor.mark

def push (kind : TokenKind) (start stop : Mark) (s : TokenStream) : TokenStream :=
  { s with tokens := s.tokens.push ⟨kind,start,stop⟩ }

/-- Put a token in front of the one at an index. -/
def insert (index : Nat) (kind : TokenKind) (mark : Mark) (s : TokenStream) : TokenStream :=
  { s with tokens := s.tokens.extract 0 index ++ #[⟨kind,mark,mark⟩] ++
      s.tokens.extract index s.tokens.size }

/-- End the blocks that are indented more than `column`. -/
def closeBlocks (column : Int) (s : TokenStream) : TokenStream :=
  if s.inFlow then s
  else go s.outerIndents s
where
  go : List Int → TokenStream → TokenStream
    | [], s => s
    | outer :: rest, s =>
      if s.indent > column then
        go rest { s.push .blockEnd s.mark s.mark with indent := outer, outerIndents := rest }
      else s

/-- Start a block at a column to the right of the present one, in front of the token at `index`. -/
def openBlock (kind : TokenKind) (mark : Mark) (index : Nat) (s : TokenStream) : TokenStream :=
  if !s.inFlow && s.indent < mark.column then
    { s.insert index kind mark with indent := mark.column, outerIndents := s.indent :: s.outerIndents }
  else s

def keyMissing {α : Type} (key : PossibleKey) (s : TokenStream) : Except SyntaxError α :=
  s.cursor.fail "while scanning a simple key" key.mark "could not find expected ':'"

/-- What stood here last is no key. -/
def dropKey (s : TokenStream) : Step :=
  match s.keys with
  | [] => .ok s
  | none :: _ => .ok s
  | some key :: rest =>
    if key.required then s.keyMissing key else .ok { s with keys := none :: rest }

/-- A key stands on one line and has at most 1024 characters. -/
def dropStaleKeys (s : TokenStream) : Step := do
  let keys ← s.keys.reverse.mapM fun
    | none => .ok none
    | some key =>
      if key.mark.line < s.mark.line || key.mark.index + 1024 < s.mark.index then
        if key.required then s.keyMissing key else .ok none
      else .ok (some key)
  return { s with keys := keys.reverse }

/-- The next token may turn out to be a key. -/
def saveKey (s : TokenStream) : Step := do
  if !s.keyAllowed then return s
  else
    let key : PossibleKey :=
      ⟨s.tokens.size,s.mark,!s.inFlow && s.indent == (s.mark.column : Int)⟩
    let s ← s.dropKey
    return { s with keys := some key :: s.keys.drop 1 }

/-- Read a token of `n` characters. -/
def pushMark (kind : TokenKind) (n : Nat) (s : TokenStream) : TokenStream :=
  let after := s.cursor.skipMany n
  { s.push kind s.mark after.mark with cursor := after }

/-- Move over white space and comments to the next token. Tabs may not stand where a key may. -/
def skipToToken (fuel : Nat) (s : TokenStream) : TokenStream :=
  match fuel with
  | 0 => s
  | fuel + 1 =>
    let c := if s.mark.index == 0 && s.cursor.isAt '\ufeff' then s.cursor.skip else s.cursor
    let c := (c.takeWhile fun ch => ch == ' ' || (ch == '\t' && (s.inFlow || !s.keyAllowed))).2
    let c := c.skipComment
    if c.atBreak then
      skipToToken fuel { s with cursor := c.skipBreak, keyAllowed := s.keyAllowed || !s.inFlow }
    else { s with cursor := c }

def refuse {α : Type} (problem : String) (s : TokenStream) : Except SyntaxError α :=
  .error { problem := problem, mark := s.mark }

def fetchEnd (s : TokenStream) : Step := do
  let mark := s.mark
  let mark := if mark.column == 0 then mark else { mark with line := mark.line + 1, column := 0 }
  let s := { s with cursor := { s.cursor with mark := mark } }
  let s ← (s.closeBlocks (-1)).dropKey
  return { s.push .streamEnd mark mark with keyAllowed := false }

def fetchDirective (s : TokenStream) : Step := do
  let s ← (s.closeBlocks (-1)).dropKey
  let (kind,stop,after) ← takeDirective s.cursor
  return { s.push kind s.mark stop with cursor := after, keyAllowed := false }

def fetchIndicator (kind : TokenKind) (s : TokenStream) : Step := do
  let s ← (s.closeBlocks (-1)).dropKey
  return { s.pushMark kind 3 with keyAllowed := false }

def fetchFlowStart (kind : TokenKind) (s : TokenStream) : Step := do
  let s ← s.saveKey
  return { s.pushMark kind 1 with keys := none :: s.keys, keyAllowed := true }

def fetchFlowEnd (kind : TokenKind) (s : TokenStream) : Step := do
  let s ← s.dropKey
  let s := if s.inFlow then { s with keys := s.keys.drop 1 } else s
  return { s.pushMark kind 1 with keyAllowed := false }

def fetchFlowEntry (s : TokenStream) : Step := do
  let s ← s.dropKey
  return { s.pushMark .flowEntry 1 with keyAllowed := true }

def fetchBlockEntry (s : TokenStream) : Step := do
  if !s.inFlow && !s.keyAllowed then
    s.refuse "block sequence entries are not allowed in this context"
  else
    let s ← (s.openBlock .blockSequenceStart s.mark s.tokens.size).dropKey
    return { s.pushMark .blockEntry 1 with keyAllowed := true }

def fetchKey (s : TokenStream) : Step := do
  if !s.inFlow && !s.keyAllowed then s.refuse "mapping keys are not allowed in this context"
  else
    let s ← (s.openBlock .blockMappingStart s.mark s.tokens.size).dropKey
    return { s.pushMark .key 1 with keyAllowed := !s.inFlow }

def fetchValue (s : TokenStream) : Step := do
  match s.keys with
  | some key :: outer =>
    let s := s.insert key.index .key key.mark
    let s := s.openBlock .blockMappingStart key.mark key.index
    return { s.pushMark .value 1 with keys := none :: outer, keyAllowed := false }
  | _ =>
    if !s.inFlow && !s.keyAllowed then s.refuse "mapping values are not allowed in this context"
    else
      let s := s.openBlock .blockMappingStart s.mark s.tokens.size
      return { s.pushMark .value 1 with keyAllowed := !s.inFlow }

def fetchName (what : String) (kind : String → TokenKind) (s : TokenStream) : Step := do
  let s ← s.saveKey
  let (name,after) ← takeName what s.cursor
  return { s.push (kind name) s.mark after.mark with cursor := after, keyAllowed := false }

def fetchTag (s : TokenStream) : Step := do
  let s ← s.saveKey
  let (kind,after) ← takeTag s.inFlow s.cursor
  return { s.push kind s.mark after.mark with cursor := after, keyAllowed := false }

def fetchBlockScalar (literal : Bool) (s : TokenStream) : Step := do
  let s ← s.dropKey
  let (text,stop,after) ← takeBlock literal s.indent s.cursor
  let kind := TokenKind.scalar (String.ofList text) (if literal then .literal else .folded)
  return { s.push kind s.mark stop with cursor := after, keyAllowed := true }

def fetchQuoted (single : Bool) (s : TokenStream) : Step := do
  let s ← s.saveKey
  let (text,after) ← takeQuoted single s.cursor
  let kind := TokenKind.scalar (String.ofList text) (if single then .singleQuoted else .doubleQuoted)
  return { s.push kind s.mark after.mark with cursor := after, keyAllowed := false }

def fetchPlain (s : TokenStream) : Step := do
  let s ← s.saveKey
  let scalar ← takePlain s.inFlow (s.indent + 1) s.cursor
  let kind := TokenKind.scalar (String.ofList scalar.text) .plain
  return { s.push kind s.mark scalar.stop with cursor := scalar.cursor, keyAllowed := scalar.brokeLine }

/-- Whether a plain scalar may start here. -/
def plainStarts (flow : Bool) (c : Cursor) : Bool :=
  match c.rest with
  | [] => false
  | ch :: _ =>
    !(isBlank ch || isBreak ch || "-?:,[]\x7b\x7d#&*!|>'\"%@`".toList.contains ch)
      || (ch == '-' && !(c.peek 1).any isBlank)
      || (!flow && (ch == '?' || ch == ':') && !c.isBlankOrEnd 1)

/-- Read the next token, in front of which blocks may end or start. -/
def fetch (s : TokenStream) : Step := do
  let s ← (s.skipToToken (s.cursor.rest.length + 1)).dropStaleKeys
  let s := s.closeBlocks s.mark.column
  let c := s.cursor
  let blankNext := c.isBlankOrEnd 1
  match c.rest with
  | [] => s.fetchEnd
  | ch :: _ =>
    if c.mark.column == 0 && ch == '%' then s.fetchDirective
    else if c.atIndicator '-' then s.fetchIndicator .documentStart
    else if c.atIndicator '.' then s.fetchIndicator .documentEnd
    else if ch == '[' then s.fetchFlowStart .flowSequenceStart
    else if ch == '\x7b' then s.fetchFlowStart .flowMappingStart
    else if ch == ']' then s.fetchFlowEnd .flowSequenceEnd
    else if ch == '\x7d' then s.fetchFlowEnd .flowMappingEnd
    else if ch == ',' then s.fetchFlowEntry
    else if ch == '-' && blankNext then s.fetchBlockEntry
    else if ch == '?' && (s.inFlow || blankNext) then s.fetchKey
    else if ch == ':' && (s.inFlow || blankNext) then s.fetchValue
    else if ch == '*' then s.fetchName "while scanning an alias" .reference
    else if ch == '&' then s.fetchName "while scanning an anchor" .anchor
    else if ch == '!' then s.fetchTag
    else if ch == '|' && !s.inFlow then s.fetchBlockScalar true
    else if ch == '>' && !s.inFlow then s.fetchBlockScalar false
    else if ch == '\'' then s.fetchQuoted true
    else if ch == '"' then s.fetchQuoted false
    else if plainStarts s.inFlow c then s.fetchPlain
    else
      c.fail "while scanning for the next token" c.mark "found character that cannot start any token"

/-- The tokens in front of all that may still turn out to be keys. -/
def settled (s : TokenStream) : Array Token :=
  s.tokens.extract 0 (s.keys.foldl (fun n key => min n ((key.map (·.index)).getD n)) s.tokens.size)

/-- All tokens, or those before an error. -/
def finish : Nat → TokenStream → List Token × Option SyntaxError
  | 0, s => (s.tokens.toList,none)
  | fuel + 1, s =>
    match s.fetch with
    | .error e => (s.settled.toList,some e)
    | .ok next =>
      match next.dropStaleKeys with
      | .error e => (next.settled.toList,some e)
      | .ok next =>
        if (next.tokens.back?.map (·.kind)) == some .streamEnd then (next.tokens.toList,none)
        else finish fuel next

end TokenStream

/-- Characters that may stand in a text. -/
def isAllowed (c : Char) : Bool :=
  let n := c.toNat
  n == 0x9 || n == 0xA || n == 0xD || (0x20 ≤ n && n ≤ 0x7E) || n == 0x85 ||
    (0xA0 ≤ n && n ≤ 0xD7FF) || (0xE000 ≤ n && n ≤ 0xFFFD) || 0x10000 ≤ n

/-- The tokens of a text after the stream's start, and the error that ends them. -/
def tokens (text : String) : List Token × Option SyntaxError :=
  let cs := text.toList
  let good := cs.takeWhile isAllowed
  if good.length < cs.length then
    ([],some { problem := "control characters are not allowed",
                offset := (String.ofList good).utf8ByteSize })
  else TokenStream.finish (cs.length + 2) { cursor := ⟨cs,{}⟩ }

end Yaml
end AppLint
