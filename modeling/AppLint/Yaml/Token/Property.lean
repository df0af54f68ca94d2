import AppLint.Yaml.Token.Scalar

/-! Reading what stands around nodes: directives, anchors and aliases, and tags. -/
namespace AppLint
namespace Yaml

/-- Characters of tags; three more may stand in tags that are written out in full. -/
def isTagChar (full : Bool) (c : Char) : Bool :=
  isNameChar c || ";/?:@&=+$.%!~*'()".toList.contains c || (full && ",[]".toList.contains c)

/-- How many bytes a character takes whose first byte this is. -/
def leadWidth? (byte : Nat) : Option Nat :=
  if byte < 0x80 then some 1
  else if 0xC0 ≤ byte && byte < 0xE0 then some 2
  else if 0xE0 ≤ byte && byte < 0xF0 then some 3
  else if 0xF0 ≤ byte && byte < 0xF8 then some 4
  else none

/-- The bits that the first of `width` bytes gives to its character. -/
def leadBits (width byte : Nat) : Nat :=
  if width == 1 then byte else byte % Nat.pow 2 (7 - width)

def escapedByte? (c : Cursor) : Option Nat :=
  if c.isAt '%' then hexNumber? 2 (c.rest.drop 1) else none

/-- The further bytes of a character. -/
def escapedTail (what : String) (start : Mark) (value : Nat) :
    Nat → Cursor → Except SyntaxError (Char × Cursor)
  | 0, c => .ok (Char.ofNat value,c)
  | more + 1, c =>
    match escapedByte? c with
    | none => c.fail what start "did not find URI escaped octet"
    | some byte =>
      if 0x80 ≤ byte && byte < 0xC0 then
        escapedTail what start (64 * value + byte % 64) more (c.skipMany 3)
      else c.fail what start "found an incorrect trailing UTF-8 octet"

/-- A character that is written as bytes in hexadecimal digits, each after a percent sign. -/
def takeEscapedChar (what : String) (start : Mark) (c : Cursor) : Except SyntaxError (Char × Cursor) :=
  match escapedByte? c with
  | none => c.fail what start "did not find URI escaped octet"
  | some byte =>
    match leadWidth? byte with
    | none => c.fail what start "found an incorrect leading UTF-8 octet"
    | some width => escapedTail what start (leadBits width byte) (width - 1) (c.skipMany 3)

def tagTextFrom (full : Bool) (what : String) (start : Mark) (done : List Char) :
    Nat → Cursor → Except SyntaxError (List Char × Cursor)
  | 0, c => .ok (done.reverse,c)
  | fuel + 1, c =>
    match c.rest with
    | [] => .ok (done.reverse,c)
    | ch :: _ =>
      if ch == '%' then do
        let (image,c) ← takeEscapedChar what start c
        tagTextFrom full what start (image :: done) fuel c
      else if isTagChar full ch then tagTextFrom full what start (ch :: done) fuel c.skip
      else .ok (done.reverse,c)

/-- The text of a tag, which goes on from `head`; it is empty only after some head. -/
def takeTagText (full directive : Bool) (head : List Char) (start : Mark) (c : Cursor) :
    Except SyntaxError (List Char × Cursor) := do
  let what := if directive then "while parsing a %TAG directive" else "while parsing a tag"
  let (text,after) ← tagTextFrom full what start [] (c.rest.length + 1) c
  if head.isEmpty && text.isEmpty then after.fail what start "did not find expected tag URI"
  else return (head.drop 1 ++ text,after)

/-- A handle: an exclamation mark, and perhaps a name with another one after it. -/
def takeHandle (directive : Bool) (start : Mark) (c : Cursor) :
    Except SyntaxError (List Char × Cursor) :=
  if !c.isAt '!' then
    c.fail (if directive then "while scanning a tag directive" else "while scanning a tag") start
      "did not find expected '!'"
  else
    let (name,c) := c.skip.takeWhile isNameChar
    if c.isAt '!' then .ok ('!' :: name ++ ['!'],c.skip)
    else if directive && !name.isEmpty then
      c.fail "while parsing a tag directive" start "did not find expected '!'"
    else .ok ('!' :: name,c)

/-- A tag, as its handle and the text after it. -/
def takeTag (flow : Bool) (c : Cursor) : Except SyntaxError (TokenKind × Cursor) := do
  let start := c.mark
  let (handle,suffix,c) ←
    if c.isAt '<' 1 then do
      let (text,c) ← takeTagText true false [] start (c.skipMany 2)
      if c.isAt '>' then pure ([],text,c.skip)
      else c.fail "while scanning a tag" start "did not find the expected '>'"
    else do
      let (handle,c) ← takeHandle false start c
      if 2 ≤ handle.length && handle.getLast? == some '!' then
        let (text,c) ← takeTagText false false [] start c
        pure (handle,text,c)
      else
        let (text,c) ← takeTagText false false handle start c
        pure (if text.isEmpty then ([],['!'],c) else (['!'],text,c))
  if c.isBlankOrEnd || (flow && c.isAt ',') then
    return (.tag (String.ofList handle) (String.ofList suffix),c)
  else c.fail "while scanning a tag" start "did not find expected whitespace or line break"

/-- An anchor or an alias, at its indicator. -/
def takeName (what : String) (c : Cursor) : Except SyntaxError (String × Cursor) :=
  let start := c.mark
  let (name,c) := c.skip.takeWhile isNameChar
  if !name.isEmpty && (c.isBlankOrEnd || c.peek.any "?:,]\x7d%@`".toList.contains) then
    .ok (String.ofList name,c)
  else c.fail what start "did not find expected alphabetic or numeric character"

/-- A number of a version, with nine digits at most. -/
def takeVersionNumber (start : Mark) (c : Cursor) : Except SyntaxError (Nat × Cursor) :=
  let digits := c.rest.takeWhile Char.isDigit
  if digits.isEmpty then
    c.fail "while scanning a %YAML directive" start "did not find expected version number"
  else if 9 < digits.length then
    (c.skipMany 9).fail "while scanning a %YAML directive" start
      "found extremely long version number"
  else
    .ok (digits.foldl (fun n d => 10 * n + (d.toNat - '0'.toNat)) 0,c.skipMany digits.length)

def takeVersion (start : Mark) (c : Cursor) : Except SyntaxError (TokenKind × Cursor) := do
  let (major,c) ← takeVersionNumber start c.skipBlanks
  if !c.isAt '.' then
    c.fail "while scanning a %YAML directive" start "did not find expected digit or '.' character"
  else
    let (minor,c) ← takeVersionNumber start c.skip
    return (.versionDirective major minor,c)

def takeTagDirective (start : Mark) (c : Cursor) : Except SyntaxError (TokenKind × Cursor) := do
  let (handle,c) ← takeHandle true start c.skipBlanks
  if !c.atBlank then
    c.fail "while scanning a %TAG directive" start "did not find expected whitespace"
  else
    let (leader,c) ← takeTagText true true [] start c.skipBlanks
    if !c.isBlankOrEnd then
      c.fail "while scanning a %TAG directive" start "did not find expected whitespace or line break"
    else return (.tagDirective (String.ofList handle) (String.ofList leader),c)

/-- A directive up to the end of its line; its token ends before comments. -/
def takeDirective (c : Cursor) : Except SyntaxError (TokenKind × Mark × Cursor) := do
  let what := "while scanning a directive"
  let start := c.mark
  let (name,c) := c.skip.takeWhile isNameChar
  if name.isEmpty then c.fail what start "could not find expected directive name"
  else if !c.isBlankOrEnd then c.fail what start "found unexpected non-alphabetical character"
  else
    let (kind,c) ←
      if name == "YAML".toList then takeVersion start c
      else if name == "TAG".toList then takeTagDirective start c
      else c.fail what start "found unknown directive name"
    let stop := c.mark
    let c := c.skipBlanks.skipComment
    if c.isBreakOrEnd then return (kind,stop,c.skipBreak)
    else c.fail what start "did not find expected comment or line break"

end Yaml
end AppLint
