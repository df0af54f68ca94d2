import AppLint.Yaml.Cursor
import AppLint.Yaml.Token

/-! Reading scalars: plain, quoted, and in blocks. -/
namespace AppLint
namespace Yaml

/-- White space between two words of a scalar. -/
inductive Gap where
  /-- Blanks on one line. -/
  | blanks (s : List Char)
  /-- A line break and the breaks after it. -/
  | breaks (first more : List Char)

namespace Gap

/-- What stands for the gap: the blanks; a space for a single line feed, else the further breaks. -/
def fold : Gap → List Char
  | blanks s => s
  | breaks first more =>
    if first.head? == some '\n' then (if more.isEmpty then [' '] else more) else first ++ more

def hasBreak : Gap → Bool
  | blanks _ => false
  | breaks _ _ => true

end Gap

/-- Read blanks and breaks; `tab` is asked before a tab after a break. -/
def takeGap (tab : Cursor → Except SyntaxError Unit) :
    Nat → Gap → Cursor → Except SyntaxError (Gap × Cursor)
  | 0, gap, c => .ok (gap,c)
  | fuel + 1, gap, c =>
    match c.rest with
    | [] => .ok (gap,c)
    | ch :: _ =>
      if isBlank ch then
        match gap with
        | .blanks s => takeGap tab fuel (.blanks (s ++ [ch])) c.skip
        | .breaks first more => do
          if ch == '\t' then tab c
          takeGap tab fuel (.breaks first more) c.skip
      else if isBreak ch then
        let (text,c) := c.takeBreak
        match gap with
        | .blanks _ => takeGap tab fuel (.breaks text []) c
        | .breaks first more => takeGap tab fuel (.breaks first (more ++ text)) c
      else .ok (gap,c)

/-- The characters that end a plain scalar inside brackets. -/
def isFlowIndicator (c : Char) : Bool :=
  c == ',' || c == '[' || c == ']' || c == '\x7b' || c == '\x7d'

/-- A word of a plain scalar. -/
def plainWord (flow : Bool) (start : Mark) (done : List Char) :
    Nat → Cursor → Except SyntaxError (List Char × Cursor)
  | 0, c => .ok (done.reverse,c)
  | fuel + 1, c =>
    match c.rest with
    | [] => .ok (done.reverse,c)
    | ch :: _ =>
      if isBlank ch || isBreak ch then .ok (done.reverse,c)
      else if flow && ch == ':' && (c.peek 1).any (fun d => isFlowIndicator d || d == '?') then
        c.fail "while scanning a plain scalar" start "found unexpected ':'"
      else if (ch == ':' && c.isBlankOrEnd 1) || (flow && isFlowIndicator ch) then
        .ok (done.reverse,c)
      else plainWord flow start (ch :: done) fuel c.skip

/-- What is read of a plain scalar. -/
structure PlainScalar where
  text : List Char
  stop : Mark
  cursor : Cursor
  /-- It ended after a line break. -/
  brokeLine : Bool

/-- The words of a plain scalar. In a block, a line that is indented less than `indent` ends it. -/
def plainFrom (flow : Bool) (indent : Int) (start : Mark) (text : List Char) (gap : Gap) (stop : Mark) :
    Nat → Cursor → Except SyntaxError PlainScalar
  | 0, c => .ok ⟨text,stop,c,gap.hasBreak⟩
  | fuel + 1, c =>
    if c.atIndicator '-' || c.atIndicator '.' || c.isAt '#' then .ok ⟨text,stop,c,gap.hasBreak⟩
    else do
      let (word,c) ← plainWord flow start [] (c.rest.length + 1) c
      let (text,gap,stop) :=
        if word.isEmpty then (text,gap,stop) else (text ++ gap.fold ++ word,.blanks [],c.mark)
      if !(c.atBlank || c.atBreak) then return ⟨text,stop,c,gap.hasBreak⟩
      else
        let tab (c : Cursor) : Except SyntaxError Unit :=
          if (c.mark.column : Int) < indent then
            c.fail "while scanning a plain scalar" start
              "found a tab character that violates indentation"
          else .ok ()
        let (gap,c) ← takeGap tab (c.rest.length + 1) gap c
        if !flow && (c.mark.column : Int) < indent then return ⟨text,stop,c,gap.hasBreak⟩
        else plainFrom flow indent start text gap stop fuel c

/-- A plain scalar, the indentation of the block around it being one less than `indent`. -/
def takePlain (flow : Bool) (indent : Int) (c : Cursor) : Except SyntaxError PlainScalar :=
  plainFrom flow indent c.mark [] (.blanks []) c.mark (c.rest.length + 1) c

/-- The meaning of an escape of one character. -/
def simpleEscape? : Char → Option Char
  | '0' => some (Char.ofNat 0)
  | 'a' => some (Char.ofNat 7)
  | 'b' => some (Char.ofNat 8)
  | 't' => some '\t'
  | '\t' => some '\t'
  | 'n' => some '\n'
  | 'v' => some (Char.ofNat 11)
  | 'f' => some (Char.ofNat 12)
  | 'r' => some '\r'
  | 'e' => some (Char.ofNat 27)
  | ' ' => some ' '
  | '"' => some '"'
  | '/' => some '/'
  | '\\' => some '\\'
  | 'N' => some (Char.ofNat 0x85)
  | '_' => some (Char.ofNat 0xA0)
  | 'L' => some (Char.ofNat 0x2028)
  | 'P' => some (Char.ofNat 0x2029)
  | _ => none

def escapeDigits? : Char → Option Nat
  | 'x' => some 2
  | 'u' => some 4
  | 'U' => some 8
  | _ => none

def hexDigit? (c : Char) : Option Nat :=
  if '0' ≤ c && c ≤ '9' then some (c.toNat - '0'.toNat)
  else if 'a' ≤ c && c ≤ 'f' then some (c.toNat - 'a'.toNat + 10)
  else if 'A' ≤ c && c ≤ 'F' then some (c.toNat - 'A'.toNat + 10)
  else none

def hexNumber? (n : Nat) (s : List Char) : Option Nat :=
  if s.length < n then none
  else (s.take n).foldlM (fun value c => do return 16 * value + (← hexDigit? c)) 0

/-- An escape, at its backslash. -/
def takeEscape (start : Mark) (c : Cursor) : Except SyntaxError (Char × Cursor) :=
  match c.peek 1 with
  | none => c.fail "while parsing a quoted scalar" start "found unknown escape character"
  | some mark =>
    match simpleEscape? mark, escapeDigits? mark with
    | some image, _ => .ok (image,c.skipMany 2)
    | none, some n =>
      let c := c.skipMany 2
      match hexNumber? n c.rest with
      | none => c.fail "while parsing a quoted scalar" start "did not find expected hexdecimal number"
      | some value =>
        if (0xD800 ≤ value && value ≤ 0xDFFF) || value > 0x10FFFF then
          c.fail "while parsing a quoted scalar" start "found invalid Unicode character escape code"
        else .ok (Char.ofNat value,c.skipMany n)
    | none, none => c.fail "while parsing a quoted scalar" start "found unknown escape character"

/-- How a word of a quoted scalar ended. -/
inductive WordEnd where
  | here
  | escapedBreak

/-- A word of a quoted scalar. -/
def quotedWord (single : Bool) (start : Mark) (done : List Char) :
    Nat → Cursor → Except SyntaxError (List Char × WordEnd × Cursor)
  | 0, c => .ok (done.reverse,.here,c)
  | fuel + 1, c =>
    match c.rest with
    | [] => .ok (done.reverse,.here,c)
    | ch :: _ =>
      if isBlank ch || isBreak ch then .ok (done.reverse,.here,c)
      else if single && ch == '\'' && c.isAt '\'' 1 then
        quotedWord single start ('\'' :: done) fuel (c.skipMany 2)
      else if ch == (if single then '\'' else '"') then .ok (done.reverse,.here,c)
      else if !single && ch == '\\' then
        if (c.peek 1).any isBreak then .ok (done.reverse,.escapedBreak,c.skip.skipBreak)
        else do
          let (image,c) ← takeEscape start c
          quotedWord single start (image :: done) fuel c
      else quotedWord single start (ch :: done) fuel c.skip

/-- The words of a quoted scalar after its opening quote. -/
def quotedFrom (single : Bool) (start : Mark) (text : List Char) :
    Nat → Cursor → Except SyntaxError (List Char × Cursor)
  | 0, c => .ok (text,c)
  | fuel + 1, c =>
    if c.atIndicator '-' || c.atIndicator '.' then
      c.fail "while scanning a quoted scalar" start "found unexpected document indicator"
    else if c.rest.isEmpty then
      c.fail "while scanning a quoted scalar" start "found unexpected end of stream"
    else do
      let (word,stop,c) ← quotedWord single start [] (c.rest.length + 1) c
      let text := text ++ word
      if c.isAt (if single then '\'' else '"') then return (text,c.skip)
      else
        let gap := match stop with
          | .here => Gap.blanks []
          | .escapedBreak => .breaks [] []
        let (gap,c) ← takeGap (fun _ => .ok ()) (c.rest.length + 1) gap c
        quotedFrom single start (text ++ gap.fold) fuel c

def takeQuoted (single : Bool) (c : Cursor) : Except SyntaxError (List Char × Cursor) :=
  quotedFrom single c.mark [] (c.rest.length + 1) c.skip

/-- What happens to the line breaks at the end of a block scalar. -/
inductive Chomping where
  | strip
  | clip
  | keep
deriving DecidableEq

/-- Indentation and empty lines of a block scalar. Without an indent, the greatest column met is
reported. -/
def blockBreaks (indent : Option Nat) (start : Mark) (breaks : List Char) (most : Nat) (stop : Mark) :
    Nat → Cursor → Except SyntaxError (List Char × Nat × Mark × Cursor)
  | 0, c => .ok (breaks,most,stop,c)
  | fuel + 1, c =>
    let limit := match indent with
      | some n => n - c.mark.column
      | none => c.rest.length
    let c := c.skipMany ((c.rest.take limit).takeWhile (· == ' ')).length
    let most := max most c.mark.column
    if indent.all (c.mark.column < ·) && c.isAt '\t' then
      c.fail "while scanning a block scalar" start
        "found a tab character where an indentation space is expected"
    else if c.atBreak then
      let (text,c) := c.takeBreak
      blockBreaks indent start (breaks ++ text) most c.mark fuel c
    else .ok (breaks,most,stop,c)

/-- The lines of a block scalar. -/
def blockLines (literal : Bool) (indent : Nat) (start : Mark) :
    Nat → List Char → List Char → List Char → Bool → Mark → Cursor →
      Except SyntaxError (List Char × List Char × List Char × Mark × Cursor)
  | 0, text, first, more, _, stop, c => .ok (text,first,more,stop,c)
  | fuel + 1, text, first, more, wasBlank, stop, c =>
    if c.mark.column != indent || c.rest.isEmpty then .ok (text,first,more,stop,c)
    else do
      let blank := c.atBlank
      let lead :=
        if !literal && first.head? == some '\n' && !wasBlank && !blank then
          if more.isEmpty then [' '] else []
        else first
      let (line,c) := c.takeWhile fun ch => !isBreak ch
      let (first',c) := c.takeBreak
      let (more',_,stop',c) ← blockBreaks (some indent) start [] 0 c.mark (c.rest.length + 1) c
      blockLines literal indent start fuel (text ++ lead ++ more ++ line) first' more' blank stop' c

/-- The header of a block scalar after its indicator: chomping and indentation, in either order. -/
def blockHeader (start : Mark) (c : Cursor) : Except SyntaxError (Chomping × Nat × Cursor) := do
  let chomp (c : Cursor) : Chomping × Cursor :=
    if c.isAt '+' then (.keep,c.skip) else if c.isAt '-' then (.strip,c.skip) else (.clip,c)
  let digit (c : Cursor) : Except SyntaxError (Nat × Cursor) :=
    match c.peek with
    | some d =>
      if d == '0' then
        c.fail "while scanning a block scalar" start "found an indentation indicator equal to 0"
      else if '1' ≤ d && d ≤ '9' then .ok (d.toNat - '0'.toNat,c.skip)
      else .ok (0,c)
    | none => .ok (0,c)
  if c.isAt '+' || c.isAt '-' then
    let (chomping,c) := chomp c
    let (increment,c) ← digit c
    return (chomping,increment,c)
  else
    let (increment,c) ← digit c
    if increment == 0 then return (.clip,0,c)
    else
      let (chomping,c) := chomp c
      return (chomping,increment,c)

/-- A block scalar inside a block with the given indentation: its text, its end, and what follows. -/
def takeBlock (literal : Bool) (outer : Int) (c : Cursor) :
    Except SyntaxError (List Char × Mark × Cursor) := do
  let start := c.mark
  let (chomping,increment,c) ← blockHeader start c.skip
  let c := c.skipBlanks.skipComment
  if !c.isBreakOrEnd then
    c.fail "while scanning a block scalar" start "did not find expected comment or line break"
  else
    let c := c.skipBreak
    let given : Option Nat :=
      if increment == 0 then none
      else some (if outer ≥ 0 then outer.toNat + increment else increment)
    let (breaks,most,stop,c) ← blockBreaks given start [] 0 c.mark (c.rest.length + 1) c
    let indent := given.getD (max (max most (outer + 1).toNat) 1)
    let (text,first,more,stop,c) ←
      blockLines literal indent start (c.rest.length + 1) [] [] breaks false stop c
    let tail := match chomping with
      | .strip => []
      | .clip => first
      | .keep => first ++ more
    return (text ++ tail,stop,c)

end Yaml
end AppLint
