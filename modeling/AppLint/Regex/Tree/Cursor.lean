import AppLint.Regex.Tree
import AppLint.Text.Blank

/-! Reading patterns character by character. -/
namespace AppLint
namespace Regex

/-- The rest of a pattern, and what earlier parts of it have set. -/
structure Cursor where
  rest : List Char
  position : Position := {}
  /-- White space and comments between the parts of the pattern are passed over. -/
  ignoreBlanks : Bool := false
  /-- The names of groups and where they stand. -/
  names : List (String × Span) := []

abbrev Reader := StateT Cursor (Except (Fault × Span))

namespace Reader

def advance (p : Position) (c : Char) : Position :=
  if c == '\n' then ⟨p.index + 1,p.line + 1,1⟩ else ⟨p.index + 1,p.line,p.column + 1⟩

def pos : Reader Position := do return (← get).position

def peek : Reader (Option Char) := do return (← get).rest.head?

def atEnd : Reader Bool := do return (← get).rest.isEmpty

def isAt (c : Char) : Reader Bool := do return (← peek) == some c

/-- Move over a character. -/
def bump : Reader Unit := modify fun s =>
  match s.rest with
  | [] => s
  | c :: rest => { s with rest := rest, position := advance s.position c }

/-- The span of the next character. -/
def charSpan : Reader Span := do
  let s ← get
  return ⟨s.position,(s.rest.head?).elim s.position (advance s.position)⟩

/-- The empty span in front of the next character. -/
def here : Reader Span := do return ⟨← pos,← pos⟩

def fail {α : Type} (span : Span) (fault : Fault) : Reader α := throw (fault,span)

/-- Fail over what stands between a place and the next character. -/
def failFrom {α : Type} (start : Position) (fault : Fault) : Reader α := do
  fail ⟨start,← pos⟩ fault

/-- Move over a text, if it stands here. -/
def accept (text : String) : Reader Bool := do
  if text.toList.isPrefixOf (← get).rest then
    for _ in text.toList do bump
    return true
  else return false

/-- What is left after white space and comments. -/
def afterBlanks (p : Position) (comment : Bool) : List Char → List Char × Position
  | [] => ([],p)
  | c :: rest =>
    if comment then afterBlanks (advance p c) (c != '\n') rest
    else if Text.isBlank c then afterBlanks (advance p c) false rest
    else if c == '#' then afterBlanks (advance p c) true rest
    else (c :: rest,p)

def skipBlanks : Reader Unit := modify fun s =>
  if s.ignoreBlanks then
    let (rest,p) := afterBlanks s.position false s.rest
    { s with rest := rest, position := p }
  else s

/-- Move over a character and the blanks after it; the result says whether anything follows. -/
def bumpOver : Reader Bool := do
  bump
  skipBlanks
  return !(← atEnd)

/-- The first character that is neither white space nor a comment's start. -/
def pastBlanks (comment : Bool) : List Char → Option Char
  | [] => none
  | c :: rest =>
    if Text.isBlank c then pastBlanks comment rest
    else if c == '#' && !comment then pastBlanks true rest
    else some c

/-- The character after the next one, white space between them apart. -/
def peekPast : Reader (Option Char) := do
  let s ← get
  if s.ignoreBlanks then
    return (pastBlanks false s.rest.tail).orElse fun _ => s.rest.tail.head?
  else return s.rest.tail.head?

/-- Take characters with a property, and blanks between them. -/
def takeWhile (p : Char → Bool) (done : List Char) : Nat → Reader (List Char)
  | 0 => return done.reverse
  | fuel + 1 => do
    match ← peek with
    | none => return done.reverse
    | some c =>
      if p c then
        let _ ← bumpOver
        takeWhile p (c :: done) fuel
      else return done.reverse

end Reader
end Regex
end AppLint
