import AppLint.Json.Error

/-! A place in a JSON text, and readers that move it. A reader that fails leaves the cursor where it
stopped. -/
namespace AppLint
namespace Json

structure Cursor where
  rest : List Char
  line : Nat
  column : Nat
deriving Repr, Inhabited

namespace Cursor

def start (text : String) : Cursor := ⟨text.toList,1,0⟩

def position (c : Cursor) : Position := ⟨c.line,c.column⟩

/-- The place after the next byte. -/
def peekPosition (c : Cursor) : Position :=
  match c.rest with
  | [] => c.position
  | ch :: _ => if ch == '\n' then ⟨c.line + 1,0⟩ else ⟨c.line,c.column + 1⟩

def advance (c : Cursor) : Cursor :=
  match c.rest with
  | [] => c
  | ch :: rest =>
    if ch == '\n' then ⟨rest,c.line + 1,0⟩ else ⟨rest,c.line,c.column + ch.utf8Size⟩

def isSpace (ch : Char) : Bool := ch == ' ' || ch == '\n' || ch == '\t' || ch == '\r'

def skipSpaces (line column : Nat) : List Char → Cursor
  | [] => ⟨[],line,column⟩
  | ch :: rest =>
    if ch == '\n' then skipSpaces (line + 1) 0 rest
    else if isSpace ch then skipSpaces line (column + 1) rest
    else ⟨ch :: rest,line,column⟩

/-- The place `n` bytes further on, if the text has that many. -/
def after? (n : Nat) (line column : Nat) : List Char → Option Position
  | [] => if n == 0 then some ⟨line,column⟩ else none
  | ch :: rest =>
    if n == 0 then some ⟨line,column⟩
    else if ch.utf8Size > n then some ⟨line,column + n⟩
    else if ch == '\n' then after? (n - 1) (line + 1) 0 rest
    else after? (n - ch.utf8Size) line (column + ch.utf8Size) rest

end Cursor

abbrev Reader := ExceptT Error (StateM Cursor)

namespace Reader

def peek : Reader (Option Char) := do return (← get).rest.head?

def eat : Reader Unit := modify Cursor.advance

def next : Reader (Option Char) := do
  let c ← peek
  eat
  return c

def failAt {α : Type} (p : Position) (cause : Cause) : Reader α := throw ⟨cause,some p⟩

def fail {α : Type} (cause : Cause) : Reader α := do failAt (← get).position cause

def failPeek {α : Type} (cause : Cause) : Reader α := do failAt (← get).peekPosition cause

/-- Fail without saying where. -/
def mismatch {α : Type} (m : Mismatch) : Reader α := throw ⟨.mismatch m,none⟩

/-- The next character that is no space. -/
def peekToken : Reader (Option Char) := do
  modify fun c => Cursor.skipSpaces c.line c.column c.rest
  peek

/-- An error of `r` that has no place gets the place where `r` stopped. -/
def located {α : Type} (r : Reader α) : Reader α := fun c =>
  match r c with
  | (.error e,c') => (.error (e.locate c'.position),c')
  | ok => ok

/-- Run `closing` also after `body` has failed, whose error then counts. -/
def closedBy {α : Type} (body : Reader α) (closing : Reader Unit) : Reader α := fun c =>
  match body c with
  | (.ok a,c') => ((do closing; return a : Reader α)) c'
  | (.error e,c') => (.error e,(closing c').2)

end Reader
end Json
end AppLint
