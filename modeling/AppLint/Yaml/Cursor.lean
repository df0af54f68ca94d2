import AppLint.Yaml.Mark

/-! A place in a YAML text and the characters that follow it. -/
namespace AppLint
namespace Yaml

def isBreak (c : Char) : Bool :=
  c == '\n' || c == '\r' || c.toNat == 0x85 || c.toNat == 0x2028 || c.toNat == 0x2029

def isBlank (c : Char) : Bool := c == ' ' || c == '\t'

/-- Letters, digits, hyphen and underscore of ASCII. -/
def isNameChar (c : Char) : Bool :=
  ('0' ≤ c && c ≤ '9') || ('A' ≤ c && c ≤ 'Z') || ('a' ≤ c && c ≤ 'z') || c == '_' || c == '-'

structure Cursor where
  rest : List Char
  mark : Mark := {}
deriving Repr, Inhabited

namespace Cursor

/-- The character `n` places further on. -/
def peek (c : Cursor) (n : Nat := 0) : Option Char := c.rest[n]?

def isAt (c : Cursor) (ch : Char) (n : Nat := 0) : Bool := c.peek n == some ch

/-- A blank, a line break or the end. -/
def isBlankOrEnd (c : Cursor) (n : Nat := 0) : Bool :=
  match c.peek n with
  | some ch => isBlank ch || isBreak ch
  | none => true

/-- A line break or the end. -/
def isBreakOrEnd (c : Cursor) : Bool :=
  match c.rest with
  | ch :: _ => isBreak ch
  | [] => true

def atBlank (c : Cursor) : Bool := c.peek.any isBlank

def atBreak (c : Cursor) : Bool := c.peek.any isBreak

/-- Move over a character that ends no line. -/
def skip (c : Cursor) : Cursor :=
  match c.rest with
  | [] => c
  | _ :: rest => ⟨rest,{ c.mark with index := c.mark.index + 1, column := c.mark.column + 1 }⟩

/-- Move over `n` characters that end no line. -/
def skipMany (c : Cursor) (n : Nat) : Cursor :=
  let n := min n c.rest.length
  ⟨c.rest.drop n,{ c.mark with index := c.mark.index + n, column := c.mark.column + n }⟩

/-- Move over a line break and give its text: a line feed, except for the two separators. -/
def takeBreak (c : Cursor) : List Char × Cursor :=
  match c.rest with
  | '\r' :: '\n' :: rest => (['\n'],⟨rest,⟨c.mark.index + 2,c.mark.line + 1,0⟩⟩)
  | ch :: rest =>
    if isBreak ch then
      ([if ch.toNat == 0x2028 || ch.toNat == 0x2029 then ch else '\n'],
        ⟨rest,⟨c.mark.index + 1,c.mark.line + 1,0⟩⟩)
    else ([],c)
  | [] => ([],c)

def skipBreak (c : Cursor) : Cursor := c.takeBreak.2

/-- The characters in front with property `p`, none of which ends a line, and what follows them. -/
def takeWhile (p : Char → Bool) (c : Cursor) : List Char × Cursor :=
  let run := c.rest.takeWhile p
  (run,c.skipMany run.length)

def skipBlanks (c : Cursor) : Cursor := (c.takeWhile isBlank).2

/-- Move over a comment, if one starts here. -/
def skipComment (c : Cursor) : Cursor :=
  if c.isAt '#' then (c.takeWhile fun ch => !isBreak ch).2 else c

/-- Three times `ch` and then a blank, at the start of a line. -/
def atIndicator (c : Cursor) (ch : Char) : Bool :=
  c.mark.column == 0 && c.isAt ch && c.isAt ch 1 && c.isAt ch 2 && c.isBlankOrEnd 3

/-- Fail here while `what`, which started at `start`. -/
def fail {α : Type} (c : Cursor) (what : String) (start : Mark) (problem : String) :
    Except SyntaxError α :=
  .error { problem := problem, mark := c.mark, context := some (what,start) }

end Cursor
end Yaml
end AppLint
