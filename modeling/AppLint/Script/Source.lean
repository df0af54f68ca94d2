import AppLint.Text.Blank

/-! A place in a script, and readers that recognise what stands there. -/
namespace AppLint
namespace Script

/-- A place by its line and column from 1, the column in bytes. -/
structure Place where
  line : Nat
  column : Nat
deriving DecidableEq, Repr, Inhabited

/-- A template literal with the line where it starts and its text with the backticks. -/
structure Literal where
  line : Nat
  raw : String
deriving DecidableEq, Repr, Inhabited

/-- Where reading stands. White space and comments in front of `rest` are skipped. -/
structure Source where
  rest : List Char
  line : Nat := 1
  column : Nat := 1
  /-- A line ended between the last token and `rest`. -/
  newline : Bool := false
  /-- How many brackets are open. -/
  depth : Nat := 0
  /-- The template literals so far, the last first. -/
  literals : List Literal := []
deriving Repr, Inhabited

/-- A failure has a place of its own if a single character is to blame. -/
abbrev Parser := ExceptT (Option Place) (StateM Source)

def isLineEnd (c : Char) : Bool := c == '\n' || c.toNat == 0x2028 || c.toNat == 0x2029

/-- White space of scripts: that of texts, the byte order mark, and invisible joiners. -/
def isSpace (c : Char) : Bool :=
  Text.isBlank c || c.toNat == 0xFEFF || c.toNat == 0x2060 || c.toNat == 0x200B

/-- The characters that no identifier has. -/
def separators : List Char := ":;`\"'@#.,|^&<=>+-*/\\%?!~()[]\x7b\x7d".toList

def isWordPart (c : Char) : Bool := c.toNat ≥ 32 && !isSpace c && !separators.contains c

def isWordStart (c : Char) : Bool := isWordPart c && !('0' ≤ c && c ≤ '9')

namespace Source

def place (s : Source) : Place := ⟨s.line,s.column⟩

/-- Move over `n` characters. -/
def advance : Nat → Source → Source
  | 0, s => s
  | n + 1, s =>
    match s.rest with
    | [] => s
    | c :: rest =>
      advance n (if c == '\n' then { s with rest := rest, line := s.line + 1, column := 1 }
        else { s with rest := rest, column := s.column + c.utf8Size })

/-- The length of a comment up to the end of its line. -/
def lineCommentLength (s : List Char) : Nat :=
  (s.takeWhile fun c => c.toNat != 0 && c != '\r' && !isLineEnd c).length

/-- The length of a block comment after its opening, and whether a line ends in it. -/
def blockCommentLength? (count : Nat) (newline : Bool) : List Char → Option (Nat × Bool)
  | '*' :: '/' :: _ => some (count + 2,newline)
  | c :: rest =>
    if c.toNat == 0 then none else blockCommentLength? (count + 1) (newline || isLineEnd c) rest
  | [] => none

/-- Skip white space and comments. A block comment that does not end is no comment. -/
def skipTrivia : Nat → Source → Source
  | 0, s => s
  | fuel + 1, s =>
    match s.rest with
    | '/' :: '/' :: rest => skipTrivia fuel (s.advance (2 + lineCommentLength rest))
    | '/' :: '*' :: rest =>
      match blockCommentLength? 2 false rest with
      | some (n,newline) =>
        skipTrivia fuel { s.advance n with newline := s.newline || newline }
      | none => s
    | c :: _ =>
      if isSpace c then skipTrivia fuel { s.advance 1 with newline := s.newline || isLineEnd c }
      else s
    | [] => s

/-- Move over a token of `n` characters and what follows it up to the next one. -/
def take (n : Nat) (s : Source) : Source :=
  let s := { s.advance n with newline := false }
  s.skipTrivia (s.rest.length + 1)

/-- The start of a script: a first line that names an interpreter is skipped. -/
def start (text : String) : Source :=
  let cs := text.toList
  let s : Source := { rest := cs }
  match cs with
  | '#' :: '!' :: rest => s.take (2 + lineCommentLength rest)
  | _ => s.take 0

end Source

def isCloser (c : Char) : Bool := c == ')' || c == ']' || c == '\x7d'

/-- Fail here. A bracket that closes nothing, or a null character, is to blame for itself. -/
def fail {α : Type} : Parser α := do
  let s ← get
  match s.rest with
  | c :: _ =>
    if c.toNat == 0 || (s.depth == 0 && isCloser c) then throw (some s.place) else throw none
  | [] => throw none

/-- Try `p`; if it fails, go back and do `q`. If both fail, one of them may know what is to blame. -/
def orElse {α : Type} (p q : Parser α) : Parser α := fun s =>
  match p s with
  | (.ok a,s') => (.ok a,s')
  | (.error blame,_) =>
    match q s with
    | (.error none,s') => (.error blame,s')
    | r => r

/-- The punctuators of more than one character, the longest first. -/
def longPunctuators : List (List Char) :=
  [">>>=","...","===","!==","**=","<<=",">>=",">>>","&&=","||=","??=","=>","==","!=",
   "<=",">=","&&","||","??","?.","++","--","+=","-=","*=","/=","%=","&=","|=","^=",
   "<<",">>","**"].map String.toList

/-- The punctuator at the front; empty at a word, a number or the end. -/
def punctuatorAt (s : List Char) : String :=
  match s with
  | [] => ""
  | '?' :: '.' :: d :: _ =>
    if '0' ≤ d && d ≤ '9' then "?" else "?."
  | c :: _ =>
    match longPunctuators.find? fun p => p.isPrefixOf s with
    | some p => String.ofList p
    | none => if separators.contains c then String.singleton c else ""

def isHex (c : Char) : Bool :=
  ('0' ≤ c && c ≤ '9') || ('a' ≤ c && c ≤ 'f') || ('A' ≤ c && c ≤ 'F')

/-- The length of an escaped character of an identifier, after its backslash. -/
def wordEscapeLength? : List Char → Option Nat
  | 'u' :: '\x7b' :: rest =>
    let digits := rest.takeWhile isHex
    if digits.isEmpty then none
    else match rest.drop digits.length with
      | '\x7d' :: _ => some (digits.length + 3)
      | _ => none
  | 'u' :: a :: b :: c :: d :: _ => if [a,b,c,d].all isHex then some 5 else none
  | _ => none

/-- The length of the identifier or keyword at the front. -/
def wordLength (first : Bool) (count : Nat) : Nat → List Char → Nat
  | 0, _ => count
  | fuel + 1, s =>
    match s with
    | '\\' :: rest =>
      match wordEscapeLength? rest with
      | some n => wordLength false (count + n + 1) fuel (rest.drop n)
      | none => count
    | c :: rest =>
      if (if first then isWordStart c else isWordPart c) then wordLength false (count + 1) fuel rest
      else count
    | [] => count

/-- The identifier or keyword at the front; empty if there is none. -/
def wordAt (s : List Char) : String :=
  String.ofList (s.take (wordLength true 0 (s.length + 1) s))

def punctuator : Parser String := do return punctuatorAt (← get).rest

def word : Parser String := do return wordAt (← get).rest

def newlineBefore : Parser Bool := do return (← get).newline

def atEnd : Parser Bool := do return (← get).rest.isEmpty

/-- Move over the punctuator `p`, which stands here. -/
def takePunctuator (p : String) : Parser Unit := modify fun s =>
  let depth :=
    if p = "(" || p = "[" || p = "\x7b" then s.depth + 1
    else if p = ")" || p = "]" || p = "\x7d" then s.depth - 1
    else s.depth
  { s with depth := depth }.take p.length

/-- Move over the word `w`, which stands here. -/
def takeWord (w : String) : Parser Unit := modify fun s => s.take w.length

def expect (p : String) : Parser Unit := do
  if (← punctuator) = p then takePunctuator p else fail

/-- Move over `p` if it stands here. -/
def accept (p : String) : Parser Bool := do
  if (← punctuator) = p then
    takePunctuator p
    return true
  else return false

def expectWord (w : String) : Parser Unit := do
  if (← word) = w then takeWord w else fail

def acceptWord (w : String) : Parser Bool := do
  if (← word) = w then
    takeWord w
    return true
  else return false

/-- Any identifier. -/
def identifier : Parser Unit := do
  let w ← word
  if w = "" then fail else takeWord w

/-- Repeat `item` as long as it says so. -/
def repeatWhile (item : Parser Bool) : Nat → Parser Unit
  | 0 => return ()
  | fuel + 1 => do
    if ← item then repeatWhile item fuel

/-- Repeat with fuel for every character that is left. -/
def repeatItem (item : Parser Bool) : Parser Unit := do
  repeatWhile item ((← get).rest.length + 1)

end Script
end AppLint
