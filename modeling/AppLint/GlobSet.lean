import AppLint.Glob
import AppLint.Regex

/-! Sets of wildcard patterns. Some patterns are decided by what a path starts or ends with. The others
become regular expressions over bytes, where those that end in an extension stand alone and the rest
are put together. -/
namespace AppLint
namespace Glob

/-- How paths are compared with a pattern. -/
inductive Strategy where
  /-- By what they start or end with. -/
  | plain
  /-- By a regular expression for this pattern. -/
  | alone
  /-- By a regular expression for several patterns. -/
  | together
deriving DecidableEq, Repr

/-- Literal characters, perhaps with anything after them. -/
def isPlainStart (tokens : List GlobToken) : Bool :=
  match tokens.getLast? with
  | some .recursiveEnd => (literals? tokens.dropLast).isSome
  | some .zeroOrMore => (literals? tokens.dropLast).any (!·.isEmpty)
  | _ => (literals? tokens).any (!·.isEmpty)

/-- Literal characters with anything before them. A single slash is too little. -/
def isPlainEnd : List GlobToken → Bool
  | .recursiveStart :: .zeroOrMore :: rest | .zeroOrMore :: rest =>
    (literals? rest).any fun s => !s.isEmpty && s != ['/']
  | .recursiveStart :: rest => !rest.isEmpty && (literals? rest).isSome
  | _ => false

/-- Whether the last part of the pattern is literal from a dot on. -/
def hasExtension (tokens : List GlobToken) : Bool :=
  ((tokens.reverse.map literal?).takeWhile fun c => c.isSome && c != some '/').contains (some '.')

def strategy (g : Glob) : Strategy :=
  if isPlainStart g.tokens || isPlainEnd g.tokens then .plain
  else if hasExtension g.tokens then .alone
  else .together

/-- The characters that have a meaning of their own in regular expressions. -/
def isOperator (c : Char) : Bool := "\\.+*?()|[]\x7b\x7d^$#&-~".toList.contains c

def byteText (b : UInt8) : String :=
  let c := Char.ofNat b.toNat
  if 0x7F < b then "\\x" ++ String.ofList (Nat.toDigits 16 b.toNat)
  else String.ofList (if isOperator c then ['\\',c] else [c])

def charText (c : Char) : String := String.join ((bytes c).map byteText)

def rangeText : Char × Char → String
  | (lo,hi) => if lo = hi then charText lo else charText lo ++ "-" ++ charText hi

mutual

/-- A token as part of a regular expression. -/
def tokenText : GlobToken → String
  | .literal c => charText c
  | .any => "."
  | .zeroOrMore => ".*"
  | .recursiveStart => "(?:/?|.*/)"
  | .recursiveEnd => "/.*"
  | .recursiveMiddle => "(?:/|/.*/)"
  | .class negated ranges =>
    "[" ++ (if negated then "^" else "") ++ String.join (ranges.map rangeText) ++ "]"
  | .alternates branches =>
    if allVoid branches then "" else "(?:" ++ "|".intercalate (branchTexts branches) ++ ")"

def tokensText : List GlobToken → String
  | [] => ""
  | t :: ts => tokenText t ++ tokensText ts

def branchTexts : List (List GlobToken) → List String
  | [] => []
  | b :: bs => if isVoid b then branchTexts bs else tokensText b :: branchTexts bs

end

/-- The regular expression for whole paths that the pattern matches. -/
def regexText (g : Glob) : String :=
  match g.tokens with
  | [.recursiveStart] => "(?-u)^.*$"
  | tokens => "(?-u)^" ++ tokensText tokens ++ "$"

end Glob

/-- Why patterns have no automaton. -/
inductive AutomatonError where
  /-- The regular expression of the pattern at this place cannot be read. -/
  | unreadable (place : Nat)
  | tooLarge
deriving DecidableEq, Repr

def AutomatonError.message : AutomatonError → String
  | unreadable place => "error parsing pattern " ++ toString place
  | tooLarge => "error building NFA"

namespace Glob

open Regex (stateRoom branchRoom)

/-- The bytes of a state for any byte, and of one for any text. -/
def anyRoom : Nat := 2 * stateRoom + 8

def starRoom : Nat := branchRoom + anyRoom

/-- The bytes that a choice takes beside its branches. -/
def choiceRoom (branches : Nat) : Nat := 2 * stateRoom + 4 * branches

def classRoom (negated : Bool) (ranges : List (Char × Char)) : Nat :=
  let ranges := Regex.CharSet.unite [] ((ranges.flatMap byteRanges).map fun (lo,hi) =>
    (lo.toNat,hi.toNat))
  match if negated then Regex.CharSet.gaps 0xFF 0 ranges else ranges with
  | [(lo,hi)] => if lo = hi then stateRoom else anyRoom
  | ranges => 2 * stateRoom + 8 * ranges.length

mutual

/-- The bytes that a token takes in an automaton. -/
def tokenRoom : GlobToken → Nat
  | .literal c => stateRoom * (bytes c).length
  | .any => anyRoom
  | .zeroOrMore => starRoom
  | .recursiveStart => choiceRoom 2 + (branchRoom + 2 * stateRoom) + (starRoom + stateRoom)
  | .recursiveEnd => stateRoom + starRoom
  | .recursiveMiddle => choiceRoom 2 + stateRoom + (2 * stateRoom + starRoom)
  | .class negated ranges => classRoom negated ranges
  | .alternates branches =>
    match branchRooms branches with
    | [] => 0
    | [room] => room
    | rooms => choiceRoom rooms.length + rooms.foldl (· + ·) 0

def tokensRoom : List GlobToken → Nat
  | [] => 0
  | t :: ts => tokenRoom t + tokensRoom ts

def branchRooms : List (List GlobToken) → List Nat
  | [] => []
  | b :: bs => if isVoid b then branchRooms bs else tokensRoom b :: branchRooms bs

end

/-- The bytes of the automaton for patterns. Both ends of a path, both ends of the match and the match
itself have a state for each pattern. -/
def roomOfAll (globs : List Glob) : Nat :=
  globs.foldl (fun n g => n + (tokensRoom g.tokens + 5 * stateRoom))
    (stateRoom + if globs.length ≤ 1 then 0 else choiceRoom globs.length)

def isReadable (g : Glob) : Bool := (Regex.Tree.parse g.regexText).isOk

/-- Make one automaton for patterns. -/
def automaton (globs : List Glob) : Except AutomatonError Unit :=
  match globs.findIdx? (!·.isReadable) with
  | some place => .error (.unreadable place)
  | none => if Regex.roomLimit < roomOfAll globs then .error .tooLarge else .ok ()

end Glob

structure GlobSetError where
  /-- The regular expression, if it stands alone. -/
  regexText : Option String
  cause : AutomatonError
deriving DecidableEq, Repr

def GlobSetError.message (e : GlobSetError) : String :=
  match e.regexText with
  | some text => "error parsing glob '" ++ text ++ "': " ++ e.cause.message
  | none => e.cause.message

namespace GlobSet

/-- Make the automata for patterns. -/
def check (globs : List Glob) : Except GlobSetError Unit := do
  (globs.filter (·.strategy = .alone)).forM fun g =>
    (Glob.automaton [g]).mapError (⟨some g.regexText,·⟩)
  (Glob.automaton (globs.filter (·.strategy = .together))).mapError (⟨none,·⟩)

end GlobSet

/-- Patterns for which there are automata. -/
structure GlobSet where
  globs : List Glob
  checked : GlobSet.check globs = .ok ()

namespace GlobSet

def build (globs : List Glob) : Except GlobSetError GlobSet :=
  match h : check globs with
  | .ok _ => .ok ⟨globs,h⟩
  | .error e => .error e

/-- Whether one of the patterns matches a whole path. -/
def isMatch (s : GlobSet) (path : String) : Bool := s.globs.any (·.isMatch path)

end GlobSet
end AppLint
