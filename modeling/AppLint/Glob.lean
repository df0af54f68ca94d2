import AppLint.Text.Search

/-! Wildcard patterns for paths. They match byte by byte; a star and a question mark also match a
slash. -/
namespace AppLint

inductive GlobError where
  | unclosedClass
  | invalidRange (first last : Char)
  | unopenedAlternates
  | unclosedAlternates
  | danglingEscape
deriving DecidableEq, Repr

namespace GlobError

def message (glob : String) (e : GlobError) : String :=
  "error parsing glob '" ++ glob ++ "': " ++
    match e with
    | unclosedClass => "unclosed character class; missing ']'"
    | invalidRange first last =>
      "invalid range; '" ++ String.ofList [first] ++ "' > '" ++ String.ofList [last] ++ "'"
    | unopenedAlternates =>
      "unopened alternate group; missing '\x7b' (maybe escape '\x7d' with '[\x7d]'?)"
    | unclosedAlternates =>
      "unclosed alternate group; missing '\x7d' (maybe escape '\x7b' with '[\x7b]'?)"
    | danglingEscape => "dangling '\\'"

end GlobError

inductive GlobToken where
  | literal (c : Char)
  | any
  | zeroOrMore
  /-- Any directories in front of the path. -/
  | recursiveStart
  /-- Anything below a directory. -/
  | recursiveEnd
  /-- Any directories between two parts of the path. -/
  | recursiveMiddle
  | class (negated : Bool) (ranges : List (Char × Char))
  | alternates (branches : List (List GlobToken))
deriving Repr

structure Glob where
  source : String
  tokens : List GlobToken
deriving Repr

namespace Glob

/-- A pattern of which the first characters are read. -/
structure Draft where
  /-- The branches that are being read, the innermost first, each with its tokens in reverse. -/
  branches : List (List GlobToken) := [[]]
  /-- For each open group, how many branches stand outside of it. -/
  groups : List Nat := []
  previous : Option Char := none

namespace Draft

def push (t : GlobToken) (d : Draft) : Draft :=
  match d.branches with
  | [] => { d with branches := [[t]] }
  | b :: rest => { d with branches := (t :: b) :: rest }

def pushTwo (t : GlobToken) (d : Draft) : Draft := (d.push t).push t

def hasTokens (d : Draft) : Bool := d.branches.head?.any (!·.isEmpty)

/-- Put a token in place of the last one, unless that goes over directories already. -/
def replaceLast (t : GlobToken) (d : Draft) : Draft :=
  match d.branches with
  | (.recursiveStart :: _) :: _ | (.recursiveEnd :: _) :: _ => d
  | (_ :: b) :: rest => { d with branches := (t :: b) :: rest }
  | _ => d.push t

def openGroup (d : Draft) : Draft :=
  { d with groups := d.branches.length :: d.groups, branches := [] :: d.branches }

def nextBranch (d : Draft) : Draft := { d with branches := [] :: d.branches }

def closeGroup (d : Draft) : Except GlobError Draft :=
  match d.groups with
  | [] => .error .unopenedAlternates
  | outside :: groups =>
    let inside := d.branches.length - outside
    let branches := (d.branches.take inside).reverse.map List.reverse
    .ok ({ d with groups := groups, branches := d.branches.drop inside }.push (.alternates branches))

end Draft

/-- The ranges of a class up to its closing bracket, newest first, and what follows. -/
def classRanges (ranges : List (Char × Char)) (first inRange : Bool) :
    List Char → Except GlobError (List (Char × Char) × List Char)
  | [] => .error .unclosedClass
  | c :: rest =>
    let extend : Except GlobError (List (Char × Char)) :=
      match ranges with
      | (lo,_) :: more => if c < lo then .error (.invalidRange lo c) else .ok ((lo,c) :: more)
      | [] => .ok [(c,c)]
    if c == ']' && !first then .ok (if inRange then ('-','-') :: ranges else ranges,rest)
    else if c == '-' && !first && !inRange then classRanges ranges false true rest
    else if inRange && c != ']' then do classRanges (← extend) false false rest
    else classRanges ((c,c) :: ranges) false false rest

/-- A class after its opening bracket. -/
def takeClass (s : List Char) : Except GlobError (GlobToken × List Char) := do
  let negated := s.head? == some '!' || s.head? == some '^'
  let (ranges,rest) ← classRanges [] true false (if negated then s.drop 1 else s)
  return (.class negated ranges.reverse,rest)

/-- Two stars with what follows them; a separator that belongs to them is passed over. -/
def takeStars (d : Draft) (s : List Char) : Draft × List Char :=
  if !d.hasTokens then
    match s with
    | [] => (d.push .recursiveStart,[])
    | '/' :: rest => (d.push .recursiveStart,rest)
    | s => (d.pushTwo .zeroOrMore,s)
  else
    let inGroup := 1 < d.branches.length
    let afterSeparator := d.previous == some '/' ||
      (inGroup && (d.previous == some ',' || d.previous == some '\x7b'))
    if !afterSeparator then (d.pushTwo .zeroOrMore,s)
    else
      match s with
      | [] => (d.replaceLast .recursiveEnd,[])
      | '/' :: rest => (d.replaceLast .recursiveMiddle,rest)
      | c :: _ =>
        if inGroup && (c == ',' || c == '\x7d') then (d.replaceLast .recursiveEnd,s)
        else (d.pushTwo .zeroOrMore,s)

/-- Read the rest of a pattern. -/
def readFrom : Nat → Draft → List Char → Except GlobError Draft
  | 0, d, _ => .ok d
  | _, d, [] => .ok d
  | fuel + 1, d, c :: s =>
    let go (d : Draft) (s : List Char) : Except GlobError Draft :=
      readFrom fuel { d with previous := some c } s
    match c with
    | '?' => go (d.push .any) s
    | '*' =>
      match s with
      | '*' :: rest =>
        let (d,after) := takeStars d rest
        if after.length < rest.length then readFrom fuel { d with previous := some '/' } after
        else go d after
      | s => go (d.push .zeroOrMore) s
    | '[' => do
      let (t,rest) ← takeClass s
      readFrom fuel { d.push t with previous := some ']' } rest
    | '\x7b' => go d.openGroup s
    | '\x7d' => do go (← d.closeGroup) s
    | ',' => go (if d.groups.isEmpty then d.push (.literal ',') else d.nextBranch) s
    | '\\' =>
      match s with
      | [] => .error .danglingEscape
      | e :: rest => readFrom fuel { d.push (.literal e) with previous := some e } rest
    | c => go (d.push (.literal c)) s

/-- The pattern that a text is. -/
def parse (source : String) : Except GlobError Glob := do
  let s := source.toList
  let d ← readFrom s.length {} s
  match d.branches with
  | [tokens] => return ⟨source,tokens.reverse⟩
  | _ => throw .unclosedAlternates

def bytes (c : Char) : List UInt8 := (String.ofList [c]).toUTF8.toList

/-- The bytes that a range of a class covers, as ranges of bytes. Of characters with several bytes,
only the neighbouring ones make a range. -/
def byteRanges : Char × Char → List (UInt8 × UInt8)
  | (lo,hi) =>
    let single (b : UInt8) : UInt8 × UInt8 := (b,b)
    if lo = hi then (bytes lo).map single
    else
      let los := bytes lo
      let his := bytes hi
      los.dropLast.map single ++ (los.getLast?.toList.zip his.head?.toList) ++ (his.drop 1).map single

/-- The text after each slash. -/
def afterSlashes : List UInt8 → List (List UInt8)
  | [] => []
  | b :: s => if b == 47 then s :: afterSlashes s else afterSlashes s

mutual

/-- Whether a branch stands for the empty text only. -/
def isVoid : List GlobToken → Bool
  | [] => true
  | .alternates branches :: rest => allVoid branches && isVoid rest
  | _ => false

def allVoid : List (List GlobToken) → Bool
  | [] => true
  | b :: rest => isVoid b && allVoid rest

end

def suffixes : List UInt8 → List (List UInt8)
  | [] => [[]]
  | b :: s => (b :: s) :: suffixes s

mutual

/-- What can be left of a text after a token has matched at its start. -/
def rests : GlobToken → List UInt8 → List (List UInt8)
  | .literal c, s => if (bytes c).isPrefixOf s then [s.drop (bytes c).length] else []
  | .any, s => s.tail?.toList
  | .zeroOrMore, s => suffixes s
  | .recursiveStart, s => s :: afterSlashes s
  | .recursiveEnd, s =>
    match s with
    | b :: s => if b == 47 then suffixes s else []
    | [] => []
  | .recursiveMiddle, s =>
    match s with
    | b :: s => if b == 47 then s :: afterSlashes s else []
    | [] => []
  | .class negated ranges, s =>
    match s with
    | b :: s =>
      if ((ranges.flatMap byteRanges).any fun (lo,hi) => lo ≤ b && b ≤ hi) != negated then [s] else []
    | [] => []
  | .alternates branches, s => if allVoid branches then [s] else restsOfAny branches s

/-- What can be left of one of several texts after tokens have matched one after the other. -/
def restsOfAll : List GlobToken → List (List UInt8) → List (List UInt8)
  | [], texts => texts
  | t :: ts, texts => restsOfAll ts (texts.flatMap (rests t)).eraseDups

/-- Branches for the empty text are left out. -/
def restsOfAny : List (List GlobToken) → List UInt8 → List (List UInt8)
  | [], _ => []
  | b :: bs, s => (if isVoid b then [] else restsOfAll b [s]) ++ restsOfAny bs s

end

def literal? : GlobToken → Option Char
  | .literal c => some c
  | _ => none

/-- The characters of tokens that are all literal. -/
def literals? (tokens : List GlobToken) : Option (List Char) := tokens.mapM literal?

def isExtension : List Char → Bool
  | '.' :: rest => !rest.contains '.' && !rest.contains '/'
  | _ => false

/-- Whether the pattern is about the name at the end of a path, or about that name's extension. -/
def isAboutName : List GlobToken → Bool
  | .recursiveStart :: .zeroOrMore :: rest => (literals? rest).all isExtension
  | .zeroOrMore :: rest => (literals? rest).all isExtension
  | .recursiveStart :: rest => (literals? rest).all (!·.contains '/')
  | tokens => (literals? tokens).isNone

/-- A path that ends in a dot has no name. -/
def needsNoName (g : Glob) : Bool :=
  !((g.tokens.getLast?.bind literal?) == some '.' && isAboutName g.tokens)

/-- Whether the pattern matches a whole path. -/
def isMatch (g : Glob) (path : String) : Bool :=
  match g.tokens with
  | [.recursiveStart] => true
  | tokens => g.needsNoName && (restsOfAll tokens [path.toUTF8.toList]).any List.isEmpty

end Glob
end AppLint
