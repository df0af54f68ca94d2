import AppLint.Regex.Tree.Class
import AppLint.Text.Category
import AppLint.Text.Trait

/-! Reading whole patterns. -/
namespace AppLint
namespace Regex
namespace Reader

def flag? : Char → Option Flag
  | 'i' => some .caseInsensitive
  | 'm' => some .multiLine
  | 's' => some .dotMatchesNewLine
  | 'U' => some .swapGreed
  | 'u' => some .unicode
  | 'R' => some .crlf
  | 'x' => some .ignoreWhitespace
  | _ => none

/-- Flags up to a colon or a closing parenthesis. -/
def flagChanges (done : List (Flag × Bool × Span)) (negation : Option Span) (dangling : Bool) :
    Nat → Reader FlagChanges
  | 0 => return []
  | fuel + 1 => do
    match ← peek with
    | none => fail (← here) .flagUnfinished
    | some c =>
      if c == ':' || c == ')' then
        match negation, dangling with
        | some span, true => fail span .flagDanglingNegation
        | _, _ => return done.reverse.map fun (f,on,_) => (f,on)
      else
        let span ← charSpan
        if c == '-' then
          match negation with
          | some first => fail span (.flagRepeatedNegation first)
          | none =>
            bump
            flagChanges done (some span) true fuel
        else
          match flag? c with
          | none => fail span .flagUnrecognized
          | some f =>
            match done.find? (·.1 = f) with
            | some (_,_,first) => fail span (.flagDuplicate first)
            | none =>
              bump
              flagChanges ((f,negation.isNone,span) :: done) negation false fuel

def isAlphabetic (c : Char) : Bool := Text.inRanges c.toNat Text.alphabeticRanges

def isNumeric (c : Char) : Bool :=
  Text.inRanges c.toNat (Text.rangesOf (["Nd","Nl","No"].contains ·) Text.categoryRuns)

def isNameChar (first : Bool) (c : Char) : Bool :=
  c == '_' || isAlphabetic c || (!first && (c == '.' || c == '[' || c == ']' || isNumeric c))

def groupNameFrom (done : List Char) : Nat → Reader (List Char)
  | 0 => return done.reverse
  | fuel + 1 => do
    match ← peek with
    | none => fail (← here) .groupNameUnfinished
    | some c =>
      if c == '>' then return done.reverse
      else if isNameChar done.isEmpty c then
        bump
        groupNameFrom (c :: done) fuel
      else fail (← charSpan) .groupNameInvalid

/-- The name of a group, up to its closing angle bracket. Two groups may not have one name. -/
def groupName : Reader Unit := do
  let start ← pos
  let name ← groupNameFrom [] ((← get).rest.length + 1)
  let span : Span := ⟨start,← pos⟩
  bump
  if name.isEmpty then fail ⟨start,start⟩ .groupNameEmpty
  else
    match (← get).names.lookup (String.ofList name) with
    | some first => fail span (.groupNameDuplicate first)
    | none => modify fun s => { s with names := (String.ofList name,span) :: s.names }

/-- What an opening parenthesis starts. -/
inductive Opening where
  | flags (span : Span) (changes : FlagChanges)
  | group (changes : FlagChanges)

def lookAround : Reader Bool := do
  if ← accept "?=" then return true
  else if ← accept "?!" then return true
  else if ← accept "?<=" then return true
  else accept "?<!"

def isNamed : Reader Bool := do
  if ← accept "?P<" then return true else accept "?<"

def opening : Reader Opening := do
  let open_ ← charSpan
  bump
  skipBlanks
  if ← lookAround then failFrom open_.start .lookAround
  else
    let inner ← here
    if ← isNamed then
      groupName
      return .group []
    else if ← accept "?" then
      if ← atEnd then fail open_ .groupUnclosed
      else
        let changes ← flagChanges [] none false ((← get).rest.length + 1)
        let closed ← isAt ')'
        bump
        if closed then
          if changes.isEmpty then fail inner .repetitionMissing
          else return .flags ⟨open_.start,← pos⟩ changes
        else return .group changes
    else return .group []

/-- A decimal number of 32 bits. -/
def decimal : Reader (Except (Fault × Span) Nat) := do
  let fuel := (← get).rest.length + 1
  modify fun s =>
    let blanks := s.rest.takeWhile Text.isBlank
    { s with rest := s.rest.drop blanks.length, position := blanks.foldl advance s.position }
  let start ← pos
  let digits ← takeWhile Char.isDigit [] fuel
  let span : Span := ⟨start,← pos⟩
  let _ ← takeWhile Text.isBlank [] fuel
  let n := digits.foldl (fun n d => 10 * n + (d.toNat - '0'.toNat)) 0
  if digits.isEmpty then return .error (.countEmpty,span)
  else if n < Nat.pow 2 32 then return .ok n
  else return .error (.decimalInvalid,span)

def orFail : Except (Fault × Span) Nat → Reader Nat
  | .ok n => return n
  | .error (fault,span) => fail span fault

/-- The bounds of a counted repetition, after its opening brace at `start`. -/
def counts (start : Position) : Reader (Nat × Option Nat) := do
  if !(← bumpOver) then failFrom start .countUnclosed
  else
    let first ← decimal
    match ← peek with
    | none => failFrom start .countUnclosed
    | some ',' =>
      if !(← bumpOver) then failFrom start .countUnclosed
      else if ← isAt '\x7d' then return (← orFail first,none)
      else
        let least ← orFail first
        let most ← orFail (← decimal)
        return (least,some most)
    | some _ =>
      let n ← orFail first
      return (n,some n)

/-- What a repetition operator repeats: the last part read. -/
def repeated (parts : List Tree) : Reader (Tree × List Tree) := do
  match parts with
  | t :: rest => if t.isRepeatable then return (t,rest) else fail (← here) .repetitionMissing
  | [] => fail (← here) .repetitionMissing

/-- A question mark after a repetition makes it lazy, which does not matter for whether it matches. -/
def lazyMark : Reader Unit := do
  if ← isAt '?' then bump

def simpleRepetition (parts : List Tree) (least : Nat) (most : Option Nat) : Reader (List Tree) := do
  let (t,rest) ← repeated parts
  bump
  lazyMark
  return .repetition ⟨t.span.start,← pos⟩ least most t :: rest

def countedRepetition (parts : List Tree) : Reader (List Tree) := do
  let start ← pos
  let (t,rest) ← repeated parts
  let (least,most) ← counts start
  if !(← isAt '\x7d') then failFrom start .countUnclosed
  else
    if ← bumpOver then lazyMark
    if most.all (least ≤ ·) then return .repetition ⟨t.span.start,← pos⟩ least most t :: rest
    else failFrom start .countRangeInvalid

/-- A part that is neither a group nor a class in brackets nor a repetition. -/
def primitive (c : Char) : Reader Tree := do
  if c == '\\' then escape
  else
    let span ← charSpan
    bump
    match c with
    | '.' => return .dot span
    | '^' => return .assertion span .startLine
    | '$' => return .assertion span .endLine
    | c => return .literal ⟨span,c,false⟩

/-- The part of an alternation that is read: the branches before, and the parts of the present one. -/
structure Draft where
  start : Position
  branches : List Tree := []
  branchStart : Position
  parts : List Tree := []

namespace Draft

def branch (stop : Position) (d : Draft) : Tree := Tree.concat ⟨d.branchStart,stop⟩ d.parts.reverse

def close (stop : Position) (d : Draft) : Tree :=
  Tree.alternate ⟨d.start,stop⟩ (d.branch stop :: d.branches).reverse

end Draft

def setIgnoreBlanks (changes : FlagChanges) : Reader Unit :=
  match changes.lookup .ignoreWhitespace with
  | some on => modify fun s => { s with ignoreBlanks := on }
  | none => pure ()

mutual

/-- Alternatives up to a closing parenthesis or the end. -/
def alternatives : Nat → Reader Tree
  | 0 => do return .empty (← here)
  | fuel + 1 => do
    let start ← pos
    alternativesFrom { start := start, branchStart := start } fuel

def alternativesFrom (d : Draft) : Nat → Reader Tree
  | 0 => do return d.close (← pos)
  | fuel + 1 => do
    skipBlanks
    match ← peek with
    | none => return d.close (← pos)
    | some ')' => return d.close (← pos)
    | some '|' =>
      let stop ← pos
      bump
      let start ← pos
      alternativesFrom { d with branches := d.branch stop :: d.branches, parts := [], branchStart := start }
        fuel
    | some '(' =>
      let t ← group fuel
      alternativesFrom { d with parts := t :: d.parts } fuel
    | some '[' =>
      let (span,negated,content) ← bracketClass fuel
      alternativesFrom { d with parts := .bracketed span negated content :: d.parts } fuel
    | some '?' =>
      let parts ← simpleRepetition d.parts 0 (some 1)
      alternativesFrom { d with parts := parts } fuel
    | some '*' =>
      let parts ← simpleRepetition d.parts 0 none
      alternativesFrom { d with parts := parts } fuel
    | some '+' =>
      let parts ← simpleRepetition d.parts 1 none
      alternativesFrom { d with parts := parts } fuel
    | some '\x7b' =>
      let parts ← countedRepetition d.parts
      alternativesFrom { d with parts := parts } fuel
    | some c =>
      let t ← primitive c
      alternativesFrom { d with parts := t :: d.parts } fuel

/-- A group or a change of flags, at its opening parenthesis. -/
def group : Nat → Reader Tree
  | 0 => do return .empty (← here)
  | fuel + 1 => do
    let open_ ← charSpan
    match ← opening with
    | .flags span changes =>
      setIgnoreBlanks changes
      return .flags span changes
    | .group changes =>
      let outer := (← get).ignoreBlanks
      setIgnoreBlanks changes
      let body ← alternatives fuel
      if ← atEnd then fail open_ .groupUnclosed
      else
        modify fun s => { s with ignoreBlanks := outer }
        bump
        return .group ⟨open_.start,← pos⟩ changes body

end

/-- How deep a pattern may be nested. -/
def nestingLimit : Nat := 250

def pattern : Reader Tree := do
  let t ← alternatives (4 * (← get).rest.length + 8)
  if !(← atEnd) then fail (← charSpan) .groupUnopened
  else
    match t.tooDeep? nestingLimit with
    | some span => fail span (.nestingTooDeep nestingLimit)
    | none => return t

end Reader

/-- The tree of a pattern. -/
def Tree.parse (pattern : String) : Except SyntaxError Tree :=
  match Reader.pattern.run { rest := pattern.toList } with
  | .ok (t,_) => .ok t
  | .error (fault,span) => .error ⟨pattern,fault,span⟩

end Regex
end AppLint
