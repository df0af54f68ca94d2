import AppLint.Regex.Tree.Escape

/-! Reading character classes in brackets. -/
namespace AppLint
namespace Regex
namespace Reader

def asciiNames : List String :=
  ["alnum","alpha","ascii","blank","cntrl","digit","graph","lower","print","punct","space",
   "upper","word","xdigit"]

/-- A named class between colons, if one stands here. -/
def asciiClass? : Reader (Option ClassTree) := do
  let s ← get
  match s.rest with
  | '[' :: ':' :: rest =>
    let negated := rest.head? == some '^'
    let body := if negated then rest.drop 1 else rest
    let name := body.takeWhile (· != ':')
    if [':',']'].isPrefixOf (body.drop name.length) && asciiNames.contains (String.ofList name) then
      for _ in List.range (name.length + if negated then 5 else 4) do bump
      return some (.ascii ⟨s.position,← pos⟩ (String.ofList name) negated)
    else return none
  | _ => return none

/-- One character or escape sequence. -/
def classItem : Reader Tree := do
  match ← peek with
  | some '\\' => escape
  | some c =>
    let span ← charSpan
    bump
    return .literal ⟨span,c,false⟩
  | none => return .empty (← here)

def asItem : Tree → Reader ClassTree
  | .literal l => return .literal l
  | .shorthand span kind negated => return .shorthand span kind negated
  | .property span query negated => return .property span query negated
  | t => fail t.span .classEscapeInvalid

def asBoundary : Tree → Reader Literal
  | .literal l => return l
  | t => fail t.span .classRangeLiteral

/-- An item or a range of a class, whose brackets opened at `opening`. -/
def classRange (opening : Span) : Reader ClassTree := do
  let first ← classItem
  skipBlanks
  if ← atEnd then fail opening .classUnclosed
  else
    let next ← peekPast
    if !(← isAt '-') || next == some ']' || next == some '-' then asItem first
    else if !(← bumpOver) then fail opening .classUnclosed
    else
      let last ← classItem
      let lo ← asBoundary first
      let hi ← asBoundary last
      if lo.char ≤ hi.char then return .range lo hi
      else fail ⟨lo.span.start,hi.span.stop⟩ .classRangeInvalid

/-- What is read of a class: the items since the last operator, and what stands before it. -/
structure ClassDraft where
  items : List ClassTree := []
  /-- Where the items start and stop. -/
  extent : Option Span := none
  left : Option (ClassTree × Span × SetOperator) := none

namespace ClassDraft

def add (t : ClassTree) (start stop : Position) (d : ClassDraft) : ClassDraft :=
  { d with items := t :: d.items, extent := some ⟨(d.extent.elim start (·.start)),stop⟩ }

/-- All that is read, as one tree. -/
def close (at_ : Position) (d : ClassDraft) : ClassTree × Span :=
  let extent := d.extent.getD ⟨at_,at_⟩
  let right := ClassTree.unite extent d.items.reverse
  match d.left with
  | none => (right,extent)
  | some (left,span,operator) =>
    let span : Span := ⟨span.start,extent.stop⟩
    (.combined span operator left right,span)

def operate (operator : SetOperator) (at_ : Position) (d : ClassDraft) : ClassDraft :=
  let (tree,span) := d.close at_
  { left := some (tree,span,operator) }

end ClassDraft

/-- Hyphens at the start of a class stand for themselves. -/
def leadingHyphens (start : Position) (d : ClassDraft) : Nat → Reader ClassDraft
  | 0 => return d
  | fuel + 1 => do
    if ← isAt '-' then
      let span ← charSpan
      let d := d.add (.literal ⟨span,'-',false⟩) span.start span.stop
      if ← bumpOver then leadingHyphens start d fuel else fail ⟨start,start⟩ .classUnclosed
    else return d

/-- A closing bracket that comes first stands for itself. -/
def leadingBracket (start : Position) (d : ClassDraft) : Reader ClassDraft := do
  if !d.items.isEmpty then return d
  else if ← isAt ']' then
    let span ← charSpan
    if ← bumpOver then return d.add (.literal ⟨span,']',false⟩) span.start span.stop
    else failFrom start .classUnclosed
  else return d

/-- The start of a class: its brackets so far, whether it is negated, and what stands there for
itself. -/
def classOpening : Reader (Span × Bool × ClassDraft) := do
  let start ← pos
  if !(← bumpOver) then failFrom start .classUnclosed
  else
    let negated ← isAt '^'
    if negated then
      if !(← bumpOver) then failFrom start .classUnclosed
    let d ← leadingHyphens start {} ((← get).rest.length + 1)
    let d ← leadingBracket start d
    return (⟨start,← pos⟩,negated,d)

def operator? : Reader (Option SetOperator) := do
  if ← accept "&&" then return some .intersection
  else if ← accept "--" then return some .difference
  else if ← accept "~~" then return some .symmetricDifference
  else return none

mutual

/-- A class, at its opening bracket. -/
def bracketClass : Nat → Reader (Span × Bool × ClassTree)
  | 0 => do fail (← here) .classUnclosed
  | fuel + 1 => do
    let (opening,negated,d) ← classOpening
    let content ← classBody opening d fuel
    return (⟨opening.start,← pos⟩,negated,content)

def classBody (opening : Span) (d : ClassDraft) : Nat → Reader ClassTree
  | 0 => fail opening .classUnclosed
  | fuel + 1 => do
    skipBlanks
    let start ← pos
    match ← peek with
    | none => fail opening .classUnclosed
    | some '[' =>
      match ← asciiClass? with
      | some t => classBody opening (d.add t start (← pos)) fuel
      | none =>
        let (span,negated,content) ← bracketClass fuel
        classBody opening (d.add (.bracketed span negated content) span.start span.stop) fuel
    | some ']' =>
      bump
      return (d.close start).1
    | some _ =>
      match ← operator? with
      | some operator => classBody opening (d.operate operator start) fuel
      | none =>
        let t ← classRange opening
        classBody opening (d.add t start (← pos)) fuel

end

end Reader
end Regex
end AppLint
