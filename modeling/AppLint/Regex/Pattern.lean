import AppLint.Regex.CharSet
import AppLint.Text.Word

/-! Patterns and where they match. A text is read once from left to right, with the set of all that
may follow so far. -/
namespace AppLint
namespace Regex

/-- Conditions on the characters on both sides of a place. -/
inductive Look where
  | startText
  | endText
  | startLine (crlf : Bool)
  | endLine (crlf : Bool)
  | word (negated ascii : Bool)
  | wordStart (ascii : Bool)
  | wordEnd (ascii : Bool)
  | wordStartHalf (ascii : Bool)
  | wordEndHalf (ascii : Bool)
deriving DecidableEq, Repr

/-- A place in a text: the characters before and after it. -/
structure Gap where
  before : Option Char
  after : Option Char
deriving DecidableEq, Repr

namespace Look

def isWordChar (ascii : Bool) : Option Char → Bool
  | some c => if ascii then Text.isAsciiWord c else Text.isWord c
  | none => false

def holds (g : Gap) : Look → Bool
  | startText => g.before.isNone
  | endText => g.after.isNone
  | startLine crlf =>
    g.before.isNone || g.before == some '\n' ||
      (crlf && g.before == some '\r' && g.after != some '\n')
  | endLine crlf =>
    if crlf then
      g.after.isNone || g.after == some '\r' || (g.after == some '\n' && g.before != some '\r')
    else g.after.isNone || g.after == some '\n'
  | word negated ascii => (isWordChar ascii g.before != isWordChar ascii g.after) != negated
  | wordStart ascii => !isWordChar ascii g.before && isWordChar ascii g.after
  | wordEnd ascii => isWordChar ascii g.before && !isWordChar ascii g.after
  | wordStartHalf ascii => !isWordChar ascii g.before
  | wordEndHalf ascii => !isWordChar ascii g.after

end Look

inductive Pattern where
  | empty
  | set (s : CharSet)
  | look (l : Look)
  | sequence (a b : Pattern)
  | choice (a b : Pattern)
  /-- At least `least` times, and at most `most` times if that is given. -/
  | repetition (least : Nat) (most : Option Nat) (body : Pattern)
deriving DecidableEq, Repr

namespace Pattern

/-- Whether the pattern matches the empty text at a place. -/
def matchesEmpty (g : Gap) : Pattern → Bool
  | empty => true
  | set _ => false
  | look l => l.holds g
  | sequence a b => a.matchesEmpty g && b.matchesEmpty g
  | choice a b => a.matchesEmpty g || b.matchesEmpty g
  | repetition least _ body => least == 0 || body.matchesEmpty g

/-- Whether the pattern matches the empty text at every place. -/
def isNullable : Pattern → Bool
  | empty => true
  | set _ => false
  | look _ => false
  | sequence a b => a.isNullable && b.isNullable
  | choice a b => a.isNullable || b.isNullable
  | repetition least _ body => least == 0 || body.isNullable

/-- What a match can go on with after one character: the set that the character must be in, and the
patterns that follow in order. Repetitions that match the empty text here and perhaps not later are
taken as made. -/
def steps (g : Gap) : Pattern → List (CharSet × List Pattern)
  | empty => []
  | set s => [(s,[])]
  | look _ => []
  | sequence a b =>
    (a.steps g).map (fun (s,rest) => (s,rest ++ [b])) ++ if a.matchesEmpty g then b.steps g else []
  | choice a b => a.steps g ++ b.steps g
  | repetition least most body =>
    if most == some 0 then []
    else
      let skipped :=
        if body.matchesEmpty g && !body.isNullable then List.range (max least 1) else [0]
      skipped.flatMap fun k =>
        (body.steps g).map fun (s,rest) =>
          (s,rest ++ [repetition (least - 1 - k) (most.map (· - 1 - k)) body])

def allMatchEmpty (g : Gap) (ps : List Pattern) : Bool := ps.all (matchesEmpty g)

/-- The steps of patterns one after the other. -/
def stepsOfAll (g : Gap) : List Pattern → List (CharSet × List Pattern)
  | [] => []
  | p :: rest =>
    (p.steps g).map (fun (s,more) => (s,more ++ rest)) ++
      if p.matchesEmpty g then stepsOfAll g rest else []

/-- All that may follow after a character. -/
def advance (g : Gap) (c : Char) (states : List (List Pattern)) : List (List Pattern) :=
  (states.flatMap fun ps =>
    (stepsOfAll g ps).filterMap fun (s,rest) => if s.contains c then some rest else none).eraseDups

/-- Whether the pattern matches somewhere in the text, where `before` stands in front of the rest and
`states` may follow there. -/
def matchesFrom (p : Pattern) (before : Option Char) (states : List (List Pattern)) : List Char → Bool
  | [] => ([p] :: states).any (allMatchEmpty ⟨before,none⟩)
  | c :: rest =>
    let g : Gap := ⟨before,some c⟩
    let states := [p] :: states
    states.any (allMatchEmpty g) || matchesFrom p (some c) (advance g c states) rest

/-- Whether the pattern matches somewhere in a text. -/
def isMatch (p : Pattern) (text : List Char) : Bool := matchesFrom p none [] text

end Pattern
end Regex
end AppLint
