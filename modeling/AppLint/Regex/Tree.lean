import AppLint.Regex.Error

/-! Regular expressions as they are written. -/
namespace AppLint
namespace Regex

/-- A single character. In byte mode `\xHH` stands for a byte. -/
structure Literal where
  span : Span
  char : Char
  isByte : Bool := false
deriving DecidableEq, Repr

inductive ShorthandKind where
  | digit
  | space
  | word
deriving DecidableEq, Repr

/-- What a class by property asks for. -/
inductive PropertyQuery where
  | named (name : String)
  | valued (name value : String) (negated : Bool)
deriving DecidableEq, Repr

/-- Whether the query is for a value that a property has not. -/
def PropertyQuery.isNegated : PropertyQuery → Bool
  | named _ => false
  | valued _ _ negated => negated

inductive SetOperator where
  | intersection
  | difference
  | symmetricDifference
deriving DecidableEq, Repr

/-- What stands between brackets. -/
inductive ClassTree where
  | empty
  | literal (l : Literal)
  | range (first last : Literal)
  | ascii (span : Span) (name : String) (negated : Bool)
  | shorthand (span : Span) (kind : ShorthandKind) (negated : Bool)
  | property (span : Span) (query : PropertyQuery) (negated : Bool)
  | bracketed (span : Span) (negated : Bool) (content : ClassTree)
  | union (span : Span) (items : List ClassTree)
  | combined (span : Span) (operator : SetOperator) (left right : ClassTree)
deriving Repr, Inhabited

inductive Flag where
  | caseInsensitive
  | multiLine
  | dotMatchesNewLine
  | swapGreed
  | unicode
  | crlf
  | ignoreWhitespace
deriving DecidableEq, Repr

/-- Flags that are switched on or off. -/
abbrev FlagChanges := List (Flag × Bool)

inductive AssertionKind where
  | startLine
  | endLine
  | startText
  | endText
  | wordBoundary
  | notWordBoundary
  | wordStart
  | wordEnd
  | wordStartHalf
  | wordEndHalf
deriving DecidableEq, Repr

inductive Tree where
  | empty (span : Span)
  | flags (span : Span) (changes : FlagChanges)
  | literal (l : Literal)
  | dot (span : Span)
  | assertion (span : Span) (kind : AssertionKind)
  | shorthand (span : Span) (kind : ShorthandKind) (negated : Bool)
  | property (span : Span) (query : PropertyQuery) (negated : Bool)
  | bracketed (span : Span) (negated : Bool) (content : ClassTree)
  | repetition (span : Span) (least : Nat) (most : Option Nat) (body : Tree)
  | group (span : Span) (changes : FlagChanges) (body : Tree)
  | alternation (span : Span) (branches : List Tree)
  | concatenation (span : Span) (parts : List Tree)
deriving Repr, Inhabited

namespace Tree

def span : Tree → Span
  | empty s | flags s _ | dot s | assertion s _ | shorthand s _ _ | property s _ _ | bracketed s _ _
  | repetition s _ _ _ | group s _ _ | alternation s _ | concatenation s _ => s
  | literal l => l.span

/-- Whether a repetition may follow. -/
def isRepeatable : Tree → Bool
  | empty _ | flags _ _ => false
  | _ => true

def concat (span : Span) : List Tree → Tree
  | [] => empty span
  | [t] => t
  | parts => concatenation span parts

def alternate (span : Span) : List Tree → Tree
  | [t] => t
  | branches => alternation span branches

end Tree

namespace ClassTree

def unite (span : Span) : List ClassTree → ClassTree
  | [] => empty
  | [t] => t
  | items => union span items

mutual

/-- The place where brackets are nested more than `room` levels deep. -/
def tooDeep? (room : Nat) : ClassTree → Option Span
  | bracketed span _ content => if room = 0 then some span else tooDeep? (room - 1) content
  | union span items => if room = 0 then some span else anyTooDeep? (room - 1) items
  | combined span _ left right =>
    if room = 0 then some span
    else (tooDeep? (room - 1) left).orElse fun _ => tooDeep? (room - 1) right
  | _ => none

def anyTooDeep? (room : Nat) : List ClassTree → Option Span
  | [] => none
  | t :: rest => (tooDeep? room t).orElse fun _ => anyTooDeep? room rest

end

end ClassTree

namespace Tree

mutual

/-- The place where a pattern is nested more than `room` levels deep. -/
def tooDeep? (room : Nat) : Tree → Option Span
  | bracketed span _ content =>
    if room = 0 then some span else ClassTree.tooDeep? (room - 1) content
  | repetition span _ _ body => if room = 0 then some span else tooDeep? (room - 1) body
  | group span _ body => if room = 0 then some span else tooDeep? (room - 1) body
  | alternation span branches => if room = 0 then some span else anyTooDeep? (room - 1) branches
  | concatenation span parts => if room = 0 then some span else anyTooDeep? (room - 1) parts
  | _ => none

def anyTooDeep? (room : Nat) : List Tree → Option Span
  | [] => none
  | t :: rest => (tooDeep? room t).orElse fun _ => anyTooDeep? room rest

end

end Tree
end Regex
end AppLint
