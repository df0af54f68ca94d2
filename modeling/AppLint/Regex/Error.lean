import AppLint.Text.Search

/-! What can be wrong with a regular expression, and how it is shown. -/
namespace AppLint
namespace Regex

/-- A place in a pattern: the number of characters before it, its line and its column from 1. -/
structure Position where
  index : Nat := 0
  line : Nat := 1
  column : Nat := 1
deriving DecidableEq, Repr, Inhabited

structure Span where
  start : Position
  stop : Position
deriving DecidableEq, Repr, Inhabited

namespace Span

def isOneLine (s : Span) : Bool := s.start.line == s.stop.line

/-- The order of spans is that of where they start, then of where they stop. -/
def le (a b : Span) : Bool :=
  a.start.index < b.start.index ||
    (a.start.index == b.start.index && a.stop.index ≤ b.stop.index)

end Span

inductive Fault where
  | classEscapeInvalid
  | classRangeInvalid
  | classRangeLiteral
  | classUnclosed
  | decimalInvalid
  | hexEmpty
  | hexInvalid
  | hexInvalidDigit
  | escapeUnfinished
  | escapeUnrecognized
  | flagDanglingNegation
  | flagDuplicate (first : Span)
  | flagRepeatedNegation (first : Span)
  | flagUnfinished
  | flagUnrecognized
  | groupNameDuplicate (first : Span)
  | groupNameEmpty
  | groupNameInvalid
  | groupNameUnfinished
  | groupUnclosed
  | groupUnopened
  | nestingTooDeep (limit : Nat)
  | countRangeInvalid
  | countEmpty
  | countUnclosed
  | repetitionMissing
  | wordBoundaryUnclosed
  | wordBoundaryUnrecognized
  | wordBoundaryUnfinished
  | propertyInvalid
  | backreference
  | lookAround
  | unicodeNotAllowed
  | invalidUtf8
  | propertyNotFound
  | propertyValueNotFound
deriving DecidableEq, Repr

namespace Fault

def message : Fault → String
  | classEscapeInvalid => "invalid escape sequence found in character class"
  | classRangeInvalid => "invalid character class range, the start must be <= the end"
  | classRangeLiteral => "invalid range boundary, must be a literal"
  | classUnclosed => "unclosed character class"
  | decimalInvalid => "decimal literal invalid"
  | hexEmpty => "hexadecimal literal empty"
  | hexInvalid => "hexadecimal literal is not a Unicode scalar value"
  | hexInvalidDigit => "invalid hexadecimal digit"
  | escapeUnfinished => "incomplete escape sequence, reached end of pattern prematurely"
  | escapeUnrecognized => "unrecognized escape sequence"
  | flagDanglingNegation => "dangling flag negation operator"
  | flagDuplicate _ => "duplicate flag"
  | flagRepeatedNegation _ => "flag negation operator repeated"
  | flagUnfinished => "expected flag but got end of regex"
  | flagUnrecognized => "unrecognized flag"
  | groupNameDuplicate _ => "duplicate capture group name"
  | groupNameEmpty => "empty capture group name"
  | groupNameInvalid => "invalid capture group character"
  | groupNameUnfinished => "unclosed capture group name"
  | groupUnclosed => "unclosed group"
  | groupUnopened => "unopened group"
  | nestingTooDeep limit =>
    "exceed the maximum number of nested parentheses/brackets (" ++ toString limit ++ ")"
  | countRangeInvalid => "invalid repetition count range, the start must be <= the end"
  | countEmpty => "repetition quantifier expects a valid decimal"
  | countUnclosed => "unclosed counted repetition"
  | repetitionMissing => "repetition operator missing expression"
  | wordBoundaryUnclosed =>
    "special word boundary assertion is either unclosed or contains an invalid character"
  | wordBoundaryUnrecognized =>
    "unrecognized special word boundary assertion, valid choices are: start, end, start-half or end-half"
  | wordBoundaryUnfinished =>
    "found either the beginning of a special word boundary or a bounded repetition on a \\b with an " ++
      "opening brace, but no closing brace"
  | propertyInvalid => "invalid Unicode character class"
  | backreference => "backreferences are not supported"
  | lookAround => "look-around, including look-ahead and look-behind, is not supported"
  | unicodeNotAllowed => "Unicode not allowed here"
  | invalidUtf8 => "pattern can match invalid UTF-8"
  | propertyNotFound => "Unicode property not found"
  | propertyValueNotFound => "Unicode property value not found"

/-- The earlier part of the pattern that the fault is about too. -/
def first? : Fault → Option Span
  | flagDuplicate s | flagRepeatedNegation s | groupNameDuplicate s => some s
  | _ => none

end Fault

structure SyntaxError where
  pattern : String
  fault : Fault
  span : Span
deriving DecidableEq, Repr

namespace SyntaxError

def spaces (n : Nat) : String := String.ofList (List.replicate n ' ')

/-- Carets under spans of one line, in their order. -/
def carets (done : Nat) : List Span → String
  | [] => ""
  | s :: rest =>
    let gap := s.start.column - 1 - done
    let width := max 1 (s.stop.column - s.start.column)
    spaces gap ++ String.ofList (List.replicate width '^') ++ carets (done + gap + width) rest

/-- The lines of the pattern with carets under the faulty parts. Several lines are numbered. -/
def notated (pattern : String) (spans : List Span) : String :=
  let lines := Text.lines pattern.toList
  let count := lines.length + if pattern.toList.getLast? == some '\n' then 1 else 0
  let width := if count ≤ 1 then 0 else (toString count).length
  let number (i : Nat) : String :=
    if width == 0 then spaces 4
    else
      let n := toString (i + 1)
      spaces (width - n.length) ++ n ++ ": "
  let marks := if width == 0 then 4 else width + 2
  "".intercalate (lines.zipIdx.map fun (line,i) =>
    let here := spans.filter fun s => s.isOneLine && s.start.line == i + 1
    number i ++ String.ofList line ++ "\n" ++
      if here.isEmpty then "" else spaces marks ++ carets 0 here ++ "\n")

def message (e : SyntaxError) : String :=
  let spans := (e.span :: e.fault.first?.toList).mergeSort Span.le
  let head := "regex parse error:\n"
  let tail := "error: " ++ e.fault.message
  if e.pattern.toList.contains '\n' then
    let divider := String.ofList (List.replicate 79 '~') ++ "\n"
    let notes := (spans.filter (!·.isOneLine)).map fun s =>
      "on line " ++ toString s.start.line ++ " (column " ++ toString s.start.column ++
        ") through line " ++ toString s.stop.line ++ " (column " ++ toString (s.stop.column - 1) ++ ")"
    head ++ divider ++ notated e.pattern spans ++ divider ++
      (if notes.isEmpty then "" else "\n".intercalate notes ++ "\n") ++ tail
  else head ++ notated e.pattern spans ++ tail

end SyntaxError

/-- Why a text is no regular expression. -/
inductive Error where
  | syntaxError (e : SyntaxError)
  /-- The automaton takes more bytes than the limit. -/
  | tooLarge (limit : Nat)
deriving DecidableEq, Repr

namespace Error

def message : Error → String
  | syntaxError e => e.message
  | tooLarge limit => "Compiled regex exceeds size limit of " ++ toString limit ++ " bytes."

end Error
end Regex
end AppLint
