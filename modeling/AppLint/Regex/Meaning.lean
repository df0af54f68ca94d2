import AppLint.Regex.Pattern
import AppLint.Regex.Property
import AppLint.Regex.Tree.Reader

/-! The patterns that trees of regular expressions stand for. -/
namespace AppLint
namespace Regex

/-- The flags that are on at a place of a pattern. -/
structure Flags where
  caseInsensitive : Bool := false
  multiLine : Bool := false
  dotMatchesNewLine : Bool := false
  /-- Off, classes and case are those of ASCII, and nothing but whole characters may match. -/
  unicode : Bool := true
  crlf : Bool := false

namespace Flags

def set (flags : Flags) : Flag × Bool → Flags
  | (.caseInsensitive,on) => { flags with caseInsensitive := on }
  | (.multiLine,on) => { flags with multiLine := on }
  | (.dotMatchesNewLine,on) => { flags with dotMatchesNewLine := on }
  | (.unicode,on) => { flags with unicode := on }
  | (.crlf,on) => { flags with crlf := on }
  | (.swapGreed,_) | (.ignoreWhitespace,_) => flags

def change (changes : FlagChanges) (flags : Flags) : Flags := changes.foldl set flags

end Flags

abbrev Meaning := Except (Fault × Span)

namespace Meaning

def asciiRanges : String → List (Char × Char)
  | "alnum" => [('0','9'),('A','Z'),('a','z')]
  | "alpha" => [('A','Z'),('a','z')]
  | "ascii" => [(Char.ofNat 0,Char.ofNat 0x7F)]
  | "blank" => [('\t','\t'),(' ',' ')]
  | "cntrl" => [(Char.ofNat 0,Char.ofNat 0x1F),(Char.ofNat 0x7F,Char.ofNat 0x7F)]
  | "digit" => [('0','9')]
  | "graph" => [('!','~')]
  | "lower" => [('a','z')]
  | "print" => [(' ','~')]
  | "punct" => [('!','/'),(':','@'),('[','`'),('\x7b','~')]
  | "space" => [('\t','\r'),(' ',' ')]
  | "upper" => [('A','Z')]
  | "word" => [('0','9'),('A','Z'),('_','_'),('a','z')]
  | _ => [('0','9'),('A','F'),('a','f')]

def asciiSet (name : String) : CharSet :=
  .ranges ((asciiRanges name).map fun (a,b) => (a.toNat,b.toNat))

def shorthandSet (unicode : Bool) : ShorthandKind → CharSet
  | .digit => if unicode then .ranges (Property.ofCategory "Nd") else asciiSet "digit"
  | .space => if unicode then .ranges Text.whiteSpaceRanges else asciiSet "space"
  | .word => if unicode then .ranges Text.wordRanges else asciiSet "word"

def foldCase (flags : Flags) (s : CharSet) : CharSet :=
  if !flags.caseInsensitive then s else if flags.unicode then .anyCase s else .anyAsciiCase s

/-- The complement if `negated`, which holds more than whole ASCII characters. -/
def negate (flags : Flags) (span : Span) (negated : Bool) (s : CharSet) : Meaning CharSet :=
  if !negated then .ok s
  else if flags.unicode then .ok (.complement s)
  else .error (.invalidUtf8,span)

def shorthand (flags : Flags) (span : Span) (kind : ShorthandKind) (negated : Bool) : Meaning CharSet :=
  negate flags span negated (shorthandSet flags.unicode kind)

def property (flags : Flags) (span : Span) (query : PropertyQuery) (negated : Bool) : Meaning CharSet :=
  if !flags.unicode then .error (.unicodeNotAllowed,span)
  else do
    let s ← (Property.find query).mapError fun fault => (fault,span)
    negate flags span (negated != query.isNegated) (foldCase flags s)

/-- A character, which in byte mode is no byte beyond ASCII. -/
def scalar (flags : Flags) (l : Literal) : Meaning Char :=
  if !flags.unicode && l.isByte && l.char.toNat > 0x7F then .error (.invalidUtf8,l.span)
  else .ok l.char

def classScalar (flags : Flags) (l : Literal) : Meaning Char := do
  let c ← scalar flags l
  if !flags.unicode && c.toNat > 0x7F then .error (.unicodeNotAllowed,l.span) else return c

def combine : SetOperator → CharSet → CharSet → CharSet
  | .intersection => .intersection
  | .difference => .difference
  | .symmetricDifference => .symmetricDifference

mutual

/-- The set of a class. Its parts are taken without regard to case before they are negated. -/
def charSet (flags : Flags) : ClassTree → Meaning CharSet
  | .empty => .ok .empty
  | .literal l => do return .char (← classScalar flags l)
  | .range first last => do
    let lo ← classScalar flags first
    let hi ← classScalar flags last
    return .ranges [(lo.toNat,hi.toNat)]
  | .ascii span name negated => negate flags span negated (foldCase flags (asciiSet name))
  | .shorthand span kind negated => shorthand flags span kind negated
  | .property span query negated => property flags span query negated
  | .bracketed span negated content => do
    negate flags span negated (foldCase flags (← charSet flags content))
  | .union _ items => unionSet flags items
  | .combined _ operator left right => do
    let a ← charSet flags left
    let b ← charSet flags right
    return combine operator (foldCase flags a) (foldCase flags b)

def unionSet (flags : Flags) : List ClassTree → Meaning CharSet
  | [] => .ok .empty
  | t :: rest => do
    let a ← charSet flags t
    return .union a (← unionSet flags rest)

end

def literal (flags : Flags) (l : Literal) : Meaning Pattern := do
  let c ← scalar flags l
  if flags.unicode || c.toNat ≤ 0x7F then return .set (foldCase flags (.char c))
  else return .set (.char c)

def dot (flags : Flags) (span : Span) : Meaning Pattern :=
  if !flags.unicode then .error (.invalidUtf8,span)
  else if flags.dotMatchesNewLine then .ok (.set (.complement .empty))
  else if flags.crlf then .ok (.set (.complement (.ranges [(10,10),(13,13)])))
  else .ok (.set (.complement (.char '\n')))

def look (flags : Flags) : AssertionKind → Look
  | .startLine => if flags.multiLine then .startLine flags.crlf else .startText
  | .endLine => if flags.multiLine then .endLine flags.crlf else .endText
  | .startText => .startText
  | .endText => .endText
  | .wordBoundary => .word false !flags.unicode
  | .notWordBoundary => .word true !flags.unicode
  | .wordStart => .wordStart !flags.unicode
  | .wordEnd => .wordEnd !flags.unicode
  | .wordStartHalf => .wordStartHalf !flags.unicode
  | .wordEndHalf => .wordEndHalf !flags.unicode

mutual

/-- The pattern of a tree, and the flags that are on after it. -/
def pattern (flags : Flags) : Tree → Meaning (Pattern × Flags)
  | .empty _ => .ok (.empty,flags)
  | .flags _ changes => .ok (.empty,flags.change changes)
  | .literal l => do return (← literal flags l,flags)
  | .dot span => do return (← dot flags span,flags)
  | .assertion _ kind => .ok (.look (look flags kind),flags)
  | .shorthand span kind negated => do return (.set (← shorthand flags span kind negated),flags)
  | .property span query negated => do return (.set (← property flags span query negated),flags)
  | .bracketed span negated content => do
    return (.set (← negate flags span negated (foldCase flags (← charSet flags content))),flags)
  | .repetition _ least most body => do
    let (p,flags) ← pattern flags body
    return (.repetition least most p,flags)
  | .group _ changes body => do
    let (p,_) ← pattern (flags.change changes) body
    return (p,flags)
  | .alternation _ branches => choice flags branches
  | .concatenation _ parts => sequence flags parts

def choice (flags : Flags) : List Tree → Meaning (Pattern × Flags)
  | [] => .ok (.empty,flags)
  | [t] => pattern flags t
  | t :: rest => do
    let (p,flags) ← pattern flags t
    let (q,flags) ← choice flags rest
    return (.choice p q,flags)

def sequence (flags : Flags) : List Tree → Meaning (Pattern × Flags)
  | [] => .ok (.empty,flags)
  | [t] => pattern flags t
  | t :: rest => do
    let (p,flags) ← pattern flags t
    let (q,flags) ← sequence flags rest
    return (.sequence p q,flags)

end

end Meaning
end Regex
end AppLint
