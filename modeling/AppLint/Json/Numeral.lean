import AppLint.Json.Cursor
import AppLint.Json.Value

/-! Numerals of JSON texts. Up to 64 bits of the digits count; a numeral that is no integer of 64 bits
becomes the product or quotient of these digits and a power of ten. -/
namespace AppLint
namespace Json

/-- Multiply by `10 ^ exponent`, in steps of at most `1e308`. -/
def scale? (x : Binary64) (exponent : Int) : Nat → Option Binary64
  | 0 => some x
  | steps + 1 =>
    if exponent.natAbs ≤ 308 then do
      let power ← Binary64.round? false (Nat.pow 10 exponent.natAbs) 1
      if exponent ≥ 0 then x.mul? power else x.div? power
    else if x.isZero then some x
    else if exponent ≥ 0 then none
    else do
      let power ← Binary64.round? false (Nat.pow 10 308) 1
      scale? (← x.div? power) (exponent + 308) steps

namespace Reader

def isDigit (c : Char) : Bool := '0' ≤ c && c ≤ '9'

def digitValue (c : Char) : Nat := c.toNat - '0'.toNat

def maxSignificand : Nat := Nat.pow 2 64 - 1

/-- Digits as long as the value fits into 64 bits: the value, how many, and what follows. -/
def significantDigits (value count : Nat) : List Char → Nat × Nat × List Char
  | [] => (value,count,[])
  | c :: rest =>
    if isDigit c && value * 10 + digitValue c ≤ maxSignificand then
      significantDigits (value * 10 + digitValue c) (count + 1) rest
    else (value,count,c :: rest)

/-- The digit that must stand next. -/
def digit : Reader Char := do
  match ← peek with
  | none => fail .unfinishedValue
  | some d => if isDigit d then eat; return d else failPeek .invalidNumber

def takeSignificant (value : Nat) : Reader (Nat × Nat) := do
  let c ← get
  let (v,n,rest) := significantDigits value 0 c.rest
  set { c with rest := rest, column := c.column + n }
  return (v,n)

/-- Skip digits; how many. -/
def skipDigits : Reader Nat := do
  let c ← get
  let n := (c.rest.takeWhile isDigit).length
  set { c with rest := c.rest.drop n, column := c.column + n }
  return n

def real (negative : Bool) (significand : Nat) (exponent : Int) : Reader Number := do
  match (Binary64.round? false significand 1).bind fun x => scale? x exponent 8 with
  | some x => return .real (if negative then x.neg else x)
  | none => fail .numberOutOfRange

/-- The digits of an exponent: none if they exceed 31 bits. -/
def exponentDigits (value count : Nat) : List Char → Option Nat × Nat × List Char
  | [] => (some value,count,[])
  | c :: rest =>
    if isDigit c then
      if value * 10 + digitValue c > Nat.pow 2 31 - 1 then (none,count + 1,rest)
      else exponentDigits (value * 10 + digitValue c) (count + 1) rest
    else (some value,count,c :: rest)

/-- The exponent part, at its letter. -/
def exponentPart (negative : Bool) (significand : Nat) (start : Int) : Reader Number := do
  eat
  let down := (← peek) == some '-'
  if down || (← peek) == some '+' then eat
  let d ← digit
  let c ← get
  let (value,n,rest) := exponentDigits (digitValue d) 0 c.rest
  set { c with rest := rest, column := c.column + n }
  match value with
  | some e => real negative significand (if down then start - e else start + e)
  | none =>
    if significand != 0 && !down then fail .numberOutOfRange
    else
      let _ ← skipDigits
      return .real (Binary64.zero negative)

def isExponentMark (c : Option Char) : Bool := c == some 'e' || c == some 'E'

/-- The fraction, at its point. -/
def fractionPart (negative : Bool) (significand : Nat) (start : Int) : Reader Number := do
  eat
  let (significand,n) ← takeSignificant significand
  let overflow := (← peek).any isDigit
  if overflow then
    let _ ← skipDigits
  if n == 0 && !overflow then
    if (← peek).isSome then failPeek .invalidNumber else failPeek .unfinishedValue
  else if isExponentMark (← peek) then exponentPart negative significand (start - n)
  else real negative significand (start - n)

/-- A numeral after its minus sign, if it has one. -/
def numeral (negative : Bool) : Reader Number := do
  let d ← digit
  if d == '0' && (← peek).any isDigit then failPeek .invalidNumber
  else
    let (significand,_) ← if d == '0' then pure (0,0) else takeSignificant (digitValue d)
    let skipped ← skipDigits
    match ← peek with
    | some '.' => fractionPart negative significand skipped
    | mark =>
      if isExponentMark mark then exponentPart negative significand skipped
      else if skipped != 0 then real negative significand skipped
      else if !negative then return .integer significand
      else if significand == 0 || significand > Nat.pow 2 63 then real true significand 0
      else return .integer (-(significand : Int))

end Reader
end Json
end AppLint
