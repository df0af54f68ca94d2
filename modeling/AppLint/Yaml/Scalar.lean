import AppLint.Schema.Mismatch
import AppLint.Yaml.Token.Scalar

/-! What the texts of scalars mean. -/
namespace AppLint
namespace Yaml

inductive Scalar where
  | null
  | boolean (b : Bool)
  /-- An integer of at most 128 bits. -/
  | integer (n : Int)
  | real (x : Extended)
  | text (s : String)
deriving DecidableEq, Repr

namespace Scalar

def isNull (s : String) : Bool := ["null","Null","NULL","~"].contains s

def boolean? (s : String) : Option Bool :=
  if ["true","True","TRUE"].contains s then some true
  else if ["false","False","FALSE"].contains s then some false
  else none

def digitsToNat? (radix : Nat) (s : List Char) : Option Nat :=
  if s.isEmpty then none
  else s.foldlM (fun n c => do
    let d ← hexDigit? c
    if d < radix then return radix * n + d else none) 0

def dropSign (c : Char) : List Char → Option (List Char)
  | d :: rest => if c = d then some rest else none
  | [] => none

/-- Digits after a zero are no number. -/
def isPadded (s : List Char) : Bool :=
  let digits := ((dropSign '-' s).orElse fun _ => dropSign '+' s).getD s
  1 < digits.length && digits.head? == some '0' && digits.all Char.isDigit

/-- A magnitude in the radix that its first characters name, or in decimal digits. -/
def magnitude? (s : List Char) : Option Nat :=
  match s with
  | '0' :: 'x' :: digits => digitsToNat? 16 digits
  | '0' :: 'o' :: digits => digitsToNat? 8 digits
  | '0' :: 'b' :: digits => digitsToNat? 2 digits
  | digits => if isPadded digits then none else digitsToNat? 10 digits

def integer? (s : List Char) : Option Int :=
  match s with
  | '-' :: rest => do
    let n ← magnitude? rest
    if n ≤ Nat.pow 2 127 then return -(n : Int) else none
  | _ => do
    let n ← magnitude? ((dropSign '+' s).getD s)
    if n < Nat.pow 2 128 then return n else none

/-- Digits with perhaps a point among them and an exponent after them. -/
def decimal? (s : List Char) : Option Binary64 := do
  let (negative,s) := match s with
    | '-' :: rest => (true,rest)
    | '+' :: rest => (false,rest)
    | s => (false,s)
  let whole := s.takeWhile Char.isDigit
  let s := s.dropWhile Char.isDigit
  let (fraction,s) := match s with
    | '.' :: rest => (rest.takeWhile Char.isDigit,rest.dropWhile Char.isDigit)
    | s => ([],s)
  if whole.isEmpty && fraction.isEmpty then none
  else
    let coefficient ← digitsToNat? 10 (whole ++ fraction)
    let exponent : Int ← match s with
      | [] => some 0
      | e :: rest =>
        if e = 'e' || e = 'E' then
          match rest with
          | '-' :: digits => (digitsToNat? 10 digits).map fun n => -(n : Int)
          | '+' :: digits => (digitsToNat? 10 digits).map Int.ofNat
          | digits => (digitsToNat? 10 digits).map Int.ofNat
        else none
    Binary64.ofDecimal? negative coefficient (exponent - fraction.length)

def real? (s : String) : Option Extended :=
  if [".inf",".Inf",".INF","+.inf","+.Inf","+.INF"].contains s then some (.infinite false)
  else if ["-.inf","-.Inf","-.INF"].contains s then some (.infinite true)
  else if [".nan",".NaN",".NAN"].contains s then some .notANumber
  else
    match s.toList with
    | '+' :: '+' :: _ | '+' :: '-' :: _ => none
    | cs => (decimal? cs).map .finite

/-- The meaning of a plain scalar. -/
def ofPlain (s : String) : Scalar :=
  if s = "" || isNull s then .null
  else if let some b := boolean? s then .boolean b
  else if let some n := integer? s.toList then .integer n
  else if isPadded s.toList then .text s
  else if let some x := real? s then .real x
  else .text s

def kindTag (kind : String) : String := "tag:yaml.org,2002:" ++ kind

/-- A tag of the document's own, not of the format. -/
def isLocalTag (tag : String) : Bool := tag.toList.head? == some '!'

/-- The meaning of a scalar. A tag of the format decides the kind; otherwise only plain scalars are
anything but text. -/
def resolve (tag : Option String) (style : ScalarStyle) (s : String) : Except Mismatch Scalar :=
  let plain := if style = .plain then ofPlain s else .text s
  match tag with
  | none => .ok plain
  | some tag =>
    let as (kind : Option Scalar) (expected : String) : Except Mismatch Scalar :=
      kind.elim (.error (.invalidValue (.text s) expected)) .ok
    if tag = kindTag "bool" then as ((boolean? s).map .boolean) "a boolean"
    else if tag = kindTag "int" then as ((integer? s.toList).map .integer) "an integer"
    else if tag = kindTag "float" then as ((real? s).map .real) "a float"
    else if tag = kindTag "null" then as (if isNull s then some .null else none) "null"
    else if isLocalTag tag then .ok plain
    else .ok (.text s)

def found : Scalar → Found
  | null => .null
  | boolean b => .boolean b
  | integer n =>
    if n ≥ Nat.pow 2 64 then .other ("integer `" ++ toString n ++ "` as u128")
    else if n < -Nat.pow 2 63 then .other ("integer `" ++ toString n ++ "` as i128")
    else .integer n
  | real x => .real x
  | text s => .text s

end Scalar
end Yaml
end AppLint
