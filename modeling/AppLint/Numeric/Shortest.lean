import AppLint.Numeric.Binary64

/-! The fewest decimal digits that read back as a given number, and their layout. -/
namespace AppLint
namespace Binary64

/-- The ends of the interval of reals that round to `x`, over the common denominator of `magnitude`
times four, and whether the ends belong to it. -/
def interval (x : Binary64) : Nat × Nat × Nat × Bool :=
  let (num,den) := x.magnitude
  let unit := if x.exponent ≥ 0 then Nat.pow 2 x.exponent.toNat else 1
  let below := if x.mantissa == Nat.pow 2 52 && x.exponent > -1074 then unit else 2 * unit
  (4 * num - below,4 * num + 2 * unit,4 * den,x.mantissa % 2 == 0)

/-- The decimal exponent of the leading digit of `num / den`, for a positive quotient. -/
def leadingExponent (num den : Nat) : Int :=
  if num ≥ den then ((Nat.toDigits 10 (num / den)).length : Int) - 1
  else
    let t := (Nat.toDigits 10 (den / num)).length
    if num * Nat.pow 10 (t - 1) ≥ den then -((t : Int) - 1) else -(t : Int)

/-- `num / den` in units of `10 ^ k`, as a quotient. -/
def inUnits (num den : Nat) (k : Int) : Nat × Nat :=
  if k ≥ 0 then (num,den * Nat.pow 10 k.toNat) else (num * Nat.pow 10 (-k).toNat,den)

/-- The multiple of `10 ^ k` nearest to `x` among those that round to `x`. -/
def onGrid? (x : Binary64) (k : Int) : Option Nat :=
  let (lo,hi,den,closed) := x.interval
  let (num,den₀) := x.magnitude
  let (n,d) := inUnits num den₀ k
  let q := n / d
  let inside (c : Nat) : Bool :=
    let (l,ld) := inUnits lo den k
    let (h,hd) := inUnits hi den k
    if closed then l ≤ c * ld && c * hd ≤ h else l < c * ld && c * hd < h
  let r := n % d
  match inside q, inside (q + 1) with
  | true, true => some (if 2 * r > d || (2 * r == d && q % 2 == 1) then q + 1 else q)
  | true, false => some q
  | false, true => some (q + 1)
  | false, false => none

/-- Coefficient and exponent of the shortest decimal, searched with `digits` digits and more. -/
def shortestFrom (x : Binary64) (lead : Int) (digits : Nat) : Nat → Nat × Int
  | 0 => (0,0)
  | tries + 1 =>
    let k := lead - digits + 1
    match x.onGrid? k with
    | some c => (c,k)
    | none => shortestFrom x lead (digits + 1) tries

/-- Drop the zeros at the end of a coefficient. -/
def dropZeros (c : Nat) (k : Int) : Nat → Nat × Int
  | 0 => (c,k)
  | tries + 1 => if c != 0 && c % 10 == 0 then dropZeros (c / 10) (k + 1) tries else (c,k)

/-- Digits and exponent of the shortest decimal of a positive number. -/
def shortest (x : Binary64) : List Char × Int :=
  let (num,den) := x.magnitude
  let (c,k) := shortestFrom x (leadingExponent num den) 1 17
  let (c,k) := dropZeros c k 20
  (Nat.toDigits 10 c,k)

/-- Where the decimal point goes and how an exponent is written. -/
structure Layout where
  /-- Leading exponents written without an exponent part. -/
  positional : Int → Bool
  /-- The least number of digits of an exponent. -/
  exponentWidth : Nat

def padLeft (width : Nat) (s : List Char) : List Char := List.replicate (width - s.length) '0' ++ s

def exponentText (layout : Layout) (e : Int) : List Char :=
  (if e < 0 then ['e','-'] else ['e','+']) ++
    padLeft layout.exponentWidth (Nat.toDigits 10 e.natAbs)

def positionalText (digits : List Char) (k lead : Int) : List Char :=
  if k ≥ 0 then digits ++ List.replicate k.toNat '0' ++ ['.','0']
  else if lead ≥ 0 then digits.take (lead.toNat + 1) ++ '.' :: digits.drop (lead.toNat + 1)
  else '0' :: '.' :: List.replicate ((-lead).toNat - 1) '0' ++ digits

/-- The shortest decimal text of a number, always with a point or an exponent. -/
def render (layout : Layout) (x : Binary64) : List Char :=
  let sign := if x.negative then ['-'] else []
  if x.isZero then sign ++ ['0','.','0']
  else
    let (digits,k) := x.shortest
    let lead := k + digits.length - 1
    sign ++
      if layout.positional lead then positionalText digits k lead
      else (match digits with
        | [] => []
        | [d] => [d]
        | d :: ds => d :: '.' :: ds) ++ exponentText layout lead

/-- Positional from `1e-5` up to below `1e16`, and a signed exponent of two digits otherwise. -/
def signedExponent : Layout := ⟨fun lead => -5 ≤ lead && lead < 16,2⟩

/-- Positional throughout. -/
def plain : Layout := ⟨fun _ => true,1⟩

end Binary64
end AppLint
