/-! Finite binary floating-point numbers of 64 bits, and rounding to them. -/
namespace AppLint

/-- The number `mantissa * 2 ^ exponent`, negated if `negative`. The mantissa has 53 bits, or fewer
if the exponent is the least one, -1074. -/
structure Binary64 where
  negative : Bool
  mantissa : Nat
  exponent : Int
deriving DecidableEq, Repr, Inhabited

namespace Binary64

def zero (negative : Bool) : Binary64 := ⟨negative,0,-1074⟩

def isZero (x : Binary64) : Bool := x.mantissa == 0

/-- `num / den * 2 ^ (-e)` as a quotient of natural numbers. -/
def scaled (num den : Nat) (e : Int) : Nat × Nat :=
  if e ≥ 0 then (num,den * Nat.pow 2 e.toNat) else (num * Nat.pow 2 (-e).toNat,den)

/-- The exponent with which `num / den` has a mantissa of 53 bits, or the least exponent. -/
def exponentFor (num den : Nat) : Int :=
  let guess : Int := (Nat.log2 num : Int) - Nat.log2 den - 52
  let (n,d) := scaled num den guess
  let fit := if n / d < Nat.pow 2 52 then guess - 1 else if n / d ≥ Nat.pow 2 53 then guess + 1 else guess
  max fit (-1074)

/-- The quotient rounded to the nearest natural number, a half to the even neighbour. -/
def roundDiv (num den : Nat) : Nat :=
  let q := num / den
  let r := num % den
  if 2 * r > den || (2 * r == den && q % 2 == 1) then q + 1 else q

/-- The number nearest to `num / den`, of two the one with an even mantissa; none if it is too
large. -/
def round? (negative : Bool) (num den : Nat) : Option Binary64 :=
  if num == 0 then some (zero negative)
  else
    let e := exponentFor num den
    let (n,d) := scaled num den e
    let m := roundDiv n d
    let (m,e) := if m ≥ Nat.pow 2 53 then (Nat.pow 2 52,e + 1) else (m,e)
    if e > 971 then none else some ⟨negative,m,e⟩

/-- The magnitude as a quotient of natural numbers. -/
def magnitude (x : Binary64) : Nat × Nat :=
  if x.exponent ≥ 0 then (x.mantissa * Nat.pow 2 x.exponent.toNat,1)
  else (x.mantissa,Nat.pow 2 (-x.exponent).toNat)

def mul? (x y : Binary64) : Option Binary64 :=
  let (a,b) := x.magnitude
  let (c,d) := y.magnitude
  round? (x.negative != y.negative) (a * c) (b * d)

/-- The rounded quotient; none also for a zero divisor. -/
def div? (x y : Binary64) : Option Binary64 :=
  if y.isZero then none
  else
    let (a,b) := x.magnitude
    let (c,d) := y.magnitude
    round? (x.negative != y.negative) (a * d) (b * c)

/-- The number nearest to `coefficient * 10 ^ exponent`, none if it is too large. -/
def ofDecimal? (negative : Bool) (coefficient : Nat) (exponent : Int) : Option Binary64 :=
  if coefficient == 0 then some (zero negative)
  else
    let top := exponent + (Nat.toDigits 10 coefficient).length
    if top > 400 then none
    else if top < -400 then some (zero negative)
    else if exponent ≥ 0 then round? negative (coefficient * Nat.pow 10 exponent.toNat) 1
    else round? negative coefficient (Nat.pow 10 (-exponent).toNat)

def neg (x : Binary64) : Binary64 := { x with negative := !x.negative }

end Binary64
end AppLint
