/-! Sets of characters as sorted lists of code point ranges. -/
namespace AppLint
namespace Text

/-- Membership of a code point in a set of ranges in ascending order. -/
def inRanges (n : Nat) : List (Nat × Nat) → Bool
  | [] => false
  | (lo,hi) :: rest => if n < lo then false else if n ≤ hi then true else inRanges n rest

@[simp] theorem inRanges_nil (n : Nat) : inRanges n [] = false := rfl

/-- Natural numbers in decimal, with a blank between two of them. -/
def decodeNumbers (current : Nat) : List Char → List Nat
  | [] => [current]
  | c :: s =>
    if c == ' ' then current :: decodeNumbers 0 s
    else decodeNumbers (10 * current + (c.toNat - 48)) s

/-- Ranges from pairs of a gap after the range before and a length less one. -/
def rangesFrom (start : Nat) : List Nat → List (Nat × Nat)
  | gap :: extent :: rest =>
    (start + gap,start + gap + extent) :: rangesFrom (start + gap + extent + 1) rest
  | _ => []

/-- Ranges from their numbers, written over several lines. -/
def decodeRanges (rows : List String) : List (Nat × Nat) :=
  rangesFrom 0 (rows.flatMap fun row => decodeNumbers 0 row.toList)

end Text
end AppLint
