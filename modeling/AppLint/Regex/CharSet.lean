import AppLint.Text.Fold
import AppLint.Text.Ranges

/-! Sets of characters. -/
namespace AppLint
namespace Regex

inductive CharSet where
  /-- The characters in a list of ranges in ascending order. -/
  | ranges (rs : List (Nat × Nat))
  | union (a b : CharSet)
  | intersection (a b : CharSet)
  | difference (a b : CharSet)
  | symmetricDifference (a b : CharSet)
  | complement (a : CharSet)
  /-- The characters that differ from one in the set in case only. -/
  | anyCase (a : CharSet)
  /-- As `anyCase`, for ASCII letters alone. -/
  | anyAsciiCase (a : CharSet)
deriving DecidableEq, Repr

namespace CharSet

def empty : CharSet := ranges []

def char (c : Char) : CharSet := ranges [(c.toNat,c.toNat)]

def contains : CharSet → Char → Bool
  | ranges rs, c => Text.inRanges c.toNat rs
  | union a b, c => a.contains c || b.contains c
  | intersection a b, c => a.contains c && b.contains c
  | difference a b, c => a.contains c && !b.contains c
  | symmetricDifference a b, c => a.contains c != b.contains c
  | complement a, c => !a.contains c
  | anyCase a, c => (Text.caseVariants c).any a.contains
  | anyAsciiCase a, c => a.contains c || a.contains c.toLower || a.contains c.toUpper

end CharSet
end Regex
end AppLint
