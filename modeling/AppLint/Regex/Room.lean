import AppLint.Regex.Pattern

/-! How much room the automaton of a pattern takes that reads a text byte by byte. -/
namespace AppLint
namespace Regex

namespace CharSet

/-- Ranges by their starts, with those that meet joined. -/
def joined : List (Nat × Nat) → List (Nat × Nat)
  | [] => []
  | r :: rest =>
    match joined rest with
    | [] => [r]
    | (lo,hi) :: more => if lo ≤ r.2 + 1 then (r.1,max r.2 hi) :: more else r :: (lo,hi) :: more

def unite (a b : List (Nat × Nat)) : List (Nat × Nat) :=
  joined ((a ++ b).mergeSort fun r s => r.1 ≤ s.1)

/-- The numbers from `start` to `top` that are in none of the ranges. -/
def gaps (top start : Nat) : List (Nat × Nat) → List (Nat × Nat)
  | [] => if start ≤ top then [(start,top)] else []
  | (lo,hi) :: rest =>
    if start < lo then (start,lo - 1) :: gaps top (hi + 1) rest else gaps top (hi + 1) rest

def surrogates : Nat × Nat := (0xD800,0xDFFF)

/-- All characters that are in none of the ranges. -/
def others (rs : List (Nat × Nat)) : List (Nat × Nat) := gaps 0x10FFFF 0 (unite [surrogates] rs)

def common (a b : List (Nat × Nat)) : List (Nat × Nat) := others (unite (others a) (others b))

/-- Few characters with those that differ from them in case only. Many are taken to hold them. -/
def withCases (variants : Char → List Char) (rs : List (Nat × Nat)) : List (Nat × Nat) :=
  if 256 < rs.foldl (fun n (lo,hi) => n + (hi + 1 - lo)) 0 then rs
  else
    let chars := rs.flatMap fun (lo,hi) =>
      (List.range (hi + 1 - lo)).flatMap fun i => variants (Char.ofNat (lo + i))
    unite [] (chars.map fun c => (c.toNat,c.toNat))

/-- The characters of a set in ranges. -/
def toRanges : CharSet → List (Nat × Nat)
  | ranges rs => unite [] rs
  | union a b => unite a.toRanges b.toRanges
  | intersection a b => common a.toRanges b.toRanges
  | difference a b => common a.toRanges (others b.toRanges)
  | symmetricDifference a b =>
    unite (common a.toRanges (others b.toRanges)) (common (others a.toRanges) b.toRanges)
  | complement a => others a.toRanges
  | anyCase a => withCases Text.caseVariants a.toRanges
  | anyAsciiCase a => withCases (fun c => [c,c.toLower,c.toUpper]) a.toRanges

end CharSet

/-- The bytes of a character in UTF-8. -/
def utf8 (n : Nat) : List Nat :=
  if n < 0x80 then [n]
  else if n < 0x800 then [0xC0 + n / 64,0x80 + n % 64]
  else if n < 0x10000 then [0xE0 + n / 4096,0x80 + n / 64 % 64,0x80 + n % 64]
  else [0xF0 + n / 262144,0x80 + n / 4096 % 64,0x80 + n / 64 % 64,0x80 + n % 64]

/-- After which character a range has to be split, so that each byte runs through a range of its own. -/
def splitAfter? (lo hi : Nat) : Option Nat :=
  match [0x7F,0x7FF,0xFFFF].find? fun m => lo ≤ m && m < hi with
  | some m => some m
  | none =>
    if hi ≤ 0x7F then none
    else
      [64,4096,262144].findSome? fun unit =>
        if lo / unit == hi / unit then none
        else if lo % unit != 0 then some (lo / unit * unit + (unit - 1))
        else if hi % unit != unit - 1 then some (hi / unit * unit - 1)
        else none

/-- The characters of a range as rows of byte ranges. -/
def byteRows : Nat → Nat × Nat → List (List (Nat × Nat))
  | 0, _ => []
  | fuel + 1, (lo,hi) =>
    match splitAfter? lo hi with
    | some m => byteRows fuel (lo,m) ++ byteRows fuel (m + 1,hi)
    | none => [(utf8 lo).zip (utf8 hi)]

/-- The number of splits after one another is small, as each ends at the border of a block. -/
def splitLimit : Nat := 32

def commonLength : List (Nat × Nat) → List (Nat × Nat) → Nat
  | a :: s, b :: t => if a == b then commonLength s t + 1 else 0
  | _, _ => 0

/-- The number of byte ranges, where rows after one another share those at their starts. -/
def sharedLength (before : List (Nat × Nat)) : List (List (Nat × Nat)) → Nat
  | [] => 0
  | row :: rest => row.length - commonLength before row + sharedLength row rest

/-- The bytes that a state takes. -/
def stateRoom : Nat := 32

/-- The bytes that a set takes: a state for one character's byte, a table for ASCII, else a branch for
each row of bytes. -/
def CharSet.room (s : CharSet) : Nat :=
  match s.toRanges with
  | [] => stateRoom
  | (lo,hi) :: rest =>
    if rest.isEmpty && lo == hi then stateRoom * (utf8 lo).length
    else if ((lo,hi) :: rest).all fun (_,hi) => hi ≤ 0x7F then
      2 * stateRoom + 8 * (rest.length + 1)
    else
      let rows := ((lo,hi) :: rest).flatMap (byteRows splitLimit)
      2 * stateRoom + 4 * rows.length + stateRoom * sharedLength [] rows

/-- The bytes of a state that branches in two. -/
def branchRoom : Nat := stateRoom + 8

/-- The bytes that a pattern takes. What is repeated is there once for each time that is counted. -/
def Pattern.room : Pattern → Nat
  | empty => stateRoom
  | set s => s.room
  | look _ => stateRoom
  | sequence a b => a.room + b.room
  | choice a b => branchRoom + stateRoom + a.room + b.room
  | repetition least none body => max least 1 * body.room + branchRoom
  | repetition least (some most) body =>
    most * body.room + (most - least) * branchRoom + stateRoom

/-- The bytes that a pattern may take. -/
def roomLimit : Nat := 10485760

end Regex
end AppLint
