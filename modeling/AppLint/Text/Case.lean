import AppLint.Text.Case.Property
import AppLint.Text.Case.Runs

/-! Lower and upper case of texts: characters map one by one, except that a capital sigma at the end
of a word becomes the final small sigma. -/
namespace AppLint
namespace Text

/-- The image of `n` under the run that covers it. -/
def mapRun (runs : List (Nat × Nat × Nat × Int)) (n : Nat) : Nat :=
  match runs.find? fun (first,last,step,_) => first ≤ n && n ≤ last && (n - first) % step == 0 with
  | some (_,_,_,shift) => (n + shift).toNat
  | none => n

def lowerChar (c : Char) : List Char :=
  let n := c.toNat
  if n < 128 then [c.toLower]
  else if n == 0x130 then ['i',Char.ofNat 0x307]
  else [Char.ofNat (mapRun lowerRuns n)]

def upperChar (c : Char) : List Char :=
  let n := c.toNat
  if n < 128 then [c.toUpper]
  else match upperExpansions.lookup n with
    | some ns => ns.map Char.ofNat
    | none => [Char.ofNat (mapRun upperRuns n)]

def upper (s : List Char) : List Char := s.flatMap upperChar

def isCaseIgnorable (c : Char) : Bool := inRanges c.toNat caseIgnorableRanges

def isCased (c : Char) : Bool := inRanges c.toNat casedRanges

/-- A cased character follows, after any number of case-ignorable ones. -/
def casedNext (s : List Char) : Bool :=
  match s.dropWhile isCaseIgnorable with
  | [] => false
  | c :: _ => isCased c

/-- Lower case of `s`, where `before` holds the characters in front of it, nearest first. -/
def lowerAfter (before : List Char) : List Char → List Char
  | [] => []
  | c :: s =>
    let image :=
      if c.toNat == 0x3A3 then
        if casedNext before && !casedNext s then [Char.ofNat 0x3C2] else [Char.ofNat 0x3C3]
      else lowerChar c
    image ++ lowerAfter (c :: before) s

def lower (s : List Char) : List Char := lowerAfter [] s

@[simp] theorem lower_nil : lower [] = [] := rfl

@[simp] theorem upper_nil : upper [] = [] := rfl

/-- ASCII letters alone change case. -/
def lowerAscii (s : List Char) : List Char := s.map Char.toLower

end Text
end AppLint
