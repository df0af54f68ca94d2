import AppLint.Script.Source

/-! Strings, numbers and regular expressions of scripts. -/
namespace AppLint
namespace Script

def isOctal (c : Char) : Bool := '0' ≤ c && c ≤ '7'

/-- The length of an escape after its backslash. -/
def escapeLength? : List Char → Option Nat
  | [] => none
  | '\r' :: '\n' :: _ => some 2
  | 'x' :: a :: b :: _ => if isHex a && isHex b then some 3 else none
  | 'u' :: '\x7b' :: rest =>
    let digits := rest.takeWhile isHex
    match rest.drop digits.length with
    | '\x7d' :: _ => if digits.isEmpty then none else some (digits.length + 3)
    | _ => none
  | 'u' :: a :: b :: c :: d :: _ => if [a,b,c,d].all isHex then some 5 else none
  | c :: rest =>
    if c == 'x' || c == 'u' || c.toNat == 0 then none
    else if isOctal c then some (1 + ((rest.take 2).takeWhile isOctal).length)
    else some 1

/-- The length of a string after its opening quote, with the closing one. -/
def stringLength? (quote : Char) (count : Nat) : Nat → List Char → Option Nat
  | 0, _ => none
  | fuel + 1, s =>
    match s with
    | [] => none
    | '\\' :: rest => do
      let n ← escapeLength? rest
      stringLength? quote (count + n + 1) fuel (rest.drop n)
    | c :: rest =>
      if c == quote then some (count + 1)
      else if c == '\n' || c == '\r' || c.toNat == 0 then none
      else stringLength? quote (count + 1) fuel rest

/-- The length of a regular expression after its opening slash, without its flags. -/
def regexLength? (inClass : Bool) (count : Nat) : List Char → Option Nat
  | [] => none
  | '\\' :: c :: rest =>
    if isLineEnd c || c.toNat == 0 then none else regexLength? inClass (count + 2) rest
  | c :: rest =>
    if isLineEnd c || c.toNat == 0 then none
    else if c == '[' then regexLength? true (count + 1) rest
    else if c == ']' then regexLength? false (count + 1) rest
    else if c == '/' && !inClass then some (count + 1)
    else regexLength? inClass (count + 1) rest

/-- The length of digits with single underscores between them. -/
def digitsLength (isDigit : Char → Bool) (count : Nat) : List Char → Nat
  | '_' :: c :: rest =>
    if isDigit c && count != 0 then digitsLength isDigit (count + 2) rest else count
  | c :: rest => if isDigit c then digitsLength isDigit (count + 1) rest else count
  | [] => count

def isDecimal (c : Char) : Bool := '0' ≤ c && c ≤ '9'

/-- The length of an exponent part; zero if there is none. -/
def exponentLength (s : List Char) : Nat :=
  match s with
  | e :: rest =>
    if e == 'e' || e == 'E' then
      match rest with
      | sign :: more =>
        if sign == '+' || sign == '-' then
          let n := digitsLength isDecimal 0 more
          if n == 0 then 0 else n + 2
        else
          let n := digitsLength isDecimal 0 rest
          if n == 0 then 0 else n + 1
      | [] => 0
    else 0
  | [] => 0

/-- The length of a number with a base mark such as `0x`. -/
def basedLength (isDigit : Char → Bool) (s : List Char) : Nat :=
  let n := digitsLength isDigit 0 s
  match s.drop n with
  | 'n' :: _ => n + 3
  | _ => n + 2

def decimalLength (s : List Char) : Nat :=
  let whole := digitsLength isDecimal 0 s
  match s.drop whole with
  | 'n' :: _ => if whole == 0 then 0 else whole + 1
  | '.' :: rest =>
    let fraction := digitsLength isDecimal 0 rest
    if whole == 0 && fraction == 0 then 0
    else whole + 1 + fraction + exponentLength (rest.drop fraction)
  | rest => if whole == 0 then 0 else whole + exponentLength rest

/-- The length of the number at the front; zero if there is none. -/
def numberLength (s : List Char) : Nat :=
  match s with
  | '0' :: base :: rest =>
    if base == 'x' || base == 'X' then basedLength isHex rest
    else if base == 'o' || base == 'O' then basedLength isOctal rest
    else if base == 'b' || base == 'B' then basedLength (fun c => c == '0' || c == '1') rest
    else decimalLength s
  | _ => decimalLength s

def stringLiteral : Parser Unit := do
  let s ← get
  match s.rest with
  | quote :: rest =>
    match stringLength? quote 1 (rest.length + 1) rest with
    | some n => set (s.take n)
    | none =>
      match (rest.takeWhile fun c => c != '\n').findIdx? fun c => c.toNat == 0 with
      | some i => throw (some (s.advance (i + 1)).place)
      | none => fail
  | [] => fail

def regexLiteral : Parser Unit := do
  let s ← get
  match s.rest with
  | '/' :: '*' :: _ => fail
  | '/' :: rest =>
    match regexLength? false 1 rest with
    | some n =>
      let flags := ((rest.drop (n - 1)).takeWhile fun c => 'a' ≤ c && c ≤ 'z').length
      if n == 2 then fail else set (s.take (n + flags))
    | none => fail
  | _ => fail

/-- A number; a word must not follow at once. -/
def numberLiteral : Parser Unit := do
  let s ← get
  let n := numberLength s.rest
  if n == 0 then fail
  else
    match s.rest.drop n with
    | c :: _ => if isWordPart c then fail else set (s.take n)
    | [] => set (s.take n)

end Script
end AppLint
