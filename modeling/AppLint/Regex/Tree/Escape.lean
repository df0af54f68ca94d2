import AppLint.Regex.Tree.Cursor

/-! Reading escape sequences. -/
namespace AppLint
namespace Regex
namespace Reader

def hexDigit? (c : Char) : Option Nat :=
  if '0' ≤ c && c ≤ '9' then some (c.toNat - '0'.toNat)
  else if 'a' ≤ c && c ≤ 'f' then some (c.toNat - 'a'.toNat + 10)
  else if 'A' ≤ c && c ≤ 'F' then some (c.toNat - 'A'.toNat + 10)
  else none

/-- The character with this number, if there is one. -/
def scalar? (n : Nat) : Option Char :=
  if n < 0xD800 || (0xE000 ≤ n && n ≤ 0x10FFFF) then some (Char.ofNat n) else none

def hexScalar? (digits : List Nat) : Option Char := scalar? (digits.foldl (16 * · + ·) 0)

/-- A given number of hexadecimal digits. -/
def hexDigits (first : Bool) (done : List Nat) : Nat → Reader (List Nat)
  | 0 => return done.reverse
  | more + 1 => do
    if !first then
      if !(← bumpOver) then fail (← here) .escapeUnfinished
    match (← peek).bind hexDigit? with
    | some d => hexDigits false (d :: done) more
    | none => fail (← charSpan) .hexInvalidDigit

/-- Hexadecimal digits up to a closing brace. -/
def bracedDigits (brace : Position) (done : List Nat) : Nat → Reader (List Nat)
  | 0 => failFrom brace .escapeUnfinished
  | fuel + 1 => do
    if !(← bumpOver) then failFrom brace .escapeUnfinished
    else if ← isAt '\x7d' then return done.reverse
    else
      match (← peek).bind hexDigit? with
      | some d => bracedDigits brace (d :: done) fuel
      | none => fail (← charSpan) .hexInvalidDigit

/-- A character by its number, after the letter that says how it is written. -/
def hexLiteral (start : Position) (kind : Char) : Reader Literal := do
  if !(← bumpOver) then fail (← here) .escapeUnfinished
  else if ← isAt '\x7b' then
    let brace ← pos
    let first := (← charSpan).stop
    let digits ← bracedDigits brace [] ((← get).rest.length + 1)
    let last ← pos
    let _ ← bumpOver
    if digits.isEmpty then failFrom brace .hexEmpty
    else
      match hexScalar? digits with
      | some c => return ⟨⟨start,← pos⟩,c,false⟩
      | none => fail ⟨first,last⟩ .hexInvalid
  else
    let first ← pos
    let digits ← hexDigits true [] (if kind == 'x' then 2 else if kind == 'u' then 4 else 8)
    let _ ← bumpOver
    match hexScalar? digits with
    | some c => return ⟨⟨start,← pos⟩,c,kind == 'x'⟩
    | none => failFrom first .hexInvalid

/-- What stands before and after the first place where `sep` stands. -/
def splitAt? (sep : List Char) (s : List Char) : Option (String × String) :=
  (Text.cut? sep s).map fun (a,b) => (String.ofList a,String.ofList b)

def queryOf (s : List Char) : PropertyQuery :=
  match splitAt? ['!','='] s, splitAt? [':'] s, splitAt? ['='] s with
  | some (name,value), _, _ => .valued name value true
  | _, some (name,value), _ => .valued name value false
  | _, _, some (name,value) => .valued name value false
  | _, _, _ => .named (String.ofList s)

/-- The text up to a closing brace. -/
def bracedName (done : List Char) : Nat → Reader (List Char)
  | 0 => return done.reverse
  | fuel + 1 => do
    if !(← bumpOver) then fail (← here) .escapeUnfinished
    else
      match ← peek with
      | some '\x7d' => return done.reverse
      | some c => bracedName (c :: done) fuel
      | none => fail (← here) .escapeUnfinished

/-- A class by property, at its letter. -/
def propertyClass (start : Position) : Reader Tree := do
  let negated ← isAt 'P'
  if !(← bumpOver) then fail (← here) .escapeUnfinished
  else
    match ← peek with
    | some '\x7b' =>
      let name ← bracedName [] ((← get).rest.length + 1)
      bump
      return .property ⟨start,← pos⟩ (queryOf name) negated
    | some '\\' => fail (← charSpan) .propertyInvalid
    | some c =>
      let _ ← bumpOver
      return .property ⟨start,← pos⟩ (.named (String.ofList [c])) negated
    | none => fail (← here) .escapeUnfinished

def isMeta (c : Char) : Bool := "\\.+*?()|[]\x7b\x7d^$#&-~".toList.contains c

/-- Characters that stand for themselves after a backslash. -/
def isEscapable (c : Char) : Bool :=
  isMeta c || (c.toNat < 128 && !c.isAlphanum && c != '<' && c != '>')

def controlEscape? : Char → Option Char
  | 'a' => some (Char.ofNat 7)
  | 'f' => some (Char.ofNat 12)
  | 't' => some '\t'
  | 'n' => some '\n'
  | 'r' => some '\r'
  | 'v' => some (Char.ofNat 11)
  | _ => none

def isBoundaryChar (c : Char) : Bool := c.isAlpha || c == '-'

def boundaryKind? : String → Option AssertionKind
  | "start" => some .wordStart
  | "end" => some .wordEnd
  | "start-half" => some .wordStartHalf
  | "end-half" => some .wordEndHalf
  | _ => none

/-- The name in braces that may follow a word boundary. Anything but a name is left for a counted
repetition. -/
def boundaryName (start : Position) : Reader (Option AssertionKind) := do
  let saved ← get
  if !(← bumpOver) then failFrom start .wordBoundaryUnfinished
  else
    let first ← pos
    if !(← peek).any isBoundaryChar then
      set saved
      return none
    else
      let name ← takeWhile isBoundaryChar [] ((← get).rest.length + 1)
      if !(← isAt '\x7d') then failFrom saved.position .wordBoundaryUnclosed
      else
        let last ← pos
        bump
        match boundaryKind? (String.ofList name) with
        | some kind => return some kind
        | none => fail ⟨first,last⟩ .wordBoundaryUnrecognized

/-- An escape sequence, at its backslash. -/
def escape : Reader Tree := do
  let start ← pos
  bump
  match ← peek with
  | none => failFrom start .escapeUnfinished
  | some c =>
    if c.isDigit then fail ⟨start,(← charSpan).stop⟩ .backreference
    else if c == 'x' || c == 'u' || c == 'U' then return .literal (← hexLiteral start c)
    else if c == 'p' || c == 'P' then propertyClass start
    else
      bump
      let span : Span := ⟨start,← pos⟩
      if isEscapable c then return .literal ⟨span,c,false⟩
      else if let some image := controlEscape? c then return .literal ⟨span,image,false⟩
      else
        match c with
        | 'd' => return .shorthand span .digit false
        | 'D' => return .shorthand span .digit true
        | 's' => return .shorthand span .space false
        | 'S' => return .shorthand span .space true
        | 'w' => return .shorthand span .word false
        | 'W' => return .shorthand span .word true
        | 'A' => return .assertion span .startText
        | 'z' => return .assertion span .endText
        | 'b' =>
          if ← isAt '\x7b' then
            match ← boundaryName start with
            | some kind => return .assertion ⟨start,← pos⟩ kind
            | none => return .assertion span .wordBoundary
          else return .assertion span .wordBoundary
        | 'B' => return .assertion span .notWordBoundary
        | '<' => return .assertion span .wordStart
        | '>' => return .assertion span .wordEnd
        | _ => fail span .escapeUnrecognized

end Reader
end Regex
end AppLint
