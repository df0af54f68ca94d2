import AppLint.Json.Numeral

/-! Reading JSON values from text. -/
namespace AppLint
namespace Json
namespace Reader

def hexValue? (c : Char) : Option Nat :=
  if '0' ≤ c && c ≤ '9' then some (c.toNat - '0'.toNat)
  else if 'a' ≤ c && c ≤ 'f' then some (c.toNat - 'a'.toNat + 10)
  else if 'A' ≤ c && c ≤ 'F' then some (c.toNat - 'A'.toNat + 10)
  else none

def fourHex? : List Char → Option (Nat × List Char)
  | a :: b :: c :: d :: rest => do
    let n := 4096 * (← hexValue? a) + 256 * (← hexValue? b) + 16 * (← hexValue? c) + (← hexValue? d)
    return (n,rest)
  | _ => none

/-- The four digits of a hexadecimal escape. -/
def hexEscape : Reader Nat := do
  let c ← get
  match fourHex? c.rest with
  | some (n,rest) =>
    set { c with rest := rest, column := c.column + 4 }
    return n
  | none =>
    match Cursor.after? 4 c.line c.column c.rest with
    | some p => failAt p .invalidEscape
    | none =>
      modify fun c => c.rest.foldl (fun c _ => c.advance) c
      fail .unfinishedString

/-- The next character must be `expected`, inside a pair of hexadecimal escapes. -/
def pairPart (expected : Char) : Reader Unit := do
  match ← peek with
  | none => fail .unfinishedString
  | some c => if c == expected then eat else failPeek .unfinishedHexEscape

/-- The character of a hexadecimal escape, or of two that form a surrogate pair. -/
def unicodeEscape : Reader Char := do
  let high ← hexEscape
  if 0xDC00 ≤ high && high ≤ 0xDFFF then fail .loneSurrogate
  else if high < 0xD800 || 0xDBFF < high then return Char.ofNat high
  else
    pairPart '\\'
    pairPart 'u'
    let low ← hexEscape
    if low < 0xDC00 || 0xDFFF < low then fail .loneSurrogate
    else return Char.ofNat (0x10000 + (high - 0xD800) * 0x400 + (low - 0xDC00))

/-- The plain escapes. -/
def plainEscape? : Char → Option Char
  | '"' => some '"'
  | '\\' => some '\\'
  | '/' => some '/'
  | 'b' => some (Char.ofNat 8)
  | 'f' => some (Char.ofNat 12)
  | 'n' => some '\n'
  | 'r' => some '\r'
  | 't' => some '\t'
  | _ => none

/-- An escape after its backslash. -/
def escape : Reader Char := do
  match ← peek with
  | none => fail .unfinishedString
  | some 'u' => eat; unicodeEscape
  | some c =>
    match plainEscape? c with
    | some image => eat; return image
    | none => failPeek .invalidEscape

/-- The rest of a string after its opening quote; `done` holds what is read, last character first. -/
def stringRest (done : List Char) : Nat → Reader String
  | 0 => fail .unfinishedString
  | fuel + 1 => do
    match ← next with
    | none => fail .unfinishedString
    | some '"' => return String.ofList done.reverse
    | some '\\' => stringRest ((← escape) :: done) fuel
    | some c => if c.toNat < 32 then fail .controlCharacter else stringRest (c :: done) fuel

/-- A string after its opening quote. -/
def string : Reader String := do stringRest [] ((← get).rest.length + 1)

/-- The rest of one of the words `null`, `true` and `false`. -/
def wordRest : List Char → Reader Unit
  | [] => return ()
  | expected :: rest => do
    match ← peek with
    | none => fail .unfinishedValue
    | some c => if c == expected then eat; wordRest rest else failPeek .expectedWord

/-- A value that is neither a list nor an object, at its first character `c`. -/
def scalar (c : Char) : Reader Value := do
  if c == 'n' then eat; wordRest ['u','l','l']; return .null
  else if c == 't' then eat; wordRest ['r','u','e']; return .bool true
  else if c == 'f' then eat; wordRest ['a','l','s','e']; return .bool false
  else if c == '"' then eat; return .string (← string)
  else if c == '-' then eat; return .number (← numeral true)
  else if isDigit c then return .number (← numeral false)
  else failPeek .expectedValue

/-- Whether another item of a list follows. -/
def anotherItem (first : Bool) : Reader Bool := do
  match ← peekToken with
  | none => failPeek .unfinishedList
  | some ']' => return false
  | some c =>
    if first then return true
    else if c == ',' then
      eat
      match ← peekToken with
      | some ']' => failPeek .trailingComma
      | some _ => return true
      | none => failPeek .unfinishedValue
    else failPeek .expectedListCommaOrEnd

/-- The name of the next field of an object, if another one follows. -/
def anotherField (first : Bool) : Reader (Option String) := do
  match ← peekToken with
  | none => failPeek .unfinishedObject
  | some '\x7d' => return none
  | some c =>
    if first then
      if c == '"' then eat; return some (← string) else failPeek .keyMustBeString
    else if c == ',' then
      eat
      match ← peekToken with
      | some '"' => eat; return some (← string)
      | some '\x7d' => failPeek .trailingComma
      | some _ => failPeek .keyMustBeString
      | none => failPeek .unfinishedValue
    else failPeek .expectedObjectCommaOrEnd

def colon : Reader Unit := do
  match ← peekToken with
  | some ':' => eat
  | some _ => failPeek .expectedColon
  | none => failPeek .unfinishedObject

def listEnd : Reader Unit := do
  match ← peekToken with
  | some ']' => eat
  | some ',' =>
    eat
    match ← peekToken with
    | some ']' => failPeek .trailingComma
    | _ => failPeek .trailingCharacters
  | some _ => failPeek .trailingCharacters
  | none => failPeek .unfinishedList

def objectEnd : Reader Unit := do
  match ← peekToken with
  | some '\x7d' => eat
  | some ',' => failPeek .trailingComma
  | some _ => failPeek .trailingCharacters
  | none => failPeek .unfinishedObject

/-- How many values may enclose each other. -/
def depthLimit : Nat := 128

/-- One level less of the depth that is left. -/
def deeper (depth : Nat) : Reader Nat := do
  if depth ≤ 1 then failPeek .tooDeep else return depth - 1

mutual

/-- A value with its fields as written. -/
def rawValue (depth : Nat) : Nat → Reader Value
  | 0 => fail .tooDeep
  | fuel + 1 => do
    match ← peekToken with
    | none => failPeek .unfinishedValue
    | some '[' =>
      let depth ← deeper depth
      eat
      let items ← rawItems depth true [] fuel
      listEnd
      return .array items
    | some '\x7b' =>
      let depth ← deeper depth
      eat
      let fields ← rawFields depth true [] fuel
      objectEnd
      return .object fields
    | some c => scalar c

def rawItems (depth : Nat) (first : Bool) (done : List Value) : Nat → Reader (List Value)
  | 0 => fail .tooDeep
  | fuel + 1 => do
    if ← anotherItem first then
      let v ← rawValue depth fuel
      rawItems depth false (v :: done) fuel
    else return done.reverse

def rawFields (depth : Nat) (first : Bool) (done : List (String × Value)) :
    Nat → Reader (List (String × Value))
  | 0 => fail .tooDeep
  | fuel + 1 => do
    match ← anotherField first with
    | some name =>
      colon
      let v ← rawValue depth fuel
      rawFields depth false ((name,v) :: done) fuel
    | none => return done.reverse

end

/-- A value, read with fuel for every character that is left. -/
def value (depth : Nat) : Reader Value := do rawValue depth (2 * (← get).rest.length + 2)

/-- Nothing but spaces is left. -/
def finish : Reader Unit := do
  if (← peekToken).isSome then failPeek .trailingCharacters

/-- Read a whole text. -/
def run {α : Type} (r : Reader α) (text : String) : Except Error α :=
  ((do let a ← r; finish; return a : Reader α) (Cursor.start text)).1

end Reader

/-- The value of a JSON text. -/
def parse (text : String) : Except Error Value :=
  (Reader.value Reader.depthLimit).run text |>.map Value.normalize

end Json
end AppLint
