import AppLint.Json.Reader

/-! Readers for data of a given shape. They stop at the first thing that does not fit, be it the text
or the shape. -/
namespace AppLint
namespace Json

def Number.found : Number → Found
  | integer n => .integer n
  | real x => .real (.finite x)

def Value.found : Value → Found
  | null => .null
  | bool b => .boolean b
  | number n => n.found
  | string s => .text s
  | array _ => .sequence
  | object _ => .map

namespace Reader

/-- Fail over the value at the cursor, of which scalars are read to name them. -/
def unexpected {α : Type} (expected : String) : Reader α := located do
  match ← peek with
  | some '[' => mismatch (.invalidType .sequence expected)
  | some '\x7b' => mismatch (.invalidType .map expected)
  | some c => mismatch (.invalidType (← scalar c).found expected)
  | none => failPeek .expectedValue

/-- The first character of a value. -/
def valueStart : Reader Char := do
  match ← peekToken with
  | some c => return c
  | none => failPeek .unfinishedValue

def text (expected : String) : Reader String := located do
  if (← valueStart) == '"' then eat; string else unexpected expected

/-- A natural number of 64 bits. -/
def natural : Reader Nat := located do
  let c ← valueStart
  if c == '-' || isDigit c then
    if c == '-' then eat
    match ← numeral (c == '-') with
    | .integer n =>
      if 0 ≤ n then return n.toNat else mismatch (.invalidValue (.integer n) "usize")
    | .real x => mismatch (.invalidType (.real (.finite x)) "usize")
  else unexpected "usize"

def listItems {α : Type} (item : Reader α) (first : Bool) (done : List α) : Nat → Reader (List α)
  | 0 => return done.reverse
  | fuel + 1 => do
    if ← anotherItem first then
      let a ← item
      listItems item false (a :: done) fuel
    else return done.reverse

/-- A list of items that are read with one level less of depth. -/
def list {α : Type} (depth : Nat) (item : Nat → Reader α) : Reader (List α) := located do
  if (← valueStart) == '[' then
    let depth ← deeper depth
    eat
    closedBy (do listItems (item depth) true [] ((← get).rest.length + 1)) listEnd
  else unexpected "a sequence"

/-- One name out of a choice. -/
def variantName (names : List String) : Reader String := located do
  let name ← text "variant identifier"
  if name ∈ names then return name else mismatch (.unknownVariant name names)

/-- A choice without data: its name, or an object with the name over null. -/
def unitVariant (depth : Nat) (names : List String) : Reader String := do
  match ← peekToken with
  | some '"' => variantName names
  | some '\x7b' =>
    let _ ← deeper depth
    eat
    let name ← variantName names
    colon
    located do
      if (← valueStart) == 'n' then eat; wordRest ['u','l','l'] else unexpected "unit"
    match ← peekToken with
    | some '\x7d' => eat; return name
    | some _ => fail .expectedValue
    | none => fail .unfinishedObject
  | some _ => failPeek .expectedValue
  | none => failPeek .unfinishedValue

/-! Values that are passed over. -/

def skipStringRest : Nat → Reader Unit
  | 0 => fail .unfinishedString
  | fuel + 1 => do
    match ← peek with
    | none => fail .unfinishedString
    | some '"' => eat
    | some '\\' =>
      eat
      match ← peek with
      | none => fail .unfinishedString
      | some 'u' =>
        eat
        let _ ← hexEscape
        skipStringRest fuel
      | some c => if (plainEscape? c).isSome then eat; skipStringRest fuel else failPeek .invalidEscape
    | some c => if c.toNat < 32 then fail .controlCharacter else eat; skipStringRest fuel

def skipExponent : Reader Unit := do
  if isExponentMark (← peek) then
    eat
    if (← peek) == some '+' || (← peek) == some '-' then eat
    match ← peek with
    | some c => if isDigit c then discard skipDigits else failPeek .invalidNumber
    | none => fail .invalidNumber

def skipNumeral : Reader Unit := do
  match ← peek with
  | none => fail .invalidNumber
  | some d =>
    if !isDigit d then failPeek .invalidNumber
    else
      eat
      if d == '0' then
        if (← peek).any isDigit then failPeek .invalidNumber
      else discard skipDigits
      if (← peek) == some '.' then
        eat
        if (← skipDigits) == 0 then failPeek .invalidNumber
      skipExponent

mutual

def skipValue : Nat → Reader Unit
  | 0 => return ()
  | fuel + 1 => do
    let c ← valueStart
    if c == '[' then eat; skipItems true fuel
    else if c == '\x7b' then eat; skipFields true fuel
    else if c == '"' then eat; skipStringRest fuel
    else if c == '-' then eat; skipNumeral
    else if isDigit c then skipNumeral
    else discard (scalar c)

def skipItems (first : Bool) : Nat → Reader Unit
  | 0 => return ()
  | fuel + 1 => do
    match ← peekToken with
    | none => failPeek .unfinishedList
    | some ']' => eat
    | some c =>
      if !first then
        if c == ',' then eat else failPeek .expectedListCommaOrEnd
      skipValue fuel
      skipItems false fuel

def skipFields (first : Bool) : Nat → Reader Unit
  | 0 => return ()
  | fuel + 1 => do
    match ← peekToken with
    | none => failPeek .unfinishedObject
    | some '\x7d' => eat
    | some c =>
      if !first then
        if c == ',' then eat else failPeek .expectedObjectCommaOrEnd
      match ← peekToken with
      | none => failPeek .unfinishedObject
      | some '"' => eat
      | some _ => failPeek .keyMustBeString
      skipStringRest fuel
      colon
      skipValue fuel
      skipFields false fuel

end

def skip : Reader Unit := do skipValue (2 * (← get).rest.length + 2)

end Reader
end Json
end AppLint
