import AppLint.Script.Expression

/-! Markup elements inside scripts. -/
namespace AppLint
namespace Script

section
variable (rules : Rules)

/-- A name of an element or attribute: words with hyphens, points and a colon between them. -/
def markupNameLength (count : Nat) : List Char → Nat
  | c :: rest =>
    if isWordPart c || c == '-' || c == '.' || c == ':' then markupNameLength (count + 1) rest
    else count
  | [] => count

def markupName : Parser String := do
  let s ← get
  match s.rest with
  | c :: _ =>
    if isWordStart c then
      let n := markupNameLength 0 s.rest
      set (s.take n)
      return String.ofList (s.rest.take n)
    else fail
  | [] => fail

/-- A quoted value, in which a backslash is plain. -/
def markupString : Parser Unit := do
  let s ← get
  match s.rest with
  | quote :: rest =>
    let n := (rest.takeWhile (· != quote)).length
    if n == rest.length then fail else set (s.take (n + 2))
  | [] => fail

def braces : Parser Unit := do
  expect "\x7b"
  if (← punctuator) ≠ "\x7d" then
    discard (accept "...")
    expressions rules false
  expect "\x7d"

def markupAttribute : Parser Bool := do
  let p ← punctuator
  if p = "\x7b" then
    braces rules
    return true
  else if p = ">" || p = "/" || p = "" && (← word) = "" then return false
  else
    discard markupName
    if ← accept "=" then
      let q ← punctuator
      if q = "\"" || q = "'" then markupString
      else if q = "\x7b" then braces rules
      else
        discard (rules .element)
        modify (Source.take 0)
    return true

/-- Move over one character without skipping what follows. -/
def rawChar (c : Char) : Parser Unit := do
  let s ← get
  match s.rest with
  | d :: _ => if d == c then set (s.advance 1) else fail
  | [] => fail

/-- Texts, expressions and elements up to a closing tag. -/
def children : Nat → Parser Unit
  | 0 => fail
  | fuel + 1 => do
    let s ← get
    match s.rest with
    | [] => fail
    | '<' :: '/' :: _ => set (s.take 2)
    | '<' :: _ =>
      discard (rules .element)
      children fuel
    | '\x7b' :: _ =>
      set ({ s with depth := s.depth + 1 }.take 1)
      if (← punctuator) ≠ "\x7d" then
        discard (accept "...")
        expressions rules false
      rawChar '\x7d'
      modify fun s => { s with depth := s.depth - 1 }
      children fuel
    | c :: _ =>
      if c == '>' || c == '\x7d' || c.toNat == 0 then fail
      else
        set (s.advance 1)
        children fuel

/-- An element; what follows it is not skipped. -/
def element : Parser Shape := do
  expect "<"
  let name ← if (← punctuator).startsWith ">" then pure "" else markupName
  repeatItem (markupAttribute rules)
  let s ← get
  match s.rest with
  | '/' :: '>' :: _ =>
    set (s.advance 2)
    return {}
  | '>' :: _ =>
    set (s.advance 1)
    children rules (s.rest.length + 1)
    let closing ← if (← punctuator).startsWith ">" then pure "" else markupName
    rawChar '>'
    if closing = name then return {} else fail
  | _ => fail

end

end Script
end AppLint
