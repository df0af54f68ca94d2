import AppLint.Script.Markup

/-! The statements of scripts. -/
namespace AppLint
namespace Script

section
variable (rules : Rules)

def expressionStatement : Parser Unit := do
  expressions rules false
  semicolon

/-- A declared name or pattern with its initial value. A template literal that never ends is to blame
for itself, unless it leaves brackets open. -/
def declarator (noIn : Bool) : Parser Unit := do
  discard (rules .pattern)
  if ← accept "=" then
    let s ← get
    match s.rest with
    | '`' :: _ =>
      match template rules s with
      | (.ok _,_) => plain rules noIn
      | (.error _,_) => throw (if s.depth == 0 then some s.place else none)
    | _ => plain rules noIn

def declarators (noIn : Bool) : Parser Unit := do
  declarator rules noIn
  repeatItem do
    if ← accept "," then
      declarator rules noIn
      return true
    else return false

/-- A declaration of variables; `let` needs a name or pattern behind it. -/
def variableNames : Parser Unit := do
  identifier
  declarators rules false
  semicolon

def functionDeclaration : Parser Unit := do
  discard (acceptWord "async")
  function rules true

def classDeclaration : Parser Unit := do
  decorators rules
  classFrom rules true

def isDeclarationStart (s : Source) : Bool :=
  let w := wordAt s.rest
  w ∈ ["var","let","const","function","class"] || s.rest.head? == some '@' ||
    (w = "async" && wordAt (s.take 5).rest = "function" && !(s.take 5).newline)

def declaration : Parser Unit := do
  let w ← word
  if w ∈ ["var","let","const"] then variableNames rules
  else if w = "class" || w = "" then classDeclaration rules
  else functionDeclaration rules

def body : Parser Unit := discard (rules .statement)

def ifStatement : Parser Unit := do
  takeWord "if"
  parenthesized rules
  body rules
  if ← acceptWord "else" then body rules

/-- The rest of the head of a loop over the members of something. -/
def overMembers : Parser Bool := do
  let isOver ← do if ← acceptWord "of" then pure true else acceptWord "in"
  if isOver then expressions rules false
  return isOver

/-- The rest of the head of a counting loop, after its first part. -/
def counting : Parser Unit := do
  expect ";"
  if (← punctuator) ≠ ";" then expressions rules false
  expect ";"
  if (← punctuator) ≠ ")" then expressions rules false

def forHead : Parser Unit := do
  let w ← word
  if (← punctuator) = ";" then counting rules
  else
    let declared : Parser Unit := do
      takeWord w
      declarator rules true
      if !(← overMembers rules) then
        repeatItem do
          if ← accept "," then
            declarator rules true
            return true
          else return false
        counting rules
    let free : Parser Unit := do
      let shape ← rules (.expression true)
      if shape.target && ((← word) = "of" || (← word) = "in") then discard (overMembers rules)
      else if shape.patternOnly then fail
      else
        repeatItem do
          if ← accept "," then
            plain rules true
            return true
          else return false
        counting rules
    if w ∈ ["var","const"] then declared
    else if w = "let" then orElse declared free
    else free

def forStatement : Parser Unit := do
  takeWord "for"
  discard (acceptWord "await")
  expect "("
  forHead rules
  expect ")"
  body rules

def doStatement : Parser Unit := do
  takeWord "do"
  body rules
  expectWord "while"
  parenthesized rules
  discard (accept ";")

def clauseStatements : Parser Unit := repeatItem do
  if (← punctuator) = "\x7d" || (← word) = "case" || (← word) = "default" then return false
  else
    body rules
    return true

def switchStatement : Parser Unit := do
  takeWord "switch"
  parenthesized rules
  expect "\x7b"
  repeatItem do
    if ← acceptWord "case" then
      expressions rules false
      expect ":"
      clauseStatements rules
      return true
    else if ← acceptWord "default" then
      expect ":"
      clauseStatements rules
      return true
    else return false
  expect "\x7d"

def tryStatement : Parser Unit := do
  takeWord "try"
  discard (rules .block)
  if ← acceptWord "catch" then
    if ← accept "(" then
      discard (rules .pattern)
      expect ")"
    discard (rules .block)
  if ← acceptWord "finally" then discard (rules .block)

/-- `break` or `continue`, with a label on the same line. -/
def jump (w : String) : Parser Unit := do
  takeWord w
  if !(← newlineBefore) && (← word) ≠ "" then identifier
  semicolon

def returnStatement : Parser Unit := do
  takeWord "return"
  let s ← get
  if !s.newline && !s.rest.isEmpty && punctuatorAt s.rest ∉ [";","\x7d"] then
    expressions rules false
  semicolon

/-- A name of something imported or exported. -/
def moduleName : Parser Unit := do
  let p ← punctuator
  if p = "\"" || p = "'" then stringLiteral else identifier

def moduleSpecifiers : Parser Unit := do
  expect "\x7b"
  listUpTo "\x7d" do
    moduleName
    if ← acceptWord "as" then moduleName

def quotedString : Parser Unit := do
  let p ← punctuator
  if p = "\"" || p = "'" then stringLiteral else fail

def importAttributes : Parser Unit := do
  let w ← word
  if (w = "with" || w = "assert") && !(← newlineBefore) then
    takeWord w
    discard (object rules)

def fromClause : Parser Unit := do
  expectWord "from"
  quotedString
  importAttributes rules

def importStatement : Parser Unit := do
  takeWord "import"
  let p ← punctuator
  if p = "\"" || p = "'" then
    stringLiteral
    importAttributes rules
  else
    let names : Parser Unit := do
      if ← accept "*" then
        expectWord "as"
        identifier
      else moduleSpecifiers
    if p = "*" || p = "\x7b" then names
    else
      identifier
      if ← accept "," then names
    fromClause rules
  semicolon

def exportStatement : Parser Unit := do
  takeWord "export"
  if ← accept "*" then
    if ← acceptWord "as" then moduleName
    fromClause rules
    semicolon
  else if (← punctuator) = "\x7b" then
    moduleSpecifiers
    if (← word) = "from" then fromClause rules
    semicolon
  else if ← acceptWord "default" then
    let value : Parser Unit := do
      plain rules false
      semicolon
    if isDeclarationStart (← get) then orElse (declaration rules) value else value
  else if isDeclarationStart (← get) then declaration rules
  else fail

/-- A word with a colon behind it. -/
def isLabel (s : Source) (w : String) : Bool :=
  w ≠ "" && punctuatorAt (s.take w.length).rest = ":"

def statement : Parser Unit := do
  let s ← get
  let w := wordAt s.rest
  if ← accept ";" then return ()
  else if s.rest.head? == some '\x7b' then
    orElse (discard (rules .block)) (expressionStatement rules)
  else if s.rest.head? == some '@' then
    decorators rules
    if (← word) = "export" then exportStatement rules
    else classFrom rules true
  else if w = "if" then ifStatement rules
  else if w = "for" then forStatement rules
  else if w = "while" || w = "with" then
    takeWord w
    parenthesized rules
    body rules
  else if w = "do" then doStatement rules
  else if w = "switch" then switchStatement rules
  else if w = "try" then tryStatement rules
  else if w = "break" || w = "continue" then jump w
  else if w = "return" then returnStatement rules
  else if w = "throw" then
    takeWord w
    expressions rules false
    semicolon
  else if w = "debugger" then
    takeWord w
    semicolon
  else if w = "var" || w = "const" then variableNames rules
  else if w = "import" && punctuatorAt (s.take 6).rest ∉ ["(","."] then importStatement rules
  else if w = "export" then exportStatement rules
  else if isLabel s w then
    takeWord w
    expect ":"
    body rules
  else if isDeclarationStart s then orElse (declaration rules) (expressionStatement rules)
  else expressionStatement rules

def block : Parser Unit := do
  expect "\x7b"
  repeatItem do
    if (← atEnd) || (← punctuator) = "\x7d" then return false
    else
      body rules
      return true
  expect "\x7d"

end

/-- The rule of a form. -/
def rule (rules : Rules) : Goal → Parser Shape
  | .statement => do statement rules; return {}
  | .expression noIn => expression rules noIn
  | .unary => unary rules
  | .pattern => pattern rules
  | .block => do block rules; return {}
  | .element => element rules

/-- The rules, nested up to a depth. -/
def rulesTo : Nat → Rules
  | 0 => fun _ => fail
  | depth + 1 => rule (rulesTo depth)

/-- All statements of a script; the place of the first that is none. -/
def statements (rules : Rules) : Nat → Source → Except Place (List Literal)
  | 0, s => .error s.place
  | fuel + 1, s =>
    if s.rest.isEmpty then .ok s.literals.reverse
    else match rules .statement s with
      | (.ok _,s') => if s'.rest.length < s.rest.length then statements rules fuel s' else .error s.place
      | (.error (some place),_) => .error place
      | (.error none,_) => .error s.place

/-- The template literals of a well-formed script, in the order of their starts. -/
def literals (text : String) : Except Place (List Literal) :=
  let s := Source.start text
  statements (rulesTo (8 * s.rest.length + 16)) (s.rest.length + 1) s

end Script
end AppLint
