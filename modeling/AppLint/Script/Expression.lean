import AppLint.Script.Token

/-! The expressions of scripts, as far as it takes to tell whether a script is well-formed. Each rule
gets the rules below it as an argument. -/
namespace AppLint
namespace Script

/-- What an expression may also be read as. -/
structure Shape where
  /-- A target of an assignment. -/
  target : Bool := false
  /-- An assignment, which as a parameter is one with a default. -/
  assigned : Bool := false
  /-- Only a pattern: it has a default where an expression has none. -/
  patternOnly : Bool := false

/-- The forms that can enclose each other. -/
inductive Goal where
  | statement
  /-- An expression without a comma; `noIn` if the operator `in` would end it. -/
  | expression (noIn : Bool)
  /-- An operand with its prefix and postfix operators. -/
  | unary
  /-- The target of a declaration or a parameter. -/
  | pattern
  /-- Statements between braces. -/
  | block
  /-- An element of markup. -/
  | element

abbrev Rules := Goal → Parser Shape

def binaryOperators : List String :=
  ["&&","||","??","+","-","*","/","%","**","<","<=",">",">=","==","!=","===","!==",
   "&","|","^","<<",">>",">>>"]

def updateOperators : List String :=
  ["+=","-=","*=","/=","%=","**=","<<=",">>=",">>>=","&=","|=","^=","&&=","||=","??="]

section
variable (rules : Rules)

/-- An expression that is not only a pattern. -/
def plain (noIn : Bool) : Parser Unit := do
  if (← rules (.expression noIn)).patternOnly then fail

/-- Expressions with commas between them. -/
def expressions (noIn : Bool) : Parser Unit := do
  plain rules noIn
  repeatItem do
    if ← accept "," then
      plain rules noIn
      return true
    else return false

def parenthesized : Parser Unit := do
  expect "("
  expressions rules false
  expect ")"

/-- A default after an equals sign, if there is one. -/
def initializer (noIn : Bool) : Parser Bool := do
  if ← accept "=" then
    plain rules noIn
    return true
  else return false

/-- A pattern with a default, if it has one. -/
def parameter : Parser Unit := do
  discard (rules .pattern)
  discard (initializer rules false)

/-- Items with commas between them up to `close`; any of them may be left out. -/
def listUpTo (close : String) (item : Parser Unit) : Parser Unit := do
  repeatItem do
    if (← punctuator) = close then return false
    else if ← accept "," then return true
    else
      item
      if (← punctuator) = close then return false
      else
        expect ","
        return true
  expect close

/-- Parameters with commas between them, between brackets. -/
def parameters : Parser Unit := do
  expect "("
  repeatItem do
    if (← punctuator) = ")" then return false
    else
      parameter rules
      accept ","
  expect ")"

def functionRest : Parser Unit := do
  parameters rules
  discard (rules .block)

/-- A function from its keyword on; without `named` it may lack a name. -/
def function (named : Bool) : Parser Unit := do
  expectWord "function"
  discard (accept "*")
  if named then identifier
  else if (← punctuator) ≠ "(" then identifier
  functionRest rules

def arguments : Parser Unit := do
  expect "("
  listUpTo ")" do
    discard (accept "...")
    plain rules false

/-- The text of a template literal after the opening backtick. -/
def templateRest : Nat → Parser Unit
  | 0 => fail
  | fuel + 1 => do
    let s ← get
    match s.rest with
    | [] => fail
    | '`' :: _ => set (s.advance 1)
    | '\\' :: rest =>
      match escapeLength? rest with
      | some n =>
        set (s.advance (n + 1))
        templateRest fuel
      | none => fail
    | '$' :: '\x7b' :: _ =>
      set ({ s with depth := s.depth + 1 }.take 2)
      expressions rules false
      let s ← get
      match s.rest with
      | '\x7d' :: _ =>
        set { s.advance 1 with depth := s.depth - 1 }
        templateRest fuel
      | _ => fail
    | c :: _ =>
      if c.toNat == 0 then fail
      else
        set (s.advance 1)
        templateRest fuel

/-- A template literal, which is noted before those inside it. -/
def template : Parser Unit := do
  let start ← get
  set { start.advance 1 with literals := [] }
  templateRest rules (start.rest.length + 1)
  let stop ← get
  let raw := String.ofList (start.rest.take (start.rest.length - stop.rest.length))
  let literal : Literal := ⟨start.line,raw⟩
  set ({ stop with literals := stop.literals ++ literal :: start.literals }.take 0)

/-- The name of a property. -/
def propertyName : Parser Unit := do
  let s ← get
  match s.rest with
  | '[' :: _ =>
    expect "["
    plain rules false
    expect "]"
  | '"' :: _ => stringLiteral
  | '\'' :: _ => stringLiteral
  | '#' :: rest =>
    let w := wordAt rest
    if w = "" then fail else set (s.take (w.length + 1))
  | c :: rest =>
    if isDecimal c || (c == '.' && rest.head?.any isDecimal) then numberLiteral else identifier
  | [] => fail

/-- Words that may stand before the name of a method, unless they are the name. -/
def modifier (names : List String) : Parser Bool := do
  let s ← get
  let w := wordAt s.rest
  if w ∈ names then
    let next := punctuatorAt (s.take w.length).rest
    if next ∈ ["(",":",",","\x7d","=",";"] || (s.take w.length).rest.isEmpty then return false
    else
      takeWord w
      return true
  else return false

def modifiers : Parser Bool := do
  let isStatic ← modifier ["static"]
  let isAsync ← modifier ["async"]
  let isStar ← accept "*"
  let isAccessor ← if isStar then pure false else modifier ["get","set"]
  return isStatic || isAsync || isStar || isAccessor

/-- A field of an object: a shorthand, a pair, a method or a spread. -/
def property : Parser Shape := do
  if ← accept "..." then
    let shape ← rules (.expression false)
    return { target := shape.target, patternOnly := shape.patternOnly }
  else
    let modified ← modifiers
    let w ← word
    propertyName rules
    if (← punctuator) = "(" then
      functionRest rules
      return {}
    else if modified then fail
    else if ← accept ":" then
      let shape ← rules (.expression false)
      return { target := shape.target || shape.assigned, patternOnly := shape.patternOnly }
    else if w = "" then fail
    else if ← accept "=" then
      plain rules false
      return { target := true, patternOnly := true }
    else return { target := true }

/-- Items up to `close`, any of which may be left out, and what they are together. -/
def literalItems (close : String) (item : Parser Shape) (done : Shape) : Nat → Parser Shape
  | 0 => fail
  | fuel + 1 => do
    if ← accept close then return done
    else if ← accept "," then literalItems close item done fuel
    else
      let shape ← item
      let done : Shape :=
        { target := done.target && (shape.target || shape.assigned)
          patternOnly := done.patternOnly || shape.patternOnly }
      if (← punctuator) ≠ close then expect ","
      literalItems close item done fuel

def object : Parser Shape := do
  expect "\x7b"
  literalItems "\x7d" (property rules) { target := true } ((← get).rest.length + 1)

def array : Parser Shape := do
  expect "["
  literalItems "]" (do discard (accept "..."); rules (.expression false)) { target := true }
    ((← get).rest.length + 1)

def arrowBody (noIn : Bool) : Parser Shape := do
  if (← punctuator) = "\x7b" then orElse (discard (rules .block)) (plain rules noIn)
  else plain rules noIn
  return {}

/-- What stands between brackets so far. -/
structure Group where
  count : Nat := 0
  /-- All of it may be parameters. -/
  parameters : Bool := true
  /-- All of it may be expressions. -/
  expressions : Bool := true

def groupItems (g : Group) : Nat → Parser Group
  | 0 => fail
  | fuel + 1 => do
    if (← punctuator) = ")" then return { g with expressions := false }
    else
      let g ← if ← accept "..." then do
          parameter rules
          pure { g with count := g.count + 1, expressions := false }
        else do
          let shape ← rules (.expression false)
          pure
            { count := g.count + 1
              parameters := g.parameters && (shape.target || shape.assigned)
              expressions := g.expressions && !shape.patternOnly }
      if ← accept "," then groupItems g fuel else return g

/-- Expressions in brackets, or the parameters of an arrow function. -/
def group : Parser Shape := do
  expect "("
  let g ← groupItems rules {} ((← get).rest.length + 1)
  expect ")"
  if (← punctuator) = "=>" && g.parameters then
    takePunctuator "=>"
    arrowBody rules false
  else if g.expressions && g.count != 0 then return { target := true }
  else fail

def decorator : Parser Bool := do
  if ← accept "@" then
    if (← punctuator) = "(" then parenthesized rules
    else
      identifier
      repeatItem do
        if ← accept "." then
          identifier
          return true
        else return false
      if (← punctuator) = "(" then arguments rules
    return true
  else return false

def decorators : Parser Unit := repeatItem (decorator rules)

/-- A statement may end here: at a semicolon, before a closing brace, at the end, or where a line ends
and what follows does not continue it. -/
def semicolon : Parser Unit := do
  if ← accept ";" then return ()
  else
    let s ← get
    if s.rest.isEmpty || s.rest.head? == some '\x7d' then return ()
    else if s.newline then
      match s.rest with
      | '.' :: d :: _ => if isDecimal d then return () else fail
      | '+' :: c :: _ => if c == '+' then return () else fail
      | '-' :: c :: _ => if c == '-' then return () else fail
      | '!' :: c :: _ => if c != '=' then return () else fail
      | c :: _ =>
        if "`,:;*%><=?^|&/.([".toList.contains c then fail
        else if wordAt s.rest ∈ ["in","instanceof"] then fail
        else return ()
      | [] => return ()
    else fail

/-- A member of a class. -/
def member : Parser Bool := do
  if (← punctuator) = "\x7d" then return false
  else if ← accept ";" then return true
  else
    decorators rules
    let s ← get
    let w := wordAt s.rest
    if w = "static" && punctuatorAt (s.take w.length).rest = "\x7b" then
      takeWord w
      discard (rules .block)
      return true
    else
      discard modifiers
      propertyName rules
      if (← punctuator) = "(" then functionRest rules
      else
        discard (initializer rules false)
        semicolon
      return true

/-- A class from its keyword on; without `named` it may lack a name. -/
def classFrom (named : Bool) : Parser Unit := do
  expectWord "class"
  if named then identifier
  else if (← word) ≠ "" && (← word) ≠ "extends" then identifier
  if ← acceptWord "extends" then plain rules false
  expect "\x7b"
  repeatItem (member rules)
  expect "\x7d"

def constructorCall : Parser Shape := do
  expectWord "new"
  if ← accept "." then
    identifier
    return {}
  else
    discard (rules .unary)
    return {}

/-- A word where an expression starts. -/
def wordExpression (w : String) : Parser Shape := do
  let s ← get
  let next := s.take w.length
  if w = "function" then
    function rules false
    return {}
  else if w = "class" then
    classFrom rules false
    return {}
  else if w = "new" then constructorCall rules
  else if w = "async" && wordAt next.rest = "function" && !next.newline then
    takeWord w
    function rules false
    return {}
  else if w = "async" && wordAt next.rest ≠ "" && !next.newline &&
      punctuatorAt (next.take (wordAt next.rest).length).rest = "=>" then
    takeWord w
    identifier
    takePunctuator "=>"
    arrowBody rules false
  else if w = "async" && punctuatorAt next.rest = "(" then
    let arrow : Parser Shape := do
      takeWord w
      parameters rules
      expect "=>"
      arrowBody rules false
    orElse arrow (do takeWord w; return { target := true })
  else if w = "import" then
    takeWord w
    if ← accept "." then
      identifier
      return {}
    else if (← punctuator) = "(" then return {}
    else fail
  else
    takeWord w
    if ← accept "=>" then arrowBody rules false
    else return { target := w ∉ ["this","super","true","false","null"] }

/-- An operand without prefix and postfix operators. -/
def primary : Parser Shape := do
  let s ← get
  match s.rest with
  | '(' :: _ => group rules
  | '[' :: _ => array rules
  | '\x7b' :: _ => object rules
  | '`' :: _ =>
    template rules
    return {}
  | '"' :: _ =>
    stringLiteral
    return {}
  | '\'' :: _ =>
    stringLiteral
    return {}
  | '/' :: _ =>
    regexLiteral
    return {}
  | '<' :: _ =>
    discard (rules .element)
    modify (Source.take 0)
    return {}
  | '@' :: _ =>
    decorators rules
    classFrom rules false
    return {}
  | '#' :: rest =>
    let w := wordAt rest
    if w = "" then fail
    else
      set (s.take (w.length + 1))
      if (← word) = "in" then return {} else fail
  | c :: rest =>
    if isDecimal c || (c == '.' && rest.head?.any isDecimal) then
      numberLiteral
      return {}
    else
      let w := wordAt s.rest
      if w = "" then fail else wordExpression rules w
  | [] => fail

/-- The name after a point. -/
def memberName : Parser Unit := do
  let s ← get
  match s.rest with
  | '#' :: rest =>
    let w := wordAt rest
    if w = "" then fail else set (s.take (w.length + 1))
  | _ => identifier

/-- Property accesses, calls and templates after an operand. -/
def suffixes (shape : Shape) : Nat → Parser Shape
  | 0 => return shape
  | fuel + 1 => do
    let p ← punctuator
    if p = "." then
      takePunctuator p
      memberName
      suffixes { target := true } fuel
    else if p = "?." then
      takePunctuator p
      let q ← punctuator
      if q = "(" then
        arguments rules
        suffixes {} fuel
      else if q = "[" then
        expect "["
        expressions rules false
        expect "]"
        suffixes { target := true } fuel
      else
        memberName
        suffixes { target := true } fuel
    else if p = "[" then
      takePunctuator p
      expressions rules false
      expect "]"
      suffixes { target := true } fuel
    else if p = "(" then
      arguments rules
      suffixes {} fuel
    else if p = "`" then
      template rules
      suffixes {} fuel
    else return shape

/-- An expression starts here, on the same line. -/
def operandFollows : Parser Bool := do
  let s ← get
  if s.newline then return false
  else
    let p := punctuatorAt s.rest
    return !s.rest.isEmpty && p ∉ [")","]","\x7d",",",";",":","=","=>","?","."] &&
      wordAt s.rest ∉ ["in","of"]

def unary : Parser Shape := do
  let p ← punctuator
  let w ← word
  if p ∈ ["!","~","+","-","++","--"] then
    takePunctuator p
    discard (rules .unary)
    return {}
  else if w ∈ ["typeof","void","delete","await"] then
    takeWord w
    discard (rules .unary)
    return {}
  else if w = "yield" then
    takeWord w
    if ← accept "*" then plain rules false
    else if ← operandFollows then plain rules false
    return {}
  else
    let shape ← primary rules
    let suffixed ← suffixes rules shape ((← get).rest.length + 1)
    let q ← punctuator
    if (q = "++" || q = "--") && !(← newlineBefore) then
      takePunctuator q
      return {}
    else return suffixed

/-- What follows an operand: more operators and operands, a choice, or an assignment. -/
def chain (noIn : Bool) (first : Bool) (shape : Shape) : Nat → Parser Shape
  | 0 => return shape
  | fuel + 1 => do
    let p ← punctuator
    let w ← word
    if p ∈ binaryOperators then
      if shape.patternOnly then fail
      takePunctuator p
      chain noIn false (← rules .unary) fuel
    else if (w = "in" && !noIn) || w = "instanceof" then
      if shape.patternOnly then fail
      takeWord w
      chain noIn false (← rules .unary) fuel
    else if p = "?" then
      if shape.patternOnly then fail
      takePunctuator p
      plain rules false
      expect ":"
      plain rules noIn
      return {}
    else if p = "=" && shape.target then
      takePunctuator p
      plain rules noIn
      return { assigned := first }
    else if p ∈ updateOperators && shape.target && !shape.patternOnly then
      takePunctuator p
      plain rules noIn
      return {}
    else if first then return shape
    else return { patternOnly := shape.patternOnly }

def expression (noIn : Bool) : Parser Shape := do
  let shape ← rules .unary
  chain rules noIn true shape ((← get).rest.length + 1)

/-- A pattern: names, possibly of properties, in lists and objects. -/
def pattern : Parser Shape := do
  discard (accept "...")
  let p ← punctuator
  if p = "[" then
    takePunctuator p
    listUpTo "]" (parameter rules)
  else if p = "\x7b" then
    takePunctuator p
    listUpTo "\x7d" do
      if ← accept "..." then discard (rules .pattern)
      else
        let w ← word
        propertyName rules
        if ← accept ":" then parameter rules
        else if w = "" then fail
        else discard (initializer rules false)
  else identifier
  return {}

end

end Script
end AppLint
