import AppLint.Json.Value
import AppLint.Numeric.Shortest

/-! JSON values as text without white space. -/
namespace AppLint
namespace Json

/-- A character of a string: quotes, backslashes and control characters are escaped. -/
def escapeChar (c : Char) : List Char :=
  if c == '"' then ['\\','"']
  else if c == '\\' then ['\\','\\']
  else if c == '\n' then ['\\','n']
  else if c == '\r' then ['\\','r']
  else if c == '\t' then ['\\','t']
  else if c.toNat == 8 then ['\\','b']
  else if c.toNat == 12 then ['\\','f']
  else if c.toNat < 32 then ['\\','u'] ++ Binary64.padLeft 4 (Nat.toDigits 16 c.toNat)
  else [c]

def printString (s : String) : String :=
  String.ofList ('"' :: s.toList.flatMap escapeChar ++ ['"'])

def Number.print : Number → String
  | integer n => toString n
  | real x => String.ofList (x.render Binary64.signedExponent)

namespace Value

mutual

/-- The compact text of a value. -/
def print : Value → String
  | null => "null"
  | bool b => if b then "true" else "false"
  | number n => n.print
  | string s => printString s
  | array items => "[" ++ ",".intercalate (printItems items) ++ "]"
  | object fields => "\x7b" ++ ",".intercalate (printFields fields) ++ "\x7d"

def printItems : List Value → List String
  | [] => []
  | v :: rest => print v :: printItems rest

def printFields : List (String × Value) → List String
  | [] => []
  | (name,v) :: rest => (printString name ++ ":" ++ print v) :: printFields rest

end

end Value
end Json
end AppLint
