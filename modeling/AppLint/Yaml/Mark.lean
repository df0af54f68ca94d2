/-! Places in YAML texts, and errors about them. -/
namespace AppLint
namespace Yaml

/-- A place by its index, line and column, all in characters from 0. -/
structure Mark where
  index : Nat := 0
  line : Nat := 0
  column : Nat := 0
deriving DecidableEq, Repr, Inhabited

namespace Mark

/-- The very start is left out where places are named. -/
def isStart (m : Mark) : Bool := m.line == 0 && m.column == 0

def text (m : Mark) : String :=
  "line " ++ toString (m.line + 1) ++ " column " ++ toString (m.column + 1)

end Mark

/-- Why a text is not YAML: the problem and where it was met, and what was being read. -/
structure SyntaxError where
  problem : String
  mark : Mark := {}
  /-- The byte at which a forbidden character stands. -/
  offset : Nat := 0
  context : Option (String × Mark) := none
deriving DecidableEq, Repr

namespace SyntaxError

def message (e : SyntaxError) : String :=
  let place :=
    if !e.mark.isStart then " at " ++ e.mark.text
    else if e.offset != 0 then " at position " ++ toString e.offset
    else ""
  let context := match e.context with
    | none => ""
    | some (what,m) =>
      ", " ++ what ++
        if !m.isStart && (m.line != e.mark.line || m.column != e.mark.column) then " at " ++ m.text
        else ""
  e.problem ++ place ++ context

end SyntaxError
end Yaml
end AppLint
