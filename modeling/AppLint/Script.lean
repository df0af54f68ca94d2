import AppLint.Script.Statement
import AppLint.Template
import AppLint.Text.Search

/-! Script documents with their template literals. -/
namespace AppLint

/-- A template literal of a script, split into its nodes. -/
structure TemplateLiteral where
  line : Nat
  raw : String
  nodes : List TemplateNode
deriving DecidableEq, Repr

structure ScriptDocument where
  path : String
  source : String
  templates : List TemplateLiteral
deriving DecidableEq, Repr

/-- A script that is not well-formed, and where. -/
structure ScriptError where
  place : Script.Place
deriving DecidableEq, Repr

def ScriptError.message (e : ScriptError) : String :=
  "syntax error at line " ++ toString e.place.line ++ ", column " ++ toString e.place.column

namespace ScriptDocument

def parse (path source : String) : Except ScriptError ScriptDocument :=
  match Script.literals source with
  | .ok literals =>
    .ok ⟨path,source,literals.map fun l => ⟨l.line,l.raw,Template.parse l.raw⟩⟩
  | .error place => .error ⟨place⟩

/-- The lines with their numbers from 1. -/
def lines (s : ScriptDocument) : List (Nat × List Char) :=
  (Text.lines s.source.toList).zipIdx.map fun (line,i) => (i + 1,line)

end ScriptDocument
end AppLint
