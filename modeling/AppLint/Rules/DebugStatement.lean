import AppLint.Analysis
import AppLint.Project
import AppLint.Text.Word

/-! Scripts hold no statements for debugging. -/
namespace AppLint
namespace DebugStatement

def id : String := "script-debug-statement"

def description : String := "Scripts do not ship console logging or debugger statements"

def severity : Severity := .info

def isComment (line : List Char) : Bool := "//".toList.isPrefixOf (Text.trimStart line)

/-- The line is a debugger statement, with or without a semicolon. -/
def isDebugger (line : List Char) : Bool :=
  match "debugger".toList.isPrefixOf? (Text.trimStart line) with
  | some rest =>
    match Text.trimStart rest with
    | [] => true
    | ';' :: rest => (Text.trimStart rest).isEmpty
    | _ => false
  | none => false

def methods : List String := ["log","debug","trace","dir"]

def opensCall (s : List Char) : Bool := (Text.trimStart s).head? == some '('

/-- The method that is called, if a call of one starts here. -/
def callAt? (s : List Char) : Option String :=
  match "console".toList.isPrefixOf? s with
  | some rest =>
    match Text.trimStart rest with
    | '.' :: rest =>
      methods.find? fun method =>
        (method.toList.isPrefixOf? (Text.trimStart rest)).any opensCall
    | _ => none
  | none => none

/-- The method of the first call in a line. A word of which a call would be only the end is none. -/
def call? (before : Option Char) : List Char → Option String
  | [] => none
  | c :: s =>
    match if before.any Text.isWord then none else callAt? (c :: s) with
    | some method => some method
    | none => call? (some c) s

def message? (line : List Char) : Option String :=
  if isComment line then none
  else if isDebugger line then some "debugger statement"
  else (call? none line).map fun method => "console." ++ method ++ " call"

def finding (s : ScriptDocument) (line : Nat) (message : String) : Finding where
  ruleId := id
  severity := severity
  message := message
  path := s.path
  line := line

def check (s : ScriptDocument) : List Finding :=
  s.lines.filterMap fun (n,line) => (message? line).map (finding s n)

def analyze (p : Project) : Analysis := .found (p.scripts.values.flatMap check)

end DebugStatement
end AppLint
