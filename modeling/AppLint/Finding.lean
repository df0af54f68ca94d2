import AppLint.Text.Blank
import AppLint.Text.Case

/-! What rules report. -/
namespace AppLint

inductive Severity where
  | error
  | warning
  | info
deriving DecidableEq, Repr, Inhabited

namespace Severity

def all : List Severity := [error,warning,info]

def name : Severity → String
  | error => "error"
  | warning => "warning"
  | info => "info"

/-- The severity of that name, up to case and white space around it; "warn" is short for "warning". -/
def parse? (s : String) : Option Severity :=
  let key := String.ofList (Text.lower (Text.trim s.toList))
  if key = "error" then some error
  else if key = "warning" || key = "warn" then some warning
  else if key = "info" then some info
  else none

/-- What is said about a text that names no severity. -/
def unknownMessage (s : String) : String := "unknown severity: " ++ s

end Severity

/-- One reported violation of a rule; line 0 means that no line can be pointed at. -/
structure Finding where
  ruleId : String
  severity : Severity
  message : String
  path : String := ""
  line : Nat := 0
deriving DecidableEq, Repr, Inhabited

namespace Finding

/-- The order of reports: by path, rule, line and message. -/
def le (a b : Finding) : Bool :=
  if a.path ≠ b.path then a.path < b.path
  else if a.ruleId ≠ b.ruleId then a.ruleId < b.ruleId
  else if a.line ≠ b.line then a.line < b.line
  else !(b.message < a.message)

/-- Findings by path, rule, line and message; equals keep their order. -/
def sort (findings : List Finding) : List Finding := findings.mergeSort le

end Finding
end AppLint
