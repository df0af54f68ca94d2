import AppLint.Completeness
import AppLint.Finding

/-! What comes of running a rule. -/
namespace AppLint

/-- How something that a rule does goes wrong. -/
inductive RuleFailure where
  /-- An error with its causes, the outermost first. -/
  | error (causes : List String)
  /-- A crash with its message, if that is a text. -/
  | crash (payload : Option String)
deriving DecidableEq, Repr

namespace RuleFailure

def text : RuleFailure → String
  | error causes => ": ".intercalate causes
  | crash payload => payload.getD "unknown panic payload"

end RuleFailure

/-- The checks that a rule leaves out, and its findings unless it fails. -/
structure Analysis where
  skipped : List SkippedCheck
  result : Except RuleFailure (List Finding)

namespace Analysis

/-- All checks were made. -/
def found (findings : List Finding) : Analysis := ⟨[],.ok findings⟩

/-- Nothing could be checked. -/
def skip (rule check reason : String) : Analysis := ⟨[⟨rule,check,reason⟩],.ok []⟩

/-- A rule that fails finds nothing. -/
def findings (a : Analysis) : List Finding :=
  match a.result with
  | .ok findings => findings
  | .error _ => []

@[simp] theorem findings_found (fs : List Finding) : (found fs).findings = fs := rfl

@[simp] theorem skipped_found (fs : List Finding) : (found fs).skipped = [] := rfl

@[simp] theorem findings_skip (rule check reason : String) :
    (skip rule check reason).findings = [] := rfl

@[simp] theorem skipped_skip (rule check reason : String) :
    (skip rule check reason).skipped = [⟨rule,check,reason⟩] := rfl

end Analysis
end AppLint
