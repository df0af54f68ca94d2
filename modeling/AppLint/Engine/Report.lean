import AppLint.Engine

/-! Running rules on a project. -/
namespace AppLint

namespace ActiveRule

/-- The findings of an analysis, with the severity that is configured. -/
def stamp (r : ActiveRule) (a : Analysis) : List Finding :=
  a.findings.map fun f => { f with severity := r.severity }

/-- What the rule finds. -/
def findings (r : ActiveRule) (p : Project) : List Finding := r.stamp (r.rule.analyze p)

def outcomeLog (r : ActiveRule) : Except RuleFailure (List Finding) → LogRecord
  | .ok found =>
    ⟨.debug,"rule " ++ r.id ++ " produced " ++ toString found.length ++ " findings"⟩
  | .error f =>
    let verb := match f with
      | .error _ => "failed"
      | .crash _ => "panicked"
    ⟨.error,"rule " ++ Text.quoted r.id ++ " " ++ verb ++ ": " ++ f.text⟩

/-- Run the rule; the project keeps note of the checks that are left out. -/
def run (r : ActiveRule) (p : Project) : Logged (List Finding × Project) := do
  Logged.debug ("running rule " ++ r.id)
  let a := r.rule.analyze p
  let tracker ← p.tracker.skipLogged a.skipped
  let () ← (⟨(),[r.outcomeLog a.result]⟩ : Logged Unit)
  return (r.stamp a,{ p with tracker := tracker })

end ActiveRule

namespace Engine

/-- Up to this many rules run one after the other. -/
def serialThreshold : Nat := 5

/-- More rules than that run side by side, at most this many at a time. -/
def maxWorkers : Nat := 8

def isParallel (e : Engine) : Bool := serialThreshold < e.rules.length

/-- Run rules one after the other. -/
def runAll : List ActiveRule → Project → Logged (List Finding × Project)
  | [], p => pure ([],p)
  | r :: rest, p => do
    let (found,p) ← r.run p
    let (more,p) ← runAll rest p
    return (found ++ more,p)

/-- Run all rules. Of rules that run side by side, `order` is the order in which they end. -/
def run (e : Engine) (order : List ActiveRule) (p : Project) : Logged (List Finding × Project) := do
  let n := e.rules.length
  if e.isParallel then
    Logged.debug ("running " ++ toString n ++ " rules on " ++ toString (min n maxWorkers) ++
      " workers")
    runAll order p
  else
    Logged.debug ("running " ++ toString n ++ " rules serially")
    runAll e.rules p

end Engine

/-- The results of a run. -/
structure Report where
  findings : List Finding
  fileCounts : List (FileType × Nat)
  rulesRun : Nat
  parseErrors : List ParseError
  completeness : Tracker

namespace Engine

/-- Run all rules and report; the project keeps note of the checks that were left out. -/
def analyze (e : Engine) (order : List ActiveRule) (p : Project) : Logged (Report × Project) := do
  let (findings,p) ← e.run order p
  let counts := FileType.all.map fun type => (type,p.fileCount type)
  return (⟨findings,counts,e.rules.length,p.parseErrors,p.tracker⟩,p)

end Engine
end AppLint
