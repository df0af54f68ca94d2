import AppLint.FileType
import AppLint.Json.Value
import AppLint.Log

/-! How much of an application an analysis has seen: which kinds of files were there, and which checks
had to be left out for want of others. -/
namespace AppLint

/-- A check that a rule could not perform. -/
structure SkippedCheck where
  rule : String
  check : String
  reason : String
deriving DecidableEq, Repr

/-- A rule that cannot run at all without a kind of file. -/
structure RuleNotExecuted where
  rule : String
  reason : String
deriving DecidableEq, Repr

/-- The checks that a rule left out, with the reason of the first. -/
structure PartialRule where
  rule : String
  checks : List String
  reason : String
deriving DecidableEq, Repr

/-- Which files were analysed and which checks were skipped. -/
structure Tracker where
  unit : AnalysisUnit
  filesAnalyzed : List String := []
  marked : List FileType := []
  skipped : List SkippedCheck := []
deriving Repr

namespace Tracker

/-- Note a file that was tried, whether or not it could be read. -/
def recordFile (path : String) (t : Tracker) : Tracker :=
  { t with filesAnalyzed := t.filesAnalyzed ++ [path] }

/-- Note that a file of this type was read. -/
def markPresent (type : FileType) (t : Tracker) : Tracker :=
  if type ∈ t.marked then t else { t with marked := type :: t.marked }

/-- Note a skipped check; a check that is already noted is not noted twice. -/
def skip (check : SkippedCheck) (t : Tracker) : Tracker :=
  if check ∈ t.skipped then t else { t with skipped := t.skipped ++ [check] }

def skipAll (checks : List SkippedCheck) (t : Tracker) : Tracker :=
  checks.foldl (fun t check => t.skip check) t

/-- The log record of a skipped check, if it was not noted before. -/
def skipLog (check : SkippedCheck) (t : Tracker) : List LogRecord :=
  if check ∈ t.skipped then []
  else [⟨.debug,check.rule ++ ": skipped check " ++ check.check ++ " (" ++ check.reason ++ ")"⟩]

/-- Note skipped checks one after the other, with their log records. -/
def skipLogged (t : Tracker) : List SkippedCheck → Logged Tracker
  | [] => pure t
  | check :: rest => do
    let () ← (⟨(),t.skipLog check⟩ : Logged Unit)
    skipLogged (t.skip check) rest

def has (type : FileType) (t : Tracker) : Bool := t.marked.contains type

def filesPresent (t : Tracker) : List FileType := FileType.all.filter fun type => t.has type

def filesMissing (t : Tracker) : List FileType := FileType.all.filter fun type => !t.has type

/-- Both companion documents were there. -/
def isComplete (t : Tracker) : Bool := t.has .dataProvider && t.has .site

/-- Rules that need a kind of file to run at all, with what is said if it is missing. -/
def requirements : List (String × FileType × String) :=
  [("site-navigation",.site,
    "SITE file not supplied: home page and navigation targets cannot be verified")]

def rulesNotExecuted (t : Tracker) : List RuleNotExecuted :=
  (requirements.filter fun (_,type,_) => !t.has type).map fun (rule,_,reason) => ⟨rule,reason⟩

/-- Add a skipped check to the group of its rule. -/
def addToGroup (check : SkippedCheck) : List PartialRule → List PartialRule
  | [] => [⟨check.rule,[check.check],check.reason⟩]
  | group :: rest =>
    if group.rule = check.rule then
      (if check.check ∈ group.checks then group
        else { group with checks := group.checks ++ [check.check] }) :: rest
    else group :: addToGroup check rest

/-- Skipped checks by rule, in the order of each rule's first; rules that did not run at all are left
out. -/
def rulesPartiallyExecuted (t : Tracker) : List PartialRule :=
  let notExecuted := t.rulesNotExecuted.map (·.rule)
  (t.skipped.filter fun check => check.rule ∉ notExecuted).foldl
    (fun groups check => addToGroup check groups) []

end Tracker
end AppLint
