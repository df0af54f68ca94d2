import AppLint.Completeness

/-! The tracker as a JSON value for reports. -/
namespace AppLint

open Json (Value)

def Json.Value.strings (ss : List String) : Value := .array (ss.map .string)

/-- An object from fields in any order. -/
def Json.Value.ofFields (fields : List (String × Value)) : Value := .object (Keyed.ofList fields)

namespace SkippedCheck

def toJson (c : SkippedCheck) : Value :=
  .ofFields [("rule_name",.string c.rule),("check_name",.string c.check),
    ("reason",.string c.reason)]

end SkippedCheck

namespace RuleNotExecuted

def toJson (r : RuleNotExecuted) : Value :=
  .ofFields [("rule",.string r.rule),("reason",.string r.reason)]

end RuleNotExecuted

namespace PartialRule

def toJson (p : PartialRule) : Value :=
  .ofFields [("rule",.string p.rule),("checks",.strings p.checks),("reason",.string p.reason)]

end PartialRule

namespace Tracker

def toJson (t : Tracker) : Value :=
  .ofFields
    [("analysis_type",.string t.unit.tag),
     ("is_complete",.bool t.isComplete),
     ("files_analyzed",.strings t.filesAnalyzed),
     ("files_present",.strings (t.filesPresent.map (·.tag))),
     ("files_missing",.strings (t.filesMissing.map (·.tag))),
     ("rules_not_executed",.array (t.rulesNotExecuted.map (·.toJson))),
     ("rules_partially_executed",.array (t.rulesPartiallyExecuted.map (·.toJson))),
     ("skipped_checks",.array (t.skipped.map (·.toJson)))]

end Tracker
end AppLint
