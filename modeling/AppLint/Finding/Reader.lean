import AppLint.Finding
import AppLint.Json.Decode

/-! Findings from JSON text. -/
namespace AppLint
namespace Finding

open Json (Reader)
open Json.Reader

/-- The fields of a finding that are read so far. -/
structure Draft where
  ruleId : Option String := none
  severity : Option Severity := none
  message : Option String := none
  path : Option String := none
  line : Option Nat := none

def readSeverity (depth : Nat) : Reader Severity := do
  let name ← unitVariant depth (Severity.all.map (·.name))
  match Severity.all.find? (·.name = name) with
  | some s => return s
  | none => mismatch (.unknownVariant name (Severity.all.map (·.name)))

/-- A field that must not have come before. -/
def once {α : Type} (name : String) (old : Option α) (r : Reader α) : Reader (Option α) := do
  if old.isSome then mismatch (.duplicateField name)
  else
    colon
    return some (← r)

def required {α : Type} (name : String) : Option α → Reader α
  | some a => return a
  | none => mismatch (.missingField name)

def readField (depth : Nat) (name : String) (d : Draft) : Reader Draft := do
  if name = "rule_id" then return { d with ruleId := ← once name d.ruleId (text "a string") }
  else if name = "severity" then
    return { d with severity := ← once name d.severity (readSeverity depth) }
  else if name = "message" then return { d with message := ← once name d.message (text "a string") }
  else if name = "file_path" then return { d with path := ← once name d.path (text "a string") }
  else if name = "line" then return { d with line := ← once name d.line natural }
  else
    colon
    skip
    return d

def readFields (depth : Nat) (first : Bool) (d : Draft) : Nat → Reader Draft
  | 0 => return d
  | fuel + 1 => do
    match ← anotherField first with
    | some name =>
      let d ← readField depth name d
      readFields depth false d fuel
    | none => return d

def finishDraft (d : Draft) : Reader Finding := do
  return { ruleId := ← required "rule_id" d.ruleId
           severity := ← required "severity" d.severity
           message := ← required "message" d.message
           path := ← required "file_path" d.path
           line := ← required "line" d.line }

/-- The item at an index of a finding that is written as a list. -/
def element {α : Type} (index : Nat) (r : Reader α) : Reader α := do
  if ← anotherItem (index == 0) then r
  else mismatch (.invalidLength index "struct Finding with 5 elements")

def read (depth : Nat) : Reader Finding := located do
  let c ← valueStart
  if c == '[' then
    let depth ← deeper depth
    eat
    let body : Reader Finding := do
      return { ruleId := ← element 0 (text "a string")
               severity := ← element 1 (readSeverity depth)
               message := ← element 2 (text "a string")
               path := ← element 3 (text "a string")
               line := ← element 4 natural }
    closedBy body listEnd
  else if c == '\x7b' then
    let depth ← deeper depth
    eat
    closedBy (do finishDraft (← readFields depth true {} ((← get).rest.length + 1))) objectEnd
  else unexpected "struct Finding"

/-- A list of findings. -/
def parseList (source : String) : Except Json.Error (List Finding) :=
  (Reader.list depthLimit read).run source

end Finding
end AppLint
