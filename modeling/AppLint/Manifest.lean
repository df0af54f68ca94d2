import AppLint.Storage
import AppLint.Yaml.Decode

/-! Manifests: texts that define rules by what they look for. -/
namespace AppLint

/-- A rule as a manifest has it. -/
structure RuleDefinition where
  id : String
  message : String
  /-- A regular expression for what is reported. -/
  pattern : String
  severity : Option String := none
  description : Option String := none
  /-- Tags of the file types that are searched; none for all of them. -/
  appliesTo : List String := []
  /-- The field that is searched, else all fields and scripts. -/
  key : Option String := none
  /-- Wildcard patterns for the paths that are searched; none for all of them. -/
  files : List String := []
  isExample : Bool := false
deriving DecidableEq, Repr, Inhabited

structure Manifest where
  rules : List RuleDefinition := []
deriving DecidableEq, Repr, Inhabited

namespace RuleDefinition

open Yaml (Decode Node Place)

/-- The fields of a definition that were met so far. -/
structure Draft where
  id : Option String := none
  message : Option String := none
  pattern : Option String := none
  severity : Option (Option String) := none
  description : Option (Option String) := none
  appliesTo : Option (List String) := none
  key : Option (Option String) := none
  files : Option (List String) := none
  isExample : Option Bool := none

def decodeText (p : Place) (n : Node) : Decode String := Decode.text p "a string" n

/-- The value of a field that may not be met twice. -/
def once {α : Type} (name : String) (before : Option α) (read : Decode α) : Decode (Option α) :=
  if before.isSome then Decode.refuse (.duplicateField name) else return some (← read)

def decodeField (d : Draft) (name : String) (p : Place) (n : Node) : Decode Draft :=
  match name with
  | "id" => return { d with id := ← once name d.id (decodeText p n) }
  | "message" => return { d with message := ← once name d.message (decodeText p n) }
  | "pattern" => return { d with pattern := ← once name d.pattern (decodeText p n) }
  | "severity" =>
    return { d with severity := ← once name d.severity (Decode.optional p decodeText n) }
  | "description" =>
    return { d with description := ← once name d.description (Decode.optional p decodeText n) }
  | "applies_to" =>
    return { d with appliesTo := ← once name d.appliesTo (Decode.list p decodeText n) }
  | "key" => return { d with key := ← once name d.key (Decode.optional p decodeText n) }
  | "files" => return { d with files := ← once name d.files (Decode.list p decodeText n) }
  | "example" => return { d with isExample := ← once name d.isExample (Decode.boolean p n) }
  | _ => do
    Decode.skip p n
    return d

def required {α : Type} (name : String) : Option α → Decode α
  | some a => return a
  | none => Decode.refuse (.missingField name)

def ofDraft (d : Draft) : Decode RuleDefinition := do
  let id ← required "id" d.id
  let message ← required "message" d.message
  let pattern ← required "pattern" d.pattern
  return ⟨id,message,pattern,d.severity.join,d.description.join,d.appliesTo.getD [],d.key.join,
    d.files.getD [],d.isExample.getD false⟩

def decode (p : Place) (n : Node) : Decode RuleDefinition :=
  Decode.record p "struct ManifestRule" {} decodeField ofDraft n

end RuleDefinition

namespace Manifest

open Yaml (Decode Node Place)

def decodeField (rules : Option (List RuleDefinition)) (name : String) (p : Place) (n : Node) :
    Decode (Option (List RuleDefinition)) :=
  match name with
  | "rules" => RuleDefinition.once name rules (Decode.list p RuleDefinition.decode n)
  | _ => do
    Decode.skip p n
    return rules

def decode (p : Place) (n : Node) : Decode Manifest :=
  Decode.record p "struct RuleManifest" none decodeField (fun rules => return ⟨rules.getD []⟩) n

/-- The manifest in a YAML or JSON text. -/
def parse (text : String) : Except Yaml.Error Manifest := Decode.run decode text

end Manifest
end AppLint
