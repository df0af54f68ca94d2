import AppLint.Numeric.Extended
import AppLint.Text.Quoted

/-! How data can fail to have the shape that is asked for. -/
namespace AppLint

/-- What was met in the place of the expected data. -/
inductive Found where
  | null
  | boolean (b : Bool)
  | integer (n : Int)
  | real (x : Extended)
  | text (s : String)
  | sequence
  | map
  | choice
  | other (description : String)
deriving DecidableEq, Repr

/-- The words of a data format for values that formats name differently. -/
structure Wording where
  null : String
  real : Binary64.Layout

namespace Found

def describe (wording : Wording) : Found → String
  | null => wording.null
  | boolean b => "boolean `" ++ (if b then "true" else "false") ++ "`"
  | integer n => "integer `" ++ toString n ++ "`"
  | real x => "floating point `" ++ x.render wording.real ++ "`"
  | text s => "string " ++ Text.quoted s
  | sequence => "sequence"
  | map => "map"
  | choice => "enum"
  | other description => description

end Found

inductive Mismatch where
  | invalidType (found : Found) (expected : String)
  | invalidValue (found : Found) (expected : String)
  | invalidLength (length : Nat) (expected : String)
  | unknownVariant (name : String) (variants : List String)
  | missingField (name : String)
  | duplicateField (name : String)
  | outOfRange
deriving DecidableEq, Repr

namespace Mismatch

def ticked (name : String) : String := "`" ++ name ++ "`"

/-- The names to choose from: two with "or", more after "one of". -/
def choices : List String → String
  | [a] => ticked a
  | [a,b] => ticked a ++ " or " ++ ticked b
  | names => "one of " ++ ", ".intercalate (names.map ticked)

def message (wording : Wording) : Mismatch → String
  | invalidType found expected =>
    "invalid type: " ++ found.describe wording ++ ", expected " ++ expected
  | invalidValue found expected =>
    "invalid value: " ++ found.describe wording ++ ", expected " ++ expected
  | invalidLength length expected =>
    "invalid length " ++ toString length ++ ", expected " ++ expected
  | unknownVariant name variants =>
    "unknown variant " ++ ticked name ++ ", expected " ++ choices variants
  | missingField name => "missing field " ++ ticked name
  | duplicateField name => "duplicate field " ++ ticked name
  | outOfRange => "JSON number out of range"

end Mismatch
end AppLint
