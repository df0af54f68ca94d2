import AppLint.Text.Blank
import AppLint.Text.Search

/-! Looking up the line of a document that holds a string or a field. Lines count from 1; 0 stands for
no line. -/
namespace AppLint
namespace Line

/-- The text between double quotes, as it is. -/
def inQuotes (s : String) : List Char := '"' :: s.toList ++ ['"']

/-- The number of the first line with property `p`. -/
def first (p : List Char → Bool) (text : String) : Nat :=
  match (Text.lines text.toList).findIdx? p with
  | some i => i + 1
  | none => 0

/-- After white space a colon follows, and after more white space `value`. -/
def valueFollows (value s : List Char) : Bool :=
  match Text.trimStart s with
  | ':' :: rest => value.isPrefixOf (Text.trimStart rest)
  | _ => false

/-- Some occurrence of `key` is followed by a colon and `value`; an occurrence is searched for behind
the one before. -/
def holdsEntry (key value s : List Char) : Bool :=
  match Text.cut? key s with
  | none => false
  | some (_,after) =>
    valueFollows value after ||
      if after.length < s.length then holdsEntry key value after else false
termination_by s.length

/-- Whether a line holds the field `key` with the string `value`. -/
def hasEntry (key value : String) (line : List Char) : Bool :=
  holdsEntry (inQuotes key) (inQuotes value) line

/-- The first line that holds the string in quotes. -/
def ofString (value : String) (text : String) : Nat := first (Text.contains (inQuotes value)) text

/-- The first line that holds the field with that value, else the first that holds the value. -/
def ofEntry (key value : String) (text : String) : Nat :=
  match first (hasEntry key value) text with
  | 0 => ofString value text
  | n => n

end Line
end AppLint
