import AppLint.Regex.Meaning
import AppLint.Regex.Room

/-! Regular expressions. -/
namespace AppLint

structure Regex where
  source : String
  pattern : Regex.Pattern
deriving DecidableEq, Repr

namespace Regex

/-- The regular expression that a text is. -/
def parse (source : String) : Except Error Regex := do
  let tree ← (Tree.parse source).mapError .syntaxError
  let (pattern,_) ← (Meaning.pattern {} tree).mapError fun (fault,span) =>
    .syntaxError ⟨source,fault,span⟩
  if roomLimit < pattern.room then throw (.tooLarge roomLimit) else return ⟨source,pattern⟩

/-- Whether some part of the text matches. -/
def isMatch (r : Regex) (text : List Char) : Bool := r.pattern.isMatch text

end Regex
end AppLint
