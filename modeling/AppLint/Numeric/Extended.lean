import AppLint.Numeric.Shortest

/-! Floating-point numbers together with the infinities and the value that is no number. -/
namespace AppLint

inductive Extended where
  | finite (x : Binary64)
  | infinite (negative : Bool)
  | notANumber
deriving DecidableEq, Repr, Inhabited

namespace Extended

def render (layout : Binary64.Layout) : Extended → String
  | finite x => String.ofList (x.render layout)
  | infinite negative => if negative then "-inf" else "inf"
  | notANumber => "NaN"

end Extended
end AppLint
