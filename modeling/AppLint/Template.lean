import AppLint.Template.Expression

/-! Template literals as texts with interpolations between double braces. -/
namespace AppLint

inductive TemplateNode where
  | text (value : String)
  | interpolation (expr : Expr)
deriving DecidableEq, Repr

namespace Template

def openMark : List Char := ['\x7b','\x7b']

def closeMark : List Char := ['\x7d','\x7d']

/-- The token without one backtick at each end. -/
def body (token : List Char) : List Char :=
  Text.dropSuffix ['`'] (match token with
    | '`' :: rest => rest
    | _ => token)

/-- The text before an interpolation, its source, and what follows it. -/
def split? (s : List Char) : Option (List Char × List Char × List Char) := do
  let (before,inside) ← Text.cut? openMark s
  let (source,after) ← Text.cut? closeMark inside
  return (before,source,after)

theorem length_lt_of_split? {s before source after : List Char}
    (h : split? s = some (before,source,after)) : after.length < s.length := by
  simp only [split?,Option.bind_eq_bind,Option.bind_eq_some_iff,Prod.exists] at h
  obtain ⟨b,inside,hopen,src,aft,hclose,heq⟩ := h
  cases heq
  have h1 := congrArg List.length (Text.eq_append_of_cut? hopen)
  have h2 := congrArg List.length (Text.eq_append_of_cut? hclose)
  simp only [List.length_append,openMark,closeMark,List.length_cons,List.length_nil] at h1 h2
  omega

/-- A text node, unless it would be empty. -/
def textNode (s : List Char) : List TemplateNode :=
  if s.isEmpty then [] else [.text (String.ofList s)]

/-- The nodes of a template body: each interpolation ends as early as it can. -/
def nodes (s : List Char) : List TemplateNode :=
  match h : split? s with
  | some (before,source,after) =>
    have := length_lt_of_split? h
    textNode before ++ .interpolation (Expr.parse source) :: nodes after
  | none => textNode s
termination_by s.length

/-- The nodes of a template token with its backticks. -/
def parse (token : String) : List TemplateNode := nodes (body token.toList)

/-- The root identifiers of all interpolations. -/
def identifiers (ns : List TemplateNode) : List String :=
  ns.flatMap fun
    | .text _ => []
    | .interpolation e => e.identifiers

end Template
end AppLint
