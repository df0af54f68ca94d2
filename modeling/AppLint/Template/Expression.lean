import AppLint.Text.Blank
import AppLint.Text.Search

/-! The expressions between double braces: property paths, fallbacks, identifiers and string literals.
Every text is an expression: what has none of these forms is an identifier. -/
namespace AppLint

inductive Expr where
  | identifier (name : String)
  /-- A string without its quotes. -/
  | stringLiteral (value : String)
  | propertyAccess (object : Expr) (property : String)
  | nullCoalescing (left right : Expr)
deriving DecidableEq, Repr, Inhabited

namespace Expr

/-- The leftmost identifier of a property path. -/
def root? : Expr → Option String
  | identifier name => some name
  | propertyAccess object _ => object.root?
  | _ => none

/-- The root identifiers of all variable references. -/
def identifiers : Expr → List String
  | nullCoalescing left right => left.identifiers ++ right.identifiers
  | stringLiteral _ => []
  | e => e.root?.toList

def isIdentifierStart (c : Char) : Bool :=
  ('a' ≤ c && c ≤ 'z') || ('A' ≤ c && c ≤ 'Z') || c == '_' || c == '$'

def isIdentifierPart (c : Char) : Bool := isIdentifierStart c || ('0' ≤ c && c ≤ '9')

/-- A plain ASCII identifier. -/
def isIdentifier : List Char → Bool
  | [] => false
  | c :: s => isIdentifierStart c && s.all isIdentifierPart

/-- Operators that rule out the reading as a property path. -/
def operators : List (List Char) :=
  ["??","?",":","&&","||","+","-","*","/"].map String.toList

/-- A path of two or more identifiers with points between them. -/
def path? (s : List Char) : Option Expr :=
  if !s.contains '.' || operators.any (Text.contains · s) then none
  else
    match (Text.splitOn '.' s).map Text.trim with
    | [] => none
    | first :: rest =>
      if (first :: rest).all isIdentifier then
        some (rest.foldl (fun e segment => propertyAccess e (String.ofList segment))
          (identifier (String.ofList first)))
      else none

/-- What stands between two equal quotes. -/
def literal? : List Char → Option String
  | quote :: s =>
    match s.reverse with
    | last :: inner =>
      if (quote == '\'' || quote == '"') && last == quote then some (String.ofList inner.reverse)
      else none
    | [] => none
  | [] => none

/-- An expression without a fallback. -/
def atom (s : List Char) : Expr :=
  if isIdentifier s then identifier (String.ofList s)
  else match literal? s with
    | some value => stringLiteral value
    | none => identifier (String.ofList s)

def coalesceMark : List Char := ['?','?']

theorem length_trim_le (s : List Char) : (Text.trim s).length ≤ s.length := by
  have hdrop (t : List Char) : (t.dropWhile Text.isBlank).length ≤ t.length :=
    (List.dropWhile_sublist _).length_le
  have hend (t : List Char) : (Text.trimEnd t).length ≤ t.length := by
    simpa [Text.trimEnd] using hdrop t.reverse
  exact Nat.le_trans (hend _) (hdrop s)

theorem length_lt_of_cut {s before after : List Char}
    (h : Text.cut? coalesceMark (Text.trim s) = some (before,after)) :
    before.length < s.length ∧ after.length < s.length := by
  have hlen := congrArg List.length (Text.eq_append_of_cut? h)
  have htrim := length_trim_le s
  simp only [List.length_append,coalesceMark,List.length_cons,List.length_nil] at hlen
  omega

/-- Read an expression, splitting at the first fallback mark. -/
def parse (source : List Char) : Expr :=
  let s := Text.trim source
  match path? s with
  | some path => path
  | none =>
    match h : Text.cut? coalesceMark s with
    | some (before,after) =>
      have := length_lt_of_cut h
      nullCoalescing (parse before) (parse after)
    | none => atom s
termination_by source.length

end Expr
end AppLint
