import AppLint.Keyed
import AppLint.Text.Search

/-! Stored files and directories, and how paths lead to them. -/
namespace AppLint

/-- What is stored under a name. -/
inductive Stored where
  | file (content : ByteArray)
  | directory (entries : List (String × Stored))
  | link (target : String)
deriving Inhabited

inductive StorageError where
  | missing
  | notADirectory
  | isADirectory
  | tooManyLinks
  | invalidText
deriving DecidableEq, Repr

namespace StorageError

def message : StorageError → String
  | missing => "No such file or directory (os error 2)"
  | notADirectory => "Not a directory (os error 20)"
  | isADirectory => "Is a directory (os error 21)"
  | tooManyLinks => "Too many levels of symbolic links (os error 40)"
  | invalidText => "stream did not contain valid UTF-8"

end StorageError

namespace Stored

def ofText (s : String) : Stored := file s.toUTF8

/-- The names along a path. -/
def components (path : String) : List String :=
  (Text.splitOn '/' path.toList).filterMap fun name =>
    if name = [] || name = ['.'] then none else some (String.ofList name)

/-- The directory at the end of a list of names, without following links. -/
def entries? (names : List String) (root : Stored) : Option (Keyed Stored) :=
  match names, root with
  | [], directory es => some es
  | name :: rest, directory es => (Keyed.get? name es).bind (entries? rest)
  | _, _ => none

/-- Put something at the end of a list of names, with directories on the way. -/
def put (item : Stored) : List String → Stored → Stored
  | [], directory es =>
    match item with
    | directory _ => directory es
    | item => item
  | [], _ => item
  | name :: rest, directory es =>
    directory (Keyed.insert name (put item rest ((Keyed.get? name es).getD (directory []))) es)
  | name :: rest, _ => directory [(name,put item rest (directory []))]

/-- How many links may be followed on one way. -/
def linkLimit : Nat := 40

/-- Follow names from the directory at `here`; the result is where the way ends, with all links
followed, and what is stored there. -/
def follow (root : Stored) (here : List String) (names : List String) (links : Nat) :
    Nat → Except StorageError (List String × Stored)
  | 0 => .error .tooManyLinks
  | fuel + 1 =>
    match names with
    | [] => (entries? here root).elim (.error .missing) fun es => .ok (here,directory es)
    | ".." :: rest => follow root here.dropLast rest links fuel
    | name :: rest =>
      match (entries? here root).bind (Keyed.get? name) with
      | none => .error .missing
      | some (directory _) => follow root (here ++ [name]) rest links fuel
      | some (file content) =>
        if rest = [] then .ok (here ++ [name],file content) else .error .notADirectory
      | some (link target) =>
        match links with
        | 0 => .error .tooManyLinks
        | links + 1 =>
          let start := if target.toList.head? == some '/' then [] else here
          follow root start (components target ++ rest) links fuel

/-- The number of characters in names and link targets, with one more for each item. -/
def weight : Stored → Nat
  | file _ => 1
  | link target => 1 + target.length
  | directory es => 1 + weights es
where
  weights : List (String × Stored) → Nat
    | [] => 0
    | (name,item) :: rest => 1 + name.length + weight item + weights rest

/-- What a path leads to, from the directory at `here`. -/
def find (root : Stored) (here : List String) (path : String) :
    Except StorageError (List String × Stored) :=
  let names := components path
  follow root here names linkLimit (names.length + (linkLimit + 1) * (root.weight + 2))

/-- The text of a stored file. -/
def text : Stored → Except StorageError String
  | file content => (String.fromUTF8? content).elim (.error .invalidText) .ok
  | directory _ => .error .isADirectory
  | link _ => .error .missing

/-- The text of the file at a path. -/
def read (root : Stored) (path : String) : Except StorageError String := do
  (← find root [] path).2.text

end Stored
end AppLint
