import AppLint.Storage

/-! All files below a directory. -/
namespace AppLint

inductive WalkError where
  | storage (path : String) (e : StorageError)
  /-- A link back to a directory that it is in. -/
  | loop (path ancestor : String)
deriving DecidableEq, Repr

namespace WalkError

def message : WalkError → String
  | storage path e => "IO error for operation on " ++ path ++ ": " ++ e.message
  | loop path ancestor =>
    "File system loop found: " ++ path ++ " points to an ancestor " ++ ancestor

end WalkError

namespace Stored

/-- A directory on the way: the path that led there and where it is. -/
structure Visited where
  path : String
  location : List String
deriving DecidableEq, Repr

/-- What a walk meets: a file with its path, or an error. -/
abbrev Met := Except WalkError (String × Stored)

/-- What an entry of the directory at `here` stands for, and where that is. Links are followed,
but not to the directories that they are in. -/
def resolve (root : Stored) (above : List Visited) (path : String) (here : List String)
    (name : String) : Stored → Except WalkError (List String × Stored)
  | link target => do
    let (location,item) ← (find root here target).mapError (.storage path)
    match above.find? (·.location == location) with
    | some ancestor => throw (.loop path ancestor.path)
    | none => return (location,item)
  | item => return (here ++ [name],item)

/-- The files of a directory and below it, by name, where `above` are the directories on the way, the
nearest first. -/
def walkEntries (root : Stored) : Nat → List Visited → Visited → List (String × Stored) → List Met
  | 0, _, _, _ => []
  | fuel + 1, above, here, entries =>
    entries.flatMap fun (name,item) =>
      let path := here.path ++ "/" ++ name
      match resolve root (here :: above) path here.location name item with
      | .error e => [.error e]
      | .ok (location,directory entries) =>
        walkEntries root fuel (here :: above) ⟨path,location⟩ entries
      | .ok (_,item) => [.ok (path,item)]

/-- The files below the directory at a path, if there is one. -/
def walk? (root : Stored) (path : String) : Option (List Met) :=
  match find root [] path with
  | .ok (location,directory entries) =>
    let size := root.weight + 1
    some (walkEntries root (size * size) [] ⟨path,location⟩ entries)
  | _ => none

end Stored
end AppLint
