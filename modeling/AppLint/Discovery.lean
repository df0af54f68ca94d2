import AppLint.Rule
import AppLint.Storage.Walk

/-! Where the rules come from. -/
namespace AppLint

inductive DiscoveryError where
  | walk (directory : String) (e : WalkError)
  | storage (path : String) (e : StorageError)
  | manifest (path : String) (e : Yaml.Error)
  | invalidRule (rule : String) (e : DefinitionError)
  | build (rule : String) (f : RuleFailure)

namespace DiscoveryError

def message : DiscoveryError → String
  | walk directory e => "reading rule directory " ++ Text.quoted directory ++ ": " ++ e.message
  | storage path e => "reading rule manifest " ++ Text.quoted path ++ ": " ++ e.message
  | manifest path e => "parse error in " ++ Text.quoted path ++ ": " ++ e.message
  | invalidRule rule e => "invalid rule " ++ Text.quoted rule ++ ": " ++ e.message
  | build rule f =>
    "instantiating rule " ++ Text.quoted rule ++ ": " ++
      match f with
      | .error _ => f.text
      | .crash _ => "factory panicked: " ++ f.text

end DiscoveryError

namespace Manifest

/-- The manifest in the text of a file. -/
def ofText (path text : String) : Except DiscoveryError Manifest :=
  (parse text).mapError (.manifest path)

/-- The manifest in a stored file. -/
def ofStored (path : String) (file : Stored) : Except DiscoveryError Manifest := do
  ofText path (← file.text.mapError (.storage path))

/-- The manifest in the file at a path. -/
def read (root : Stored) (path : String) : Except DiscoveryError Manifest := do
  let (_,file) ← (root.find [] path).mapError (.storage path)
  ofStored path file

end Manifest

namespace RuleEntry

/-- The entry of a definition. -/
def ofDefinition (d : RuleDefinition) : Except DiscoveryError RuleEntry :=
  match DeclaredRule.compile d with
  | .ok r => .ok ⟨d.id,d.isExample,.ok (.declared r)⟩
  | .error e => .error (.invalidRule d.id e)

/-- The entries of definitions; those that are not valid are left out. -/
def ofDefinitions (path : String) : List RuleDefinition → Logged (List RuleEntry)
  | [] => pure []
  | d :: rest =>
    match ofDefinition d with
    | .ok entry => do return entry :: (← ofDefinitions path rest)
    | .error e => do
      Logged.warn (e.message ++ " (in " ++ Text.quoted path ++ ")")
      ofDefinitions path rest

/-- The entries of a manifest file; none if it cannot be read. -/
def ofFile (path : String) (file : Stored) : Logged (List RuleEntry) :=
  match Manifest.ofStored path file with
  | .ok m => do
    Logged.debug ("rule manifest " ++ Text.quoted path ++ ": " ++ toString m.rules.length ++ " rules")
    ofDefinitions path m.rules
  | .error e => do
    Logged.warn e.message
    return []

end RuleEntry

namespace Discovery

/-- What follows the last dot of a file name, if something stands before it. -/
def extension? (path : String) : Option String :=
  let name := Text.afterLast (· == '/') path.toList
  let extension := Text.afterLast (· == '.') name
  if extension.length + 1 < name.length then some (String.ofList extension) else none

def isManifest (path : String) : Bool :=
  (extension? path).any fun e => e == "yaml" || e == "yml" || e == "json"

/-- The entries of what a walk meets. -/
def entriesOf (directory : String) : List Stored.Met → Logged (List RuleEntry)
  | [] => pure []
  | .ok (path,file) :: rest => do
    let entries ← if isManifest path then RuleEntry.ofFile path file else pure []
    return entries ++ (← entriesOf directory rest)
  | .error e :: rest => do
    Logged.warn (DiscoveryError.walk directory e).message
    entriesOf directory rest

/-- The entries of all manifests below a directory. -/
def ofDirectory (root : Stored) (directory : String) : Logged (List RuleEntry) :=
  match root.walk? directory with
  | some met => entriesOf directory met
  | none => do
    Logged.warn ("rule directory " ++ Text.quoted directory ++ " does not exist")
    return []

/-- All entries: the built-in rules, those that are registered, and those below a directory. -/
def all (registered : List RuleEntry) (directory : Option (Stored × String)) :
    Logged (List RuleEntry) := do
  let declared ← match directory with
    | some (root,path) => ofDirectory root path
    | none => pure []
  let entries := RuleEntry.builtins ++ registered ++ declared
  Logged.info ("discovered " ++ toString entries.length ++ " rules (" ++
    toString RuleEntry.builtins.length ++ " built-in, " ++ toString registered.length ++
    " registered, " ++ toString declared.length ++ " declarative)")
  return entries

end Discovery
end AppLint
