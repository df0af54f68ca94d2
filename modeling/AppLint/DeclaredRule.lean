import AppLint.Analysis
import AppLint.GlobSet
import AppLint.Json.Leaf
import AppLint.Manifest
import AppLint.Project
import AppLint.Regex

/-! Rules that are defined in manifests. They search the strings of JSON documents and the lines of
scripts. -/
namespace AppLint

/-- What is wrong with a definition. -/
inductive DefinitionError where
  | blankId
  | invalidPattern (e : Regex.Error)
  | unknownSeverity (name : String)
  | unknownFileType (tag : String)
  | invalidGlob (glob : String) (e : GlobError)
  | invalidGlobs (e : GlobSetError)
deriving DecidableEq, Repr

namespace DefinitionError

def message : DefinitionError → String
  | blankId => "rule id must not be empty"
  | invalidPattern e => "invalid pattern: " ++ e.message
  | unknownSeverity name => Severity.unknownMessage name
  | unknownFileType tag => "unknown file type " ++ Text.quoted tag
  | invalidGlob glob e => "invalid glob " ++ Text.quoted glob ++ ": " ++ e.message glob
  | invalidGlobs e => "invalid globs: " ++ e.message

end DefinitionError

structure DeclaredRule where
  id : String
  description : String
  message : String
  severity : Severity
  pattern : Regex
  appliesTo : List FileType
  key : Option String
  /-- No set if all paths are searched. -/
  files : Option GlobSet

namespace DeclaredRule

def readSeverity : Option String → Except DefinitionError Severity
  | none => .ok .warning
  | some name => (Severity.parse? name).elim (.error (.unknownSeverity name)) .ok

def readFileType (tag : String) : Except DefinitionError FileType :=
  (FileType.parse? tag).elim (.error (.unknownFileType tag)) .ok

def readFileTypes (tags : List String) : Except DefinitionError (List FileType) :=
  if tags.isEmpty then .ok FileType.all else tags.mapM readFileType

def readGlob (source : String) : Except DefinitionError Glob :=
  (Glob.parse source).mapError (.invalidGlob source)

def readGlobs (sources : List String) : Except DefinitionError (Option GlobSet) :=
  if sources.isEmpty then .ok none
  else do
    let globs ← sources.mapM readGlob
    return some (← (GlobSet.build globs).mapError .invalidGlobs)

/-- The rule that a definition defines. -/
def compile (d : RuleDefinition) : Except DefinitionError DeclaredRule := do
  if (Text.trim d.id.toList).isEmpty then throw .blankId
  let pattern ← (Regex.parse d.pattern).mapError .invalidPattern
  let severity ← readSeverity d.severity
  let appliesTo ← readFileTypes d.appliesTo
  let files ← readGlobs d.files
  return ⟨d.id,d.description.getD d.message,d.message,severity,pattern,appliesTo,d.key,files⟩

/-- Whether files of a type under a path are searched. -/
def applies (r : DeclaredRule) (type : FileType) (path : String) : Bool :=
  r.appliesTo.contains type && r.files.all (·.isMatch path)

def matchesLeaf (r : DeclaredRule) (leaf : Json.Leaf) : Bool :=
  (r.key.isNone || leaf.key == r.key) && r.pattern.isMatch leaf.value.toList

def finding (r : DeclaredRule) (path : String) (line : Nat) : Finding where
  ruleId := r.id
  severity := r.severity
  message := r.message
  path := path
  line := line

/-- One finding for each string that matches. -/
def checkDocument (r : DeclaredRule) (d : Document) : List Finding :=
  ((d.tree.leaves none).filter r.matchesLeaf).map fun leaf =>
    r.finding d.path (d.body.lineOfString leaf.value)

/-- One finding for each line that matches. -/
def checkScript (r : DeclaredRule) (s : ScriptDocument) : List Finding :=
  (s.lines.filter fun (_,line) => r.pattern.isMatch line).map fun (n,_) => r.finding s.path n

def checkDocuments (r : DeclaredRule) (p : Project) : List Finding :=
  (p.documents.filter fun d => r.applies d.type d.path).flatMap r.checkDocument

def checkScripts (r : DeclaredRule) (p : Project) : List Finding :=
  (p.scripts.values.filter fun s => r.applies .script s.path).flatMap r.checkScript

/-- Scripts have no fields, so that a rule about a field does not search them. -/
def analyze (r : DeclaredRule) (p : Project) : Analysis :=
  .found (r.checkDocuments p ++ if r.key.isNone then r.checkScripts p else [])

end DeclaredRule
end AppLint
