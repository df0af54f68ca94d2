import AppLint.Catalog
import AppLint.Completeness
import AppLint.Document
import AppLint.Json.Commented
import AppLint.Script

/-! The documents of an application together. -/
namespace AppLint

/-- Why a file is not part of the application. -/
inductive LoadError where
  | unsupportedType
  | invalidJson (e : Json.Error)
  | document (e : DocumentError)
  | script (e : ScriptError)
  | duplicatePage (id path : String)
  | duplicateFragment (id path : String)
  | secondDataProvider (path : String)
  | secondSite (path : String)
deriving DecidableEq, Repr

namespace LoadError

def message : LoadError → String
  | unsupportedType => "unsupported file type"
  | invalidJson e => "invalid JSON: " ++ e.message
  | document e => e.message
  | script e => e.message
  | duplicatePage id path =>
    "duplicate page id " ++ Text.quoted id ++ ", already defined in " ++ path
  | duplicateFragment id path =>
    "duplicate fragment id " ++ Text.quoted id ++ ", already defined in " ++ path
  | secondDataProvider path =>
    "only one data provider document is allowed, already loaded " ++ path
  | secondSite path => "only one site document is allowed, already loaded " ++ path

end LoadError

/-- A file that could not be loaded. -/
structure ParseError where
  path : String
  error : LoadError
deriving DecidableEq, Repr

namespace ParseError

def message (e : ParseError) : String := e.error.message

def text (e : ParseError) : String := e.path ++ ": " ++ e.message

end ParseError

/-- The content of a well-formed file. -/
inductive Loaded where
  | script (s : ScriptDocument)
  | document (d : Document)

namespace Loaded

def type : Loaded → FileType
  | script _ => .script
  | document d => d.type

/-- Read a file by its path and text; commented-out parts of JSON documents are dropped. -/
def read (path text : String) : Except LoadError Loaded :=
  match FileType.detect? path with
  | none => .error .unsupportedType
  | some .script => ((ScriptDocument.parse path text).map script).mapError .script
  | some type => do
    let tree ← (Json.parse text).mapError .invalidJson
    let d ← (Document.ofTree type path text tree.uncommented).mapError .document
    return document d

end Loaded

/-- All documents that were loaded: pages and fragments by id, scripts by path. -/
structure Project where
  pages : Catalog Page Page.id := ∅
  fragments : Catalog Fragment Fragment.id := ∅
  scripts : Catalog ScriptDocument ScriptDocument.path := ∅
  dataProvider : Option DataProviderDocument := none
  site : Option Site := none
  parseErrors : List ParseError := []
  tracker : Tracker

namespace Project

def page? (id : String) (p : Project) : Option Page := p.pages.get? id

def fragment? (id : String) (p : Project) : Option Fragment := p.fragments.get? id

/-- Add a document. The first with its id, or of a type that there is only one of, is kept. -/
def insertDocument (p : Project) : Document → Except LoadError Project
  | .page d =>
    match p.page? d.id with
    | some first => .error (.duplicatePage d.id first.body.path)
    | none => .ok { p with pages := p.pages.insert d }
  | .fragment d =>
    match p.fragment? d.id with
    | some first => .error (.duplicateFragment d.id first.body.path)
    | none => .ok { p with fragments := p.fragments.insert d }
  | .dataProvider d =>
    match p.dataProvider with
    | some first => .error (.secondDataProvider first.body.path)
    | none => .ok { p with dataProvider := some d }
  | .site d =>
    match p.site with
    | some first => .error (.secondSite first.body.path)
    | none => .ok { p with site := some d }

/-- Add what a file holds. A script takes the place of an earlier one with its path. -/
def insert (p : Project) : Loaded → Except LoadError Project
  | .script s => .ok { p with scripts := p.scripts.insert s }
  | .document d => p.insertDocument d

def recordFile (path : String) (p : Project) : Project :=
  { p with tracker := p.tracker.recordFile path }

def markPresent (type : FileType) (p : Project) : Project :=
  { p with tracker := p.tracker.markPresent type }

def recordError (path : String) (e : LoadError) (p : Project) : Project :=
  { p with parseErrors := p.parseErrors ++ [⟨path,e⟩] }

/-- Read a file and add what it holds. -/
def add (path text : String) (p : Project) : Except LoadError (FileType × Project) := do
  let content ← Loaded.read path text
  return (content.type,← p.insert content)

/-- Load a file; if that fails, note why. -/
def loadFile (p : Project) : String × String → Logged Project
  | (path,text) =>
    let p := p.recordFile path
    match p.add path text with
    | .ok (type,q) => do
      Logged.debug ("loaded " ++ path ++ " as " ++ type.tag)
      return q.markPresent type
    | .error e => do
      Logged.warn ("skipping " ++ path ++ ": " ++ e.message)
      return p.recordError path e

/-- Load files in order. -/
def loadFiles (p : Project) : List (String × String) → Logged Project
  | [] => pure p
  | file :: rest => do
    let p ← p.loadFile file
    p.loadFiles rest

/-- The project of a batch of files. -/
def load (unit : AnalysisUnit) (files : List (String × String)) : Logged Project := do
  let p ← loadFiles { tracker := { unit := unit } } files
  let tried := p.tracker.filesAnalyzed.length
  let failed := p.parseErrors.length
  Logged.info ("loaded " ++ toString (tried - failed) ++ " of " ++ toString tried ++ " files (" ++
    toString failed ++ " parse errors)")
  return p

/-- The JSON documents: pages, then fragments, the data provider and the site. -/
def documents (p : Project) : List Document :=
  p.pages.values.map .page ++ p.fragments.values.map .fragment ++
    p.dataProvider.toList.map .dataProvider ++ p.site.toList.map .site

/-- How many documents of a type were loaded. -/
def fileCount (p : Project) : FileType → Nat
  | .dataProvider => p.dataProvider.toList.length
  | .fragment => p.fragments.size
  | .page => p.pages.size
  | .script => p.scripts.size
  | .site => p.site.toList.length

end Project
end AppLint
