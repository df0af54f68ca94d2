import AppLint.Document.Component
import AppLint.Document.Line
import AppLint.Document.Schema
import AppLint.FileType

/-! The JSON documents of an application: pages, fragments, data providers and the site. -/
namespace AppLint

open Json (Value)

/-- What all documents have: where they come from, their text, and their tree. -/
structure Body where
  path : String
  raw : String
  tree : Value

structure Page where
  id : String
  title : Option String
  body : Body

structure Fragment where
  id : String
  body : Body

/-- An endpoint of the data provider document. -/
structure DataProvider where
  id : String
  url : Option String
  method : Option String
deriving DecidableEq, Repr, Inhabited

structure DataProviderDocument where
  providers : List DataProvider
  body : Body

structure NavigationEntry where
  label : Option String
  page : Option String
deriving DecidableEq, Repr, Inhabited

structure Site where
  name : Option String
  homePage : Option String
  navigation : List NavigationEntry
  body : Body

namespace Page

/-- All components, outer ones before those inside them. -/
def components (p : Page) : List Component := Component.collect p.body.tree

/-- The fragments that the page embeds, in the order of the components. -/
def fragmentRefs (p : Page) : List String := p.components.filterMap Component.fragmentRef?

end Page

namespace Fragment

def components (f : Fragment) : List Component := Component.collect f.body.tree

end Fragment

namespace DataProviderDocument

def provider? (id : String) (d : DataProviderDocument) : Option DataProvider :=
  d.providers.find? (·.id = id)

end DataProviderDocument

/-- Why a tree is not a document of the type asked for. -/
inductive DocumentError where
  | notAnObject (kind : String)
  | schema (m : Mismatch)
  | scriptsHaveNoTree
deriving DecidableEq, Repr

def DocumentError.message : DocumentError → String
  | notAnObject kind => "document root must be an object, found " ++ kind
  | schema m => "schema validation failed: " ++ m.message Json.wording
  | scriptsHaveNoTree => "scripts are not JSON documents"

/-- A document of one of the four types. -/
inductive Document where
  | page (p : Page)
  | fragment (f : Fragment)
  | dataProvider (d : DataProviderDocument)
  | site (s : Site)

namespace Document

def type : Document → FileType
  | page _ => .page
  | fragment _ => .fragment
  | dataProvider _ => .dataProvider
  | site _ => .site

def body : Document → Body
  | page p => p.body
  | fragment f => f.body
  | dataProvider d => d.body
  | site s => s.body

def path (d : Document) : String := d.body.path

def tree (d : Document) : Value := d.body.tree

end Document

namespace Body

/-- The first line with the string in quotes. -/
def lineOfString (value : String) (b : Body) : Nat := Line.ofString value b.raw

/-- The first line with the field and its value, else with the value. -/
def lineOfEntry (key value : String) (b : Body) : Nat := Line.ofEntry key value b.raw

def string? (key : String) (b : Body) : Option String := (b.tree.field? key).bind Value.string?

def items (key : String) (b : Body) : List Value := ((b.tree.field? key).bind Value.array?).getD []

end Body

namespace DataProvider

def check : Schema.Check :=
  Schema.record "DataProvider" 1
    [("id",Schema.text),("url",Schema.optionalText),("method",Schema.optionalText)]

def ofValue (v : Value) : DataProvider where
  id := (Schema.part? "id" 0 v).getD ""
  url := Schema.part? "url" 1 v
  method := Schema.part? "method" 2 v

end DataProvider

namespace NavigationEntry

def check : Schema.Check :=
  Schema.record "NavigationEntry" 0
    [("label",Schema.optionalText),("page",Schema.optionalText)]

def ofValue (v : Value) : NavigationEntry where
  label := Schema.part? "label" 0 v
  page := Schema.part? "page" 1 v

end NavigationEntry

namespace Document

/-- The fields of each type that have a fixed shape. -/
def checks : FileType → List (String × Schema.Check)
  | .page =>
    [("id",Schema.text),("title",Schema.optionalText),("components",Schema.sequence)]
  | .fragment => [("id",Schema.text),("components",Schema.sequence)]
  | .dataProvider => [("providers",Schema.each DataProvider.check)]
  | .site =>
    [("name",Schema.optionalText),("homePage",Schema.optionalText),
     ("navigation",Schema.each NavigationEntry.check)]
  | .script => []

/-- The fields that a type cannot do without. -/
def requiredFields : FileType → List String
  | .page => ["id"]
  | .fragment => ["id"]
  | .dataProvider => ["providers"]
  | .site => []
  | .script => []

/-- Whether a tree has the shape of its type. -/
def validate (type : FileType) (tree : Value) : Except DocumentError Unit :=
  match tree with
  | .object fs =>
    (do
      Schema.fields (checks type) fs
      (requiredFields type).forM fun name => Schema.required name fs).mapError .schema
  | v => .error (.notAnObject v.kind)

/-- The document with a body of a valid shape. -/
def ofBody (type : FileType) (b : Body) : Except DocumentError Document :=
  match type with
  | .page => .ok (.page ⟨(b.string? "id").getD "",b.string? "title",b⟩)
  | .fragment => .ok (.fragment ⟨(b.string? "id").getD "",b⟩)
  | .dataProvider => .ok (.dataProvider ⟨(b.items "providers").map DataProvider.ofValue,b⟩)
  | .site =>
    .ok (.site ⟨b.string? "name",b.string? "homePage",
      (b.items "navigation").map NavigationEntry.ofValue,b⟩)
  | .script => .error .scriptsHaveNoTree

/-- Read a tree as a document of the given type. -/
def ofTree (type : FileType) (path raw : String) (tree : Value) : Except DocumentError Document := do
  if type = .script then .error .scriptsHaveNoTree
  else
    validate type tree
    ofBody type ⟨path,raw,tree⟩

end Document
end AppLint
