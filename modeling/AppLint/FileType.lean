import AppLint.Text.Blank
import AppLint.Text.Case
import AppLint.Text.Search

/-! The kinds of source files of an application. -/
namespace AppLint

inductive FileType where
  | dataProvider
  | fragment
  | page
  | script
  | site
deriving DecidableEq, Repr, Inhabited

namespace FileType

/-- All types in alphabetical order of their tags. -/
def all : List FileType := [dataProvider,fragment,page,script,site]

def tag : FileType → String
  | dataProvider => "DATA_PROVIDER"
  | fragment => "FRAGMENT"
  | page => "PAGE"
  | script => "SCRIPT"
  | site => "SITE"

/-- The type with a given tag, up to case and white space around it. -/
def parse? (s : String) : Option FileType :=
  let key := String.ofList (Text.upper (Text.trim s.toList))
  all.find? fun t => t.tag = key

/-- The last component of a path, in lower case. -/
def baseName (path : String) : List Char :=
  Text.lower (Text.afterLast (fun c => c == '/' || c == '\\') path.toList)

def ofExtension? (extension : String) : Option FileType :=
  if extension = "page" then some page
  else if extension = "fragment" then some fragment
  else if extension = "dataprovider" || extension = "provider" then some dataProvider
  else if extension = "site" then some site
  else if extension = "script" then some script
  else none

/-- The type of a file by its name: the extension decides, after one `.json` is taken off. -/
def detect? (path : String) : Option FileType :=
  let name := baseName path
  let stem := Text.dropSuffix ".json".toList name
  if stem.contains '.' then
    let extension := String.ofList (Text.afterLast (· == '.') stem)
    if extension = "js" then
      if ".json".toList.isSuffixOf name then none else some script
    else ofExtension? extension
  else none

end FileType

/-- Whether a batch of files is a whole application or a choice of its files. -/
inductive AnalysisUnit where
  | fullApp
  | individualFiles
deriving DecidableEq, Repr

namespace AnalysisUnit

instance : Inhabited AnalysisUnit := ⟨individualFiles⟩

def tag : AnalysisUnit → String
  | fullApp => "full_app"
  | individualFiles => "individual_files"

end AnalysisUnit
end AppLint
