import AppLint.Regex.CharSet
import AppLint.Regex.Tree
import AppLint.Text.Age
import AppLint.Text.Category
import AppLint.Text.Division
import AppLint.Text.Trait
import AppLint.Text.WritingSystem

/-! Sets of characters by property. Case, blanks, hyphens and underscores in names do not matter, nor
does a leading "is". -/
namespace AppLint
namespace Regex
namespace Property

def simplify (name : List Char) : List Char :=
  (name.filter fun c => c != ' ' && c != '_' && c != '-' && c.toNat < 128).map Char.toLower

/-- The form in which names are compared. -/
def normalize (name : String) : String :=
  let cs := name.toList
  if (cs.take 2).map Char.toLower = ['i','s'] then
    let rest := simplify (cs.drop 2)
    String.ofList (if rest = ['c'] then ['i','s','c'] else rest)
  else String.ofList (simplify cs)

def isNamed (name : String) (aliases : List String) : Bool := aliases.any (normalize · = name)

/-- Categories by the first letters of their codes, and their names. -/
def categoryNames : List (String × List String) :=
  [("C",["Other"]),("Cc",["Control","Cntrl"]),("Cf",["Format"]),("Cn",["Unassigned"]),
   ("Co",["Private_Use"]),("Cs",["Surrogate"]),("L",["Letter"]),("LC",["Cased_Letter"]),
   ("Ll",["Lowercase_Letter"]),("Lm",["Modifier_Letter"]),("Lo",["Other_Letter"]),
   ("Lt",["Titlecase_Letter"]),("Lu",["Uppercase_Letter"]),("M",["Mark","Combining_Mark"]),
   ("Mc",["Spacing_Mark"]),("Me",["Enclosing_Mark"]),("Mn",["Nonspacing_Mark"]),
   ("N",["Number"]),("Nd",["Decimal_Number","Digit"]),("Nl",["Letter_Number"]),
   ("No",["Other_Number"]),("P",["Punctuation","Punct"]),("Pc",["Connector_Punctuation"]),
   ("Pd",["Dash_Punctuation"]),("Pe",["Close_Punctuation"]),("Pf",["Final_Punctuation"]),
   ("Pi",["Initial_Punctuation"]),("Po",["Other_Punctuation"]),("Ps",["Open_Punctuation"]),
   ("S",["Symbol"]),("Sc",["Currency_Symbol"]),("Sk",["Modifier_Symbol"]),("Sm",["Math_Symbol"]),
   ("So",["Other_Symbol"]),("Z",["Separator"]),("Zl",["Line_Separator"]),
   ("Zp",["Paragraph_Separator"]),("Zs",["Space_Separator"])]

def ofCategory (code : String) : List (Nat × Nat) :=
  let covers (c : String) : Bool :=
    if code = "LC" then ["Ll","Lt","Lu"].contains c
    else if code.length = 1 then c.toList.head? == code.toList.head?
    else c = code
  Text.rangesOf covers Text.categoryRuns

/-- The category with a name. Half a character pair has no set of its own. -/
def category? (name : String) : Option (Except Fault (List (Nat × Nat))) :=
  if name = "any" then some (.ok [(0,0x10FFFF)])
  else if name = "ascii" then some (.ok [(0,0x7F)])
  else if name = "assigned" then some (.ok (Text.rangesOf (· != "Cn") Text.categoryRuns))
  else (categoryNames.find? fun (code,names) => isNamed name (code :: names)).map fun (code,_) =>
    if code = "Cs" then .error .propertyValueNotFound else .ok (ofCategory code)

def writingSystemCode? (name : String) : Option String :=
  (Text.writingSystemNames.find? fun (code,names) => isNamed name (code :: names)).map (·.1)

def ofWritingSystem (code : String) : List (Nat × Nat) :=
  Text.rangesOf (· = code) Text.writingSystemRuns

def trait? (name : String) : Option (List (Nat × Nat)) :=
  (Text.traits.find? fun (names,_) => isNamed name names).map (·.2)

/-- The characters that came with a version or before it. -/
def age? (value : String) : Option (List (Nat × Nat)) :=
  let isVersion (version : String) : Bool :=
    value = version || value = "v" ++ String.ofList (version.toList.filter (· != '.'))
  (Text.ages.findIdx? fun (version,_) => isVersion version).map fun i =>
    let codes := (Text.ages.take (i + 1)).map (·.2)
    Text.rangesOf codes.contains Text.ageRuns

/-- The names of the properties that divide texts, with the names and the characters of their values. -/
def divisions : List (List String × List (String × String) × List (Nat × Nat × String)) :=
  [(["gcb","graphemeclusterbreak"],Text.clusterBreakNames,Text.clusterBreakRuns),
   (["wb","wordbreak"],Text.wordBreakNames,Text.wordBreakRuns),
   (["sb","sentencebreak"],Text.sentenceBreakNames,Text.sentenceBreakRuns)]

def division? (names : List (String × String)) (runs : List (Nat × Nat × String)) (value : String) :
    Option (List (Nat × Nat)) :=
  (names.find? fun (code,long) => isNamed value [code,long]).map fun (code,_) =>
    Text.rangesOf (· = code) runs

/-- Properties that are not simply had or not. -/
def valuedNames : List String :=
  ["age","bc","bidiclass","bidimirroringglyph","bidipairedbracket","bidipairedbrackettype","blk",
   "block","bmg","bpb","bpt","canonicalcombiningclass","casefolding","ccc","cf",
   "decompositionmapping","decompositiontype","dm","dt","ea","eastasianwidth","equideo",
   "equivalentunifiedideograph","gc","gcb","generalcategory","graphemeclusterbreak",
   "hangulsyllabletype","hst","indicpositionalcategory","indicsyllabiccategory","inpc","insc","isc",
   "isocomment","jamoshortname","jg","joininggroup","joiningtype","jsn","jt","lb","lc",
   "linebreak","lowercasemapping","na","na1","name","namealias","nfcqc","nfcquickcheck","nfdqc",
   "nfdquickcheck","nfkccasefold","nfkccf","nfkcqc","nfkcquickcheck","nfkdqc","nfkdquickcheck",
   "nt","numerictype","numericvalue","nv","sb","sc","scf","script","scriptextensions","scx",
   "sentencebreak","simplecasefolding","simplelowercasemapping","simpletitlecasemapping",
   "simpleuppercasemapping","slc","stc","suc","tc","titlecasemapping","uc","unicode1name",
   "uppercasemapping","verticalorientation","vo","wb","wordbreak"]

def isProperty (name : String) : Bool := valuedNames.contains name || (trait? name).isSome

/-- The set under a name alone: a trait, a category or a writing system. -/
def byName (name : String) : Except Fault (List (Nat × Nat)) :=
  let name := normalize name
  if !(["cf","sc","lc"].contains name) && isProperty name then
    (trait? name).elim (.error .propertyNotFound) .ok
  else
    match category? name, writingSystemCode? name with
    | some r, _ => r
    | none, some code => .ok (ofWritingSystem code)
    | none, none => .error .propertyNotFound

/-- The set of characters for which a property has a value. -/
def byValue (name value : String) : Except Fault CharSet :=
  let name := normalize name
  let value := normalize value
  let found (ranges : Option (List (Nat × Nat))) : Except Fault CharSet :=
    ranges.elim (.error .propertyValueNotFound) (.ok ∘ .ranges)
  let system (f : String → CharSet) : Except Fault CharSet :=
    (writingSystemCode? value).elim (.error .propertyValueNotFound) (.ok ∘ f)
  if ["gc","generalcategory"].contains name then
    ((category? value).getD (.error .propertyValueNotFound)).map .ranges
  else if ["sc","script"].contains name then system fun code => .ranges (ofWritingSystem code)
  else if ["scx","scriptextensions"].contains name then
    system fun code =>
      .difference
        (.union (.ranges (ofWritingSystem code)) (.ranges ((Text.sharedRanges.lookup code).getD [])))
        (.ranges ((Text.restrictedRanges.lookup code).getD []))
  else if name = "age" then found (age? value)
  else
    match divisions.find? fun (names,_) => names.contains name with
    | some (_,names,runs) => found (division? names runs value)
    | none => .error (if isProperty name then .propertyValueNotFound else .propertyNotFound)

def find : PropertyQuery → Except Fault CharSet
  | .named name => (byName name).map .ranges
  | .valued name value _ => byValue name value

end Property
end Regex
end AppLint
