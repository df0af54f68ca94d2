import AppLint.Proofs.JsonStrings
import AppLint.Proofs.RuleDefinitions
import AppLint.Proofs.Representation

/-! What the rule of a definition finds in a project. -/
namespace AppLint

namespace RuleDefinition

def covers (d : RuleDefinition) (type : FileType) (path : String) : Bool :=
  d.coversType type && d.coversPath path

/-- A string is reported if it matches and belongs to the field that is asked for, if one is. -/
def picks (d : RuleDefinition) (o : Json.Path × String) : Bool :=
  d.key.all (fun name => o.1.lastName? = some name) && d.matchesText o.2.toList

def report (d : RuleDefinition) (severity : Severity) (path : String) (line : Nat) : Finding where
  ruleId := d.id
  severity := severity
  message := d.message
  path := path
  line := line

def inDocument (d : RuleDefinition) (severity : Severity) (doc : Document) : List Finding :=
  (doc.tree.stringsByPath.filter d.picks).map fun o =>
    d.report severity doc.path (doc.body.lineOfString o.2)

/-- One report for each line of the script that matches, with the number of the line from 1. -/
def inScript (d : RuleDefinition) (severity : Severity) (s : ScriptDocument) : List Finding :=
  (((Text.lines s.source.toList).zipIdx 1).filter fun l => d.matchesText l.1).map fun l =>
    d.report severity s.path l.2

end RuleDefinition

namespace DeclaredRule
namespace Defined
variable {d : RuleDefinition} {r : DeclaredRule} (h : Defined d r)
include h

theorem finding_eq (path : String) (line : Nat) :
    r.finding path line = d.report r.severity path line := by
  rw [finding,h.id,h.message]
  rfl

theorem matchesLeaf_eq (o : Json.Path × String) :
    r.matchesLeaf (Json.Value.leafOf none o) = d.picks o := by
  unfold matchesLeaf RuleDefinition.picks
  rw [h.isMatch_eq,h.key]
  cases d.key with
  | none => rfl
  | some name => simp [Json.Value.leafOf,Bool.beq_eq_decide_eq]

theorem checkDocument_eq (doc : Document) : r.checkDocument doc = d.inDocument r.severity doc := by
  have hpicks : r.matchesLeaf ∘ Json.Value.leafOf none = d.picks := funext h.matchesLeaf_eq
  rw [checkDocument,Json.Value.leaves_eq,List.filter_map,List.map_map,hpicks]
  exact List.map_congr_left fun o _ => h.finding_eq doc.path _

theorem checkScript_eq (s : ScriptDocument) : r.checkScript s = d.inScript r.severity s := by
  have hlines : s.lines = ((Text.lines s.source.toList).zipIdx 1).map fun l => (l.2,l.1) := by
    rw [ScriptDocument.lines,List.zipIdx_succ,List.map_map]
    rfl
  rw [checkScript,hlines,List.filter_map,List.map_map]
  simp only [Function.comp_def,h.isMatch_eq,h.finding_eq]
  rfl

/-- Documents come before scripts, and scripts are left out if a field is asked for. -/
theorem analyze_eq (p : Project) :
    r.analyze p = .found
      ((p.documents.filter fun doc => d.covers doc.type doc.path).flatMap (d.inDocument r.severity) ++
        if d.key = none then
          (p.scripts.values.filter fun s => d.covers .script s.path).flatMap (d.inScript r.severity)
        else []) := by
  have hdocument : r.checkDocument = d.inDocument r.severity := funext h.checkDocument_eq
  have hscript : r.checkScript = d.inScript r.severity := funext h.checkScript_eq
  simp only [analyze,checkDocuments,checkScripts,h.applies_eq,hdocument,hscript,h.key,
    Option.isNone_iff_eq_none,RuleDefinition.covers]

end Defined
end DeclaredRule

/-- The strings of a document are those of its file which no commented-out field encloses, and they
stand in the order of a walk through the file. -/
def Document.HasStringsOf (files : List SourceFile) (doc : Document) : Prop :=
  ∃ text tree, (doc.path,text) ∈ files ∧ Json.parse text = .ok tree ∧
    (doc.tree.stringsByPath.Pairwise fun a b => a.1.Before b.1) ∧
    ∀ path s, (path,s) ∈ doc.tree.stringsByPath ↔ path.Plain ∧ tree.at? path = some (.string s)

theorem Project.load_hasStrings (unit : AnalysisUnit) (files : List SourceFile) {doc : Document}
    (hdoc : doc ∈ (load unit files).value.documents) : doc.HasStringsOf files := by
  obtain ⟨⟨path,text⟩,hfile,hread⟩ := (load_aggregates unit files).file_of_mem hdoc
  have hpath := Loaded.read_document_path hread
  obtain ⟨type,tree,-,-,hparse,htree⟩ := Loaded.read_eq_document.mp hread
  have hordered := Json.Value.ordered_of_parse hparse
  have hdocTree : doc.tree = tree.uncommented := by rw [Document.tree,Document.ofTree_body htree]
  rw [Document.HasStringsOf,hdocTree]
  exact ⟨text,tree,hpath ▸ hfile,hparse,
    Json.Value.pairwise_stringsByPath (Json.Value.ordered_uncommented hordered),
    Json.Value.mem_stringsByPath_uncommented hordered⟩

namespace DeclaredRule

/-- The rule of a definition finds just what the definition asks for. In the documents that are
covered, one by one, it reports each string that matches and belongs to the field, where the strings
stand by name and number along their paths and none is below a commented-out field. Without a field
it also reports each line that matches in the scripts that are covered, by their paths. -/
theorem analyze_finds_definition {d : RuleDefinition} {r : DeclaredRule} (h : compile d = .ok r)
    (unit : AnalysisUnit) (files : List SourceFile) :
    let p := (Project.load unit files).value
    (∃ severity, d.HasSeverity severity ∧ r.analyze p = .found
      ((p.documents.filter fun doc => d.covers doc.type doc.path).flatMap (d.inDocument severity) ++
        if d.key = none then
          (p.scripts.values.filter fun s => d.covers .script s.path).flatMap (d.inScript severity)
        else [])) ∧
    (∀ doc ∈ p.documents, doc.HasStringsOf files) ∧
    (p.scripts.values.map ScriptDocument.path).Pairwise (· < ·) := by
  intro p
  have hdefined := compile_eq_ok_iff.mp h
  refine ⟨⟨r.severity,hdefined.hasSeverity,hdefined.analyze_eq p⟩,?_,?_⟩
  · intro doc hdoc
    exact Project.load_hasStrings unit files hdoc
  · exact (Project.load unit files).value.scripts.pairwise_name

/-- A field with lists in lists, where the search stops at the next field and skips a comment, and a
search without a field that goes on to a script. -/
theorem analyze_finds_definition_in_lists :
    let files := [
      ("a/s.js","let x\nx = 'http:'\n"),
      ("a/y.page","\x7b\"id\":\"y\",\"url\":[[\n\"http:1\",\x7b\"to\":\n\"http:2\"\x7d],\n\"http:3\"],\n" ++
        "\"_url\":\"http:4\",\n\"title\":\"http:5\"\x7d"),
      ("b/x.page","\x7b\"id\":\"x\",\"url\":\"http:6\"\x7d")]
    let p := (Project.load .individualFiles files).value
    let keyed : RuleDefinition := {
      id := "keyed", message := "m", pattern := "^http:", severity := some "error",
      appliesTo := ["page"], key := some "url", files := ["a/*"] }
    let free : RuleDefinition := { id := "free", message := "m", pattern := "http:" }
    ∃ r s, compile keyed = .ok r ∧ compile free = .ok s ∧
      (r.analyze p).findings.map (fun f => (f.severity,f.path,f.line)) =
        [(.error,"a/y.page",2),(.error,"a/y.page",4)] ∧
      (s.analyze p).findings.map (fun f => (f.severity,f.path,f.line)) =
        [(.warning,"b/x.page",1),(.warning,"a/y.page",6),(.warning,"a/y.page",2),
         (.warning,"a/y.page",3),(.warning,"a/y.page",4),(.warning,"a/s.js",2)] := by
  intro files p keyed free
  have hkeyed : (compile keyed).toOption.isSome := by decide +kernel
  have hfree : (compile free).toOption.isSome := by decide +kernel
  obtain ⟨r,hr⟩ := Option.isSome_iff_exists.mp hkeyed
  obtain ⟨s,hs⟩ := Option.isSome_iff_exists.mp hfree
  have hr := Except.toOption_eq_some.mp hr
  have hs := Except.toOption_eq_some.mp hs
  obtain ⟨⟨severity,hseverity,hfound⟩,-⟩ := analyze_finds_definition hr .individualFiles files
  obtain ⟨⟨severity',hseverity',hfound'⟩,-⟩ := analyze_finds_definition hs .individualFiles files
  obtain rfl : severity = .error := by
    have hparse : Severity.parse? "error" = some severity := hseverity
    exact Option.some.inj (hparse.symm.trans (by decide +kernel))
  obtain rfl : severity' = .warning := hseverity'
  refine ⟨r,s,hr,hs,?_⟩
  rw [show r.analyze p = _ from hfound,show s.analyze p = _ from hfound']
  decide +kernel

end DeclaredRule
end AppLint
