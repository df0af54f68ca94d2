import AppLint.Proofs.ExpressionNormalForm
import AppLint.Proofs.Representation
import AppLint.Proofs.RuleSettings
import AppLint.Proofs.TemplateParts

/-! The variables of templates. A segment of an interpolation refers to a variable if it is an
identifier or a path, and exactly the variables that nothing makes known are reported. -/
namespace AppLint

namespace Template

def parts (s : List Char) : Parts :=
  match h : split? s with
  | some (before,source,after) =>
    have := length_lt_of_split? h
    .next before source (parts after)
  | none => .last s
termination_by s.length

theorem parts_of_some {s before source after : List Char}
    (h : split? s = some (before,source,after)) : parts s = .next before source (parts after) := by
  rw [parts]
  split <;> simp_all

theorem parts_of_none {s : List Char} (h : split? s = none) : parts s = .last s := by
  rw [parts]
  split <;> simp_all

namespace Parts

theorem parts_written {p : Parts} (h : p.LeftmostShortest) : parts p.written = p := by
  induction p with
  | last text => exact parts_of_none (split?_eq_none_iff.mpr h)
  | next text source rest ih => rw [parts_of_some (split?_next h),ih h.2.2]

def sources : Parts → List (List Char)
  | last _ => []
  | next _ source rest => source :: rest.sources

end Parts

theorem parts_leftmostShortest (s : List Char) :
    (parts s).written = s ∧ (parts s).LeftmostShortest := by
  obtain ⟨p,rfl,hp⟩ := Parts.exists_leftmostShortest s
  rw [Parts.parts_written hp]
  exact ⟨rfl,hp⟩

def sources (token : String) : List (List Char) := (parts (body token.toList)).sources

@[simp] theorem identifiers_append (a b : List TemplateNode) :
    identifiers (a ++ b) = identifiers a ++ identifiers b :=
  List.flatMap_append

@[simp] theorem identifiers_textNode (s : List Char) : identifiers (textNode s) = [] := by
  unfold textNode
  split <;> rfl

theorem identifiers_nodes (s : List Char) :
    identifiers (nodes s) =
      (parts s).sources.flatMap fun source => (Expr.parse source).identifiers := by
  fun_induction nodes s with
  | case1 s before source after hsplit _ ih =>
    rw [parts_of_some hsplit,identifiers_append,identifiers_textNode,List.nil_append,Parts.sources,
      List.flatMap_cons,← ih]
    rfl
  | case2 s hsplit =>
    rw [parts_of_none hsplit,identifiers_textNode]
    rfl

end Template

namespace Expr

/-- The variable that a segment refers to, if the segment is an identifier or a path. -/
def referent? (x : List Char) : Option String :=
  let y := Text.trim x
  if isIdentifier y then some (String.ofList y)
  else if IsPath y then (names y).head?.map String.ofList
  else none

theorem root?_chain {names : List (List Char)} (h : names ≠ []) :
    (chain names).root? = names.head?.map String.ofList := by
  induction names using List.reverseRecOn with
  | nil => exact absurd rfl h
  | append_singleton init last ih =>
    cases init with
    | nil => rfl
    | cons first rest =>
      rw [chain_concat (List.cons_ne_nil first rest),root?,ih (List.cons_ne_nil first rest)]
      rfl

theorem IsChain.identifiers_eq {e : Expr} (h : e.IsChain) : e.identifiers = e.root?.toList := by
  cases e with
  | identifier name => rfl
  | propertyAccess object property => rfl
  | _ => exact h.elim

theorem IsPath.not_isIdentifier {y : List Char} (h : IsPath y) : ¬isIdentifier y = true := by
  intro hid
  exact absurd (isIdentifierPart_of_mem hid (isPath_iff.mp h).1) (by decide)

theorem identifiers_parse (s : List Char) :
    (parse s).identifiers = (segments s).flatMap fun x => (reading x).identifiers := by
  obtain ⟨init,last,hseg,hparse⟩ := joined_parse s
  rw [hseg,hparse]
  clear hseg hparse
  induction init with
  | nil => simp
  | cons x init ih =>
    rw [List.cons_append,List.flatMap_cons,← ih]
    rfl

end Expr

namespace UnknownVariable

/-- What cannot be read is a name as well, but no identifier, so that only variables are left. -/
theorem filter_identifiers_reading (known : List String) (x : List Char) :
    (Expr.reading x).identifiers.filter (isUnknown known) =
      (Expr.referent? x).toList.filter fun name => !known.contains name := by
  have hname : ∀ name : List Char, Expr.isIdentifier name = true →
      [String.ofList name].filter (isUnknown known) =
        [String.ofList name].filter fun n => !known.contains n := by
    intro name h
    simp [List.filter_cons,isUnknown,h]
  unfold Expr.reading Expr.referent?
  dsimp only
  generalize Text.trim x = y
  by_cases hpath : Expr.IsPath y
  · rw [if_pos hpath,if_neg hpath.not_isIdentifier,if_pos hpath]
    cases hn : Expr.names y with
    | nil => simp [Expr.IsPath,hn] at hpath
    | cons first rest =>
      have hids : ∀ name ∈ first :: rest, Expr.isIdentifier name = true := hn ▸ hpath.2
      have hchain := Expr.isChain_chain (List.cons_ne_nil first rest) hids
      rw [hchain.identifiers_eq,Expr.root?_chain (List.cons_ne_nil first rest)]
      exact hname first (hids first List.mem_cons_self)
  · rw [if_neg hpath,if_neg hpath]
    by_cases hid : Expr.isIdentifier y = true
    · rw [if_pos hid,if_pos hid]
      exact hname y hid
    · rw [if_neg hid,if_neg hid]
      -- a literal has no identifiers, and any other text fails the test for one
      split_ifs
      · rfl
      · simp [Expr.identifiers,Expr.root?,isUnknown,hid]

theorem filter_identifiers (known : List String) (token : String) :
    (Template.identifiers (Template.parse token)).filter (isUnknown known) =
      (((Template.sources token).flatMap Expr.segments).filterMap Expr.referent?).filter fun name =>
        !known.contains name := by
  rw [Template.parse,Template.identifiers_nodes,Template.sources]
  simp only [Expr.identifiers_parse,List.filter_flatMap,filter_identifiers_reading,
    List.filterMap_eq_flatMap_toList,List.flatMap_assoc]

/-- Neither the runtime nor the settings of a call that is taken make the variable known. -/
def Unbound (calls : List Settings) (name : String) : Prop :=
  name ∉ defaultRoots ∧ ∀ settings ∈ calls, ∀ roots, Gives settings roots → name ∉ roots

theorem unbound_iff {calls : List Settings} {name : String} :
    Unbound calls name ↔ name ∉ calls.foldl (Configuring.after configure) defaultRoots := by
  rw [mem_foldl_after,not_or]
  simp [Unbound]

instance (calls : List Settings) (name : String) : Decidable (Unbound calls name) :=
  decidable_of_iff _ unbound_iff.symm

end UnknownVariable

theorem ScriptDocument.parse_eq_ok {path source : String} {s : ScriptDocument}
    (h : parse path source = .ok s) :
    s.path = path ∧ s.source = source ∧ ∀ t ∈ s.templates, t.nodes = Template.parse t.raw := by
  unfold parse at h
  split at h
  · cases h
    refine ⟨rfl,rfl,fun t ht => ?_⟩
    obtain ⟨l,-,rfl⟩ := List.mem_map.mp ht
    rfl
  · cases h

namespace Project

/-- Each script is what its source reads as. -/
def Scripted (p : Project) : Prop :=
  ∀ s ∈ p.scripts.values, ScriptDocument.parse s.path s.source = .ok s

theorem load_scripted (unit : AnalysisUnit) (files : List SourceFile) :
    (load unit files).value.Scripted := by
  have h := (load_aggregates unit files).scripts
  intro s hs
  obtain ⟨e,he,rfl⟩ := List.mem_map.mp hs
  obtain ⟨f,-,-,hread⟩ := Batch.mem_of_script? ((h e.1 e.2).mp he)
  have hparse := (Loaded.read_eq_script.mp hread).2
  obtain ⟨hpath,hsource,-⟩ := ScriptDocument.parse_eq_ok hparse
  rw [hpath,hsource]
  exact hparse

theorem Scripted.nodes_eq {p : Project} (h : p.Scripted) {s : ScriptDocument}
    (hs : s ∈ p.scripts.values) {t : TemplateLiteral} (ht : t ∈ s.templates) :
    t.nodes = Template.parse t.raw :=
  (ScriptDocument.parse_eq_ok (h s hs)).2.2 t ht

end Project

namespace UnknownVariable

/-- In the scripts by path, their templates, the interpolations of these and their segments, there is
one finding for each segment that refers to an unbound variable, and no other. Interpolations are the
leftmost and shortest ones. Calls with settings are taken just if they give variables. -/
theorem analyze_reports_unbound {p : Project} (hp : p.Scripted) (calls : List Settings) :
    (∀ known known' settings, configure settings known = (.ok (),known') ↔
      ∃ roots, Gives settings roots ∧ known' = known ++ roots) ∧
    (∀ s, (Template.parts s).written = s ∧ (Template.parts s).LeftmostShortest) ∧
    (p.scripts.values.map ScriptDocument.path).Pairwise (· < ·) ∧
    ((BuiltinRule.unknownVariable defaultRoots).settledAll calls).analyze p =
      .found (p.scripts.values.flatMap fun s => s.templates.flatMap fun t =>
        ((((Template.sources t.raw).flatMap Expr.segments).filterMap Expr.referent?).filter fun name =>
          Unbound calls name).map fun name =>
            { ruleId := "template-unknown-variable"
              severity := .warning
              message := "unknown template variable " ++ Text.quoted name
              path := s.path
              line := t.line }) := by
  refine ⟨fun _ _ _ => configure_eq_ok,Template.parts_leftmostShortest,p.scripts.pairwise_name,?_⟩
  have hknown :
      (fun name => !(calls.foldl (Configuring.after configure) defaultRoots).contains name) =
        fun name => decide (Unbound calls name) := by
    funext name
    simp [unbound_iff]
  rw [BuiltinRule.settledAll_unknownVariable]
  refine congrArg Analysis.found (List.flatMap_congr fun s hs => List.flatMap_congr fun t ht => ?_)
  rw [hp.nodes_eq hs ht,filter_identifiers,hknown]
  rfl

/-- Two templates, where one call makes a variable known and another is refused as a whole. -/
theorem analyze_reports_unbound_cart :
    let source :=
      "const a = `\x7b\x7buser.name ?? cart . total ?? 'x.y'\x7d\x7d \x7b\x7ba + b\x7d\x7d`;\n" ++
      "const b = `\x7b\x7bextra ?? items[0] ?? $index\x7d\x7d`;"
    let p := (Project.load .individualFiles [("ui.js",source)]).value
    let calls := [[("known_roots",Json.Value.array [.string "extra"])],
      [("known_roots",.array [.string "cart",.string "a b"])]]
    let analysis := ((BuiltinRule.unknownVariable defaultRoots).settledAll calls).analyze p
    p.Scripted ∧ analysis.skipped = [] ∧
      analysis.findings.map (fun f => (f.message,f.path,f.line)) =
        [("unknown template variable \"cart\"","ui.js",1),
         ("unknown template variable \"$index\"","ui.js",2)] := by
  intro source p calls analysis
  have hp : p.Scripted := Project.load_scripted _ _
  obtain ⟨-,-,-,hreport⟩ := analyze_reports_unbound hp calls
  have hanalysis : analysis = _ := hreport
  rw [hanalysis]
  exact ⟨hp,rfl,by decide +kernel⟩

end UnknownVariable
end AppLint
