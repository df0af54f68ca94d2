import AppLint.Proofs.ManifestEntries
import AppLint.Proofs.Schedule

/-! What is configured under the id of a rule governs all that the rule reports: the names of the
entries, the ids of the rules and the ids in their findings are the same. -/
namespace AppLint

namespace Discovery

/-- A definition stands in a manifest that is met below the directory and can be read. -/
def Defines : Option (Stored × String) → RuleDefinition → Prop
  | none, _ => False
  | some (root,directory), d =>
    ∃ met path file m, root.walk? directory = some met ∧ .ok (path,file) ∈ met ∧
      isManifest path = true ∧ Manifest.ofStored path file = .ok m ∧ d ∈ m.rules

theorem defines_of_mem {root : Stored} {directory path : String} {content : ByteArray}
    {d : RuleDefinition} (hfile : (path,content) ∈ manifests root directory)
    (hd : d ∈ Manifest.rulesIn content) : Defines (some (root,directory)) d := by
  obtain ⟨met,hmet,hmem,hmanifest⟩ := mem_manifests.mp hfile
  obtain ⟨m,hm,hd⟩ := Manifest.exists_ofStored_of_mem hd path
  exact ⟨met,path,.file content,m,hmet,hmem,hmanifest,hm,hd⟩

theorem all_value (registered : List RuleEntry) (directory : Option (Stored × String)) :
    (all registered directory).value = RuleEntry.builtins ++ registered ++
      directory.elim [] fun place => (ofDirectory place.1 place.2).value := by
  cases directory <;> simp [all]

/-- Without registered entries, all that is discovered is built in or defined in the directory. -/
theorem mem_all {directory : Option (Stored × String)} {entry : RuleEntry}
    (h : entry ∈ (all [] directory).value) :
    (∃ b ∈ BuiltinRule.all, entry = .ofBuiltin b) ∨
      ∃ d, Defines directory d ∧ RuleEntry.ofDefinition d = .ok entry := by
  rw [all_value,List.append_nil] at h
  rcases List.mem_append.mp h with h | h
  · obtain ⟨b,hb,rfl⟩ := List.mem_map.mp h
    exact Or.inl ⟨b,hb,rfl⟩
  · right
    cases directory with
    | none => cases h
    | some place =>
      rw [Option.elim_some,ofDirectory_value] at h
      obtain ⟨⟨path,content⟩,hfile,h⟩ := List.mem_flatMap.mp h
      obtain ⟨d,hd,hentry⟩ := List.mem_filterMap.mp h
      exact ⟨d,defines_of_mem hfile hd,Except.toOption_eq_some.mp hentry⟩

/-- Where a rule comes from that is not registered: it is built in, under any settings, or declared
in the directory. That also says what its own severity is. -/
inductive Origin (directory : Option (Stored × String)) : Rule → Prop
  | builtin (listed b : BuiltinRule) (hlisted : listed ∈ BuiltinRule.all)
      (hid : b.id = listed.id) (hseverity : b.severity = listed.severity) :
      Origin directory (.builtin b)
  | declared (d : RuleDefinition) (r : DeclaredRule) (hd : Defines directory d)
      (hcompile : DeclaredRule.compile d = .ok r) (hid : r.id = d.id)
      (hseverity : d.severity.elim (r.severity = .warning)
        fun name => Severity.parse? name = some r.severity) :
      Origin directory (.declared r)

theorem build_of_mem_all {directory : Option (Stored × String)} {entry : RuleEntry}
    (h : entry ∈ (all [] directory).value) :
    ∃ rule, entry.build = .ok rule ∧ rule.id = entry.name ∧ Origin directory rule := by
  obtain ⟨b,hb,rfl⟩ | ⟨d,hd,hentry⟩ := mem_all h
  · exact ⟨.builtin b,rfl,rfl,.builtin b b hb rfl rfl⟩
  · obtain ⟨r,hcompile,rfl⟩ := RuleEntry.ofDefinition_eq_ok.mp hentry
    have hdefined := DeclaredRule.compile_eq_ok_iff.mp hcompile
    exact ⟨.declared r,rfl,hdefined.id,
      .declared d r hd hcompile hdefined.id hdefined.hasSeverity⟩

namespace Origin
variable {directory : Option (Stored × String)} {rule : Rule}

theorem independent (h : Origin directory rule) : rule.Independent := by
  cases h <;> trivial

theorem reportsAsItself (h : Origin directory rule) (p : Project) : rule.ReportsAsItself p := by
  cases h <;> trivial

end Origin
end Discovery

theorem BuiltinRule.configure?_severity {settings : Settings} {b r : BuiltinRule}
    {answer : Except SettingsError Unit} (h : b.configure? settings = some (answer,r)) :
    r.severity = b.severity := by
  cases b <;> cases h <;> rfl

theorem Engine.Applied.origin {directory : Option (Stored × String)} {settings : Settings}
    {built rule : Rule} (h : Engine.Applied settings built rule)
    (hbuilt : Discovery.Origin directory built) : Discovery.Origin directory rule := by
  cases h with
  | empty | ignored => exact hbuilt
  | accepted _ _ h =>
    cases hbuilt with
    | builtin listed b hlisted hid hseverity =>
      obtain ⟨⟨_,r⟩,hr,hmap⟩ := Option.map_eq_some_iff.mp h
      cases hmap
      exact .builtin listed r hlisted ((BuiltinRule.configure?_id hr).trans hid)
        ((BuiltinRule.configure?_severity hr).trans hseverity)
    | declared d r hd hcompile hid hseverity => cases h

namespace Engine

/-- An active rule belongs to an entry that is no example and has the rule's id for its name, and is
configured under that id. -/
theorem governed_of_mem {c : Configuration} {directory : Option (Stored × String)} {r : ActiveRule}
    (h : r ∈ (ofEntries c (Discovery.all [] directory).value).value.rules) :
    Discovery.Origin directory r.rule ∧ c.isEnabled r.id = true ∧
      r.severity = (c.severity? r.id).getD r.rule.severity ∧
      ∃ entry ∈ (Discovery.all [] directory).value, entry.isExample = false ∧ entry.name = r.id := by
  obtain ⟨entry,hentry,built,he⟩ := eligible_of_mem h
  obtain ⟨rule,hbuild,hname,horigin⟩ := Discovery.build_of_mem_all hentry
  obtain rfl : rule = built := Except.ok.inj (hbuild.symm.trans he.builds)
  have hid : entry.name = r.id := hname.symm.trans he.id_eq.symm
  exact ⟨he.applied.origin horigin,hid ▸ he.enabled,hid ▸ he.severity,entry,hentry,he.notExample,
    hid⟩

/-- Every finding of a report is that of just one active rule, which is enabled. It has the severity
that is configured for the rule, or else the rule's own. Examples find nothing, unless another entry
has the same id. -/
theorem findings_governed (c : Configuration) (directory : Option (Stored × String)) (p : Project)
    (order : List ActiveRule)
    (horder : order.Perm (ofEntries c (Discovery.all [] directory).value).value.rules) :
    let entries := (Discovery.all [] directory).value
    let engine := (ofEntries c entries).value
    (∀ entry ∈ entries, ∃ rule, entry.build = .ok rule ∧ rule.id = entry.name) ∧
    ∀ f ∈ (engine.analyze order p).value.1.findings,
      engine.ruleIds.count f.ruleId = 1 ∧
      c.isEnabled f.ruleId = true ∧
      (∃ r ∈ engine.rules, r.id = f.ruleId ∧ f ∈ r.findings p ∧
        f.severity = (c.severity? f.ruleId).getD r.rule.severity ∧
        Discovery.Origin directory r.rule) ∧
      ∀ before entry after, entries = before ++ entry :: after → entry.isExample = true →
        (∀ other ∈ before ++ after, other.name ≠ entry.name) → f.ruleId ≠ entry.name := by
  intro entries engine
  refine ⟨fun entry hentry => ?_,fun f hf => ?_⟩
  · obtain ⟨rule,hbuild,hname,-⟩ := Discovery.build_of_mem_all hentry
    exact ⟨rule,hbuild,hname⟩
  have hind : ∀ r ∈ engine.rules, r.rule.Independent := fun r hr =>
    (governed_of_mem hr).1.independent
  obtain ⟨ran,hperm,-,hfindings,-⟩ := analyze_value hind horder p
  rw [hfindings] at hf
  obtain ⟨r,hran,hfound⟩ := List.mem_flatMap.mp hf
  have hr : r ∈ engine.rules := hperm.mem_iff.mp hran
  obtain ⟨horigin,henabled,hseverity,own,hown,hnotExample,hname⟩ := governed_of_mem hr
  have hid : f.ruleId = r.id := ActiveRule.ruleId_of_mem (horigin.reportsAsItself p) hfound
  refine ⟨?_,hid ▸ henabled,⟨r,hr,hid.symm,hfound,?_,horigin⟩,?_⟩
  · have hmem : f.ruleId ∈ engine.ruleIds := hid ▸ List.mem_map_of_mem hr
    exact List.count_eq_one_of_mem (ruleIds_nodup c entries) hmem
  · rw [ActiveRule.severity_of_mem hfound,hseverity,hid]
  · intro before entry after hentries hexample hothers hsame
    have hsplit : own ∈ before ++ entry :: after := hentries ▸ hown
    have hother : own ∈ before ++ after := by
      rcases List.mem_append.mp hsplit with hmem | hmem
      · exact List.mem_append_left _ hmem
      · rcases List.mem_cons.mp hmem with rfl | hmem
        · simp [hnotExample] at hexample
        · exact List.mem_append_right _ hmem
    exact hothers own hother (hname.trans (hid.symm.trans hsame))

/-- A manifest declares a rule without severity and an example, and both patterns occur in a title.
The rule is configured to report errors, and what it finds is the only finding. -/
theorem findings_governed_declared :
    let manifest := "rules:\n- \x7bid: todo,message: m,pattern: TODO\x7d\n" ++
      "- \x7bid: draft,message: m,pattern: Draft,example: true\x7d"
    let root := Stored.directory [("rules",.directory [("a.yaml",.ofText manifest)])]
    let directory := some (root,"rules")
    let c : Configuration := ⟨[("fragment-unused",.disabled),("todo",{ severity := some .error })]⟩
    let files := [("a.page","\x7b\"id\":\"a\",\"title\":\"TODO Draft\"\x7d")]
    let p := (Project.load .fullApp files).value
    let entries := (Discovery.all [] directory).value
    let engine := (ofEntries c entries).value
    let f : Finding := ⟨"todo",.error,"m","a.page",1⟩
    (engine.analyze engine.rules p).value.1.findings = [f] ∧
      engine.ruleIds.count f.ruleId = 1 ∧ c.isEnabled f.ruleId = true ∧
      (∃ r ∈ engine.rules, r.id = f.ruleId ∧ f ∈ r.findings p ∧
        f.severity = (c.severity? f.ruleId).getD r.rule.severity ∧
        Discovery.Origin directory r.rule) ∧
      ∃ before entry, entries = before ++ [entry] ∧ entry.isExample = true ∧
        (∀ other ∈ before ++ [], other.name ≠ entry.name) ∧ f.ruleId ≠ entry.name := by
  intro manifest root directory c files p entries engine f
  let others := RuleEntry.builtins.map (·.name) ++ ["todo"]
  have hvalues : (engine.analyze engine.rules p).value.1.findings = [f] ∧
      entries.map (·.name) = others ++ ["draft"] ∧
      entries.getLast?.map (·.isExample) = some true := by decide +kernel
  obtain ⟨hfindings,hnames,hlast⟩ := hvalues
  -- With its value the directory would be read again to compare the two sides.
  clear_value root p
  obtain ⟨before,last,hentries,hbefore,hdraft⟩ := List.map_eq_append_iff.mp hnames
  obtain ⟨entry,rfl,hname⟩ := List.map_eq_singleton_iff.mp hdraft
  have hexample : entry.isExample = true := by simpa [hentries] using hlast
  have hothers : ∀ other ∈ before ++ [], other.name ≠ entry.name := by
    intro other hother
    have hmem : other.name ∈ others := by
      rw [List.append_nil] at hother
      exact hbefore ▸ List.mem_map_of_mem hother
    have hne : ∀ name ∈ others, name ≠ "draft" := by decide
    exact hname ▸ hne _ hmem
  have hf : f ∈ (engine.analyze engine.rules p).value.1.findings := by simp [hfindings]
  obtain ⟨-,hgoverned⟩ := findings_governed c directory p engine.rules (List.Perm.refl _)
  obtain ⟨hcount,henabled,hrule,hne⟩ := hgoverned f hf
  exact ⟨hfindings,hcount,henabled,hrule,before,entry,hentries,hexample,hothers,
    hne before entry [] hentries hexample hothers⟩

end Engine
end AppLint
