import AppLint.Engine.Report
import AppLint.Proofs.FindingOrder
import AppLint.Proofs.RuleContract
import AppLint.Proofs.Selection
import AppLint.Proofs.SkippedChecks
import Mathlib.Data.List.Nodup

/-! Rules that run side by side find what they find one after the other, in whatever order they
end. -/
namespace AppLint

namespace Project

def skipping (p : Project) (checks : List SkippedCheck) : Project :=
  { p with tracker := p.tracker.skipAll checks }

theorem skipping_eq (p : Project) (checks : List SkippedCheck) :
    p.skipping checks = p.withSkipped (p.tracker.skipAll checks).skipped := by
  unfold skipping withSkipped
  rw [← Tracker.skipAll_eq]

theorem skipping_append (p : Project) (a b : List SkippedCheck) :
    p.skipping (a ++ b) = (p.skipping a).skipping b := by
  simp [skipping,Tracker.skipAll_append]

end Project

namespace ActiveRule

def skips (r : ActiveRule) (p : Project) : List SkippedCheck := (r.rule.analyze p).skipped

theorem run_value (r : ActiveRule) (p : Project) :
    (r.run p).value = (r.findings p,p.skipping (r.skips p)) := by
  simp [run,findings,skips,Project.skipping,Tracker.skipLogged_value]

theorem analyze_skipping {r : ActiveRule} (h : r.rule.Independent) (p : Project)
    (checks : List SkippedCheck) : r.rule.analyze (p.skipping checks) = r.rule.analyze p := by
  rw [Project.skipping_eq,Rule.analyze_withSkipped h]

theorem findings_skipping {r : ActiveRule} (h : r.rule.Independent) (p : Project)
    (checks : List SkippedCheck) : r.findings (p.skipping checks) = r.findings p := by
  simp only [findings,analyze_skipping h]

theorem skips_skipping {r : ActiveRule} (h : r.rule.Independent) (p : Project)
    (checks : List SkippedCheck) : r.skips (p.skipping checks) = r.skips p := by
  simp only [skips,analyze_skipping h]

theorem severity_of_mem {r : ActiveRule} {p : Project} {f : Finding} (h : f ∈ r.findings p) :
    f.severity = r.severity := by
  obtain ⟨g,-,rfl⟩ := List.mem_map.mp h
  rfl

theorem ruleId_of_mem {r : ActiveRule} {p : Project} {f : Finding} (hr : r.rule.ReportsAsItself p)
    (h : f ∈ r.findings p) : f.ruleId = r.id := by
  obtain ⟨g,hg,rfl⟩ := List.mem_map.mp h
  have hid : g.ruleId = r.rule.id := Rule.ruleId_of_mem hr hg
  exact hid

theorem findings_of_failure {r : ActiveRule} {p : Project} {e : RuleFailure}
    (h : (r.rule.analyze p).result = .error e) : r.findings p = [] := by
  simp [findings,stamp,Analysis.findings,h]

end ActiveRule

namespace Engine

/-- A run finds what each rule finds on the project as it was before, rule by rule, and notes the
checks that each of them leaves out. -/
theorem runAll_value (rules : List ActiveRule) (p : Project)
    (h : ∀ r ∈ rules, r.rule.Independent) :
    (runAll rules p).value =
      (rules.flatMap fun r => r.findings p,p.skipping (rules.flatMap fun r => r.skips p)) := by
  induction rules generalizing p with
  | nil => rfl
  | cons r rest ih =>
    have hrest : ∀ s ∈ rest, s.rule.Independent := fun s hs => h s (List.mem_cons_of_mem r hs)
    -- The rest runs on a project with more checks noted, which none of these rules looks at.
    have hfind : (rest.flatMap fun s => s.findings (p.skipping (r.skips p))) =
        rest.flatMap fun s => s.findings p := by
      apply List.flatMap_congr
      intro s hs
      exact ActiveRule.findings_skipping (hrest s hs) p (r.skips p)
    have hskip : (rest.flatMap fun s => s.skips (p.skipping (r.skips p))) =
        rest.flatMap fun s => s.skips p := by
      apply List.flatMap_congr
      intro s hs
      exact ActiveRule.skips_skipping (hrest s hs) p (r.skips p)
    simp only [runAll,Logged.value_bind,ActiveRule.run_value,ih _ hrest,hfind,hskip,
      Logged.value_pure,List.flatMap_cons,Project.skipping_append]

theorem runAll_findings {rules : List ActiveRule} (p : Project)
    (h : ∀ r ∈ rules, r.rule.Independent) :
    (runAll rules p).value.1 = rules.flatMap fun r => r.findings p := by
  rw [runAll_value rules p h]

theorem run_value (e : Engine) (order : List ActiveRule) (p : Project) :
    (e.run order p).value =
      if serialThreshold < e.rules.length then (runAll order p).value
      else (runAll e.rules p).value := by
  by_cases h : serialThreshold < e.rules.length <;> simp [run,isParallel,h]

theorem analyze_completeness (e : Engine) (order : List ActiveRule) (p : Project) :
    (e.analyze order p).value.1.completeness = (e.analyze order p).value.2.tracker :=
  rfl

/-- In whatever order the rules end, the report has what each of them finds on the project as it was
before, and the project notes what each of them leaves out. Few rules run in their own order. -/
theorem analyze_value {e : Engine} {order : List ActiveRule}
    (hind : ∀ r ∈ e.rules, r.rule.Independent) (horder : order.Perm e.rules) (p : Project) :
    ∃ ran : List ActiveRule, ran.Perm e.rules ∧
      (e.rules.length ≤ serialThreshold → ran = e.rules) ∧
      (e.analyze order p).value.1.findings = (ran.flatMap fun r => r.findings p) ∧
      (e.analyze order p).value.2 = p.skipping (ran.flatMap fun r => r.skips p) := by
  have hanalyze : ((e.analyze order p).value.1.findings,(e.analyze order p).value.2) =
      (e.run order p).value := rfl
  rw [run_value] at hanalyze
  split_ifs at hanalyze with hparallel
  · rw [runAll_value order p fun r hr => hind r (horder.mem_iff.mp hr)] at hanalyze
    obtain ⟨hfindings,hproject⟩ := Prod.mk.inj hanalyze
    exact ⟨order,horder,fun hfew => absurd hparallel (Nat.not_lt.mpr hfew),hfindings,hproject⟩
  · rw [runAll_value e.rules p hind] at hanalyze
    obtain ⟨hfindings,hproject⟩ := Prod.mk.inj hanalyze
    exact ⟨e.rules,List.Perm.refl _,fun _ => rfl,hfindings,hproject⟩

theorem severity_eq_of_ruleId_eq {rules : List ActiveRule} {p : Project}
    (hids : (rules.map ActiveRule.id).Nodup) (hself : ∀ r ∈ rules, r.rule.ReportsAsItself p)
    {a b : Finding} (ha : a ∈ rules.flatMap fun r => r.findings p)
    (hb : b ∈ rules.flatMap fun r => r.findings p) (hrule : a.ruleId = b.ruleId) :
    a.severity = b.severity := by
  obtain ⟨r,hr,har⟩ := List.mem_flatMap.mp ha
  obtain ⟨s,hs,hbs⟩ := List.mem_flatMap.mp hb
  have hid : r.id = s.id := by
    rw [← ActiveRule.ruleId_of_mem (hself r hr) har,hrule,
      ActiveRule.ruleId_of_mem (hself s hs) hbs]
  have hrs : r = s := List.inj_on_of_nodup_map hids hr hs hid
  rw [ActiveRule.severity_of_mem har,ActiveRule.severity_of_mem hbs,hrs]

/-- Whatever the order in which rules end that run side by side, they find the same as in a run of
one after the other: one block for each rule, as if it ran alone, with the severity of the rule.
Failing rules add nothing and change no other block, and sorting hides the order, since the rule of
a finding decides its severity. -/
theorem parallel_agrees_with_serial (rules order : List ActiveRule) (p : Project)
    (hind : ∀ r ∈ rules, r.rule.Independent) (horder : order.Perm rules) :
    let serial := (runAll rules p).value.1
    let parallel := (runAll order p).value.1
    ((⟨rules⟩ : Engine).run order p).value.1 =
      (if serialThreshold < rules.length then parallel else serial) ∧
    parallel.Perm serial ∧
    serial = (rules.flatMap fun r => r.findings p) ∧
    parallel = (order.flatMap fun r => r.findings p) ∧
    (∀ r ∈ rules, ∀ f ∈ r.findings p,
      f.severity = r.severity ∧ (r.rule.ReportsAsItself p → f.ruleId = r.id)) ∧
    (∀ before r after e, order = before ++ r :: after → (r.rule.analyze p).result = .error e →
      r.findings p = [] ∧ parallel = (runAll (before ++ after) p).value.1) ∧
    ((rules.map ActiveRule.id).Nodup → (∀ r ∈ rules, r.rule.ReportsAsItself p) →
      Finding.sort parallel = Finding.sort serial) ∧
    ∀ c entries, (ofEntries c entries).value.ruleIds.Nodup := by
  intro serial parallel
  have hind' : ∀ r ∈ order, r.rule.Independent := fun r hr => hind r (horder.mem_iff.mp hr)
  have hserial : serial = rules.flatMap fun r => r.findings p := runAll_findings p hind
  have hparallel : parallel = order.flatMap fun r => r.findings p := runAll_findings p hind'
  have hperm : parallel.Perm serial := by
    rw [hserial,hparallel]
    exact horder.flatMap_right _
  refine ⟨?_,hperm,hserial,hparallel,
    fun r _ f hf => ⟨ActiveRule.severity_of_mem hf,fun hr => ActiveRule.ruleId_of_mem hr hf⟩,?_,?_,
    ruleIds_nodup⟩
  · rw [run_value]
    split <;> rfl
  · rintro before r after e rfl he
    have hnone : r.findings p = [] := ActiveRule.findings_of_failure he
    have hothers : ∀ s ∈ before ++ after, s.rule.Independent := by
      intro s hs
      apply hind'
      rw [List.mem_append] at hs
      simp only [List.mem_append,List.mem_cons]
      tauto
    refine ⟨hnone,?_⟩
    rw [hparallel,runAll_findings p hothers]
    simp [hnone]
  · intro hids hself
    apply Finding.sort_eq_of_perm hperm
    intro a ha b hb hrule
    rw [hperm.mem_iff,hserial] at ha hb
    exact severity_eq_of_ruleId_eq hids hself ha hb hrule

/-- Three rules on an empty project, of which one fails and the first comes to its end last. -/
theorem parallel_agrees_with_failing_rule :
    let home : CustomRule :=
      { id := "home-page"
        description := "there is a home page"
        analyze := fun _ p => .found (if (p.page? "home").isSome then []
          else [{ ruleId := "home-page", severity := .info, message := "no home page" }]) }
    let store : CustomRule :=
      { id := "store"
        description := "asks a store"
        analyze := fun _ _ => ⟨[],.error (.error ["backing store unavailable"])⟩ }
    let a : ActiveRule := ⟨.custom home,.error⟩
    let b : ActiveRule := ⟨.custom store,.warning⟩
    let c : ActiveRule := ⟨.builtin .siteNavigation,.error⟩
    let p : Project := { tracker := { unit := .fullApp } }
    Finding.sort (runAll [b,c,a] p).value.1 = Finding.sort (runAll [a,b,c] p).value.1 ∧
      (runAll [b,c,a] p).value.1 = (runAll [c,a] p).value.1 ∧
      (runAll [b,c,a] p).value.1.map (·.message) = ["no home page"] := by
  intro home store a b c p
  have hind : ∀ r ∈ [a,b,c], r.rule.Independent := by
    simp only [List.forall_mem_cons]
    exact ⟨fun _ _ => rfl,fun _ _ => rfl,trivial,by simp⟩
  have hself : ∀ r ∈ [a,b,c], r.rule.ReportsAsItself p := by
    simp only [List.forall_mem_cons]
    refine ⟨fun f hf => ?_,fun f hf => ?_,trivial,by simp⟩
    · obtain rfl := List.mem_singleton.mp hf
      rfl
    · cases hf
  have hids : ([a,b,c].map ActiveRule.id).Nodup := by decide
  have horder : [b,c,a].Perm [a,b,c] := List.perm_append_singleton a [b,c]
  have h := parallel_agrees_with_serial [a,b,c] [b,c,a] p hind horder
  exact ⟨h.2.2.2.2.2.2.1 hids hself,(h.2.2.2.2.2.1 [] b [c,a] _ rfl rfl).2,rfl⟩

end Engine
end AppLint
