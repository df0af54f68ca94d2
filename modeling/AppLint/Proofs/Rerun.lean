import AppLint.Proofs.Bookkeeping
import AppLint.Proofs.Interleaving

/-! A second run of the same rules on the same project finds the same and notes nothing new. -/
namespace AppLint

theorem Tracker.skipAll_of_forall_mem {t : Tracker} {checks : List SkippedCheck}
    (h : ∀ c ∈ checks, c ∈ t.skipped) : t.skipAll checks = t := by
  induction checks with
  | nil => rfl
  | cons c rest ih =>
    obtain ⟨hc,hrest⟩ := List.forall_mem_cons.mp h
    have hskip : t.skip c = t := by simp [skip,hc]
    calc
      t.skipAll (c :: rest) = (t.skip c).skipAll rest := rfl
      _ = t.skipAll rest := by rw [hskip]
      _ = t := ih hrest

theorem Project.skipping_of_forall_mem {p : Project} {checks : List SkippedCheck}
    (h : ∀ c ∈ checks, c ∈ p.tracker.skipped) : p.skipping checks = p := by
  rw [skipping,Tracker.skipAll_of_forall_mem h]

namespace Engine

/-- All checks that the rules leave out on the project are noted. -/
def Settled (e : Engine) (p : Project) : Prop :=
  ∀ r ∈ e.rules, ∀ c ∈ r.skips p, c ∈ p.tracker.skipped

theorem settled_skipping {e : Engine} (hind : ∀ r ∈ e.rules, r.rule.Independent) {p : Project}
    {noted : List SkippedCheck} (h : ∀ r ∈ e.rules, ∀ c ∈ r.skips p, c ∈ noted) :
    e.Settled (p.skipping noted) := by
  intro r hr c hc
  rw [ActiveRule.skips_skipping (hind r hr)] at hc
  exact Tracker.mem_skipAll.mpr (Or.inr (h r hr c hc))

section
variable {e : Engine} {order : List ActiveRule} (hind : ∀ r ∈ e.rules, r.rule.Independent)
  (horder : order.Perm e.rules) {p : Project}
include hind horder

theorem settled_analyze : e.Settled (e.analyze order p).value.2 := by
  obtain ⟨ran,hperm,-,-,hproject⟩ := analyze_value hind horder p
  rw [hproject]
  apply settled_skipping hind
  intro r hr c hc
  exact List.mem_flatMap.mpr ⟨r,hperm.mem_iff.mpr hr,hc⟩

theorem Settled.analyze_eq (h : e.Settled p) : (e.analyze order p).value.2 = p := by
  obtain ⟨ran,hperm,-,-,hproject⟩ := analyze_value hind horder p
  rw [hproject]
  apply Project.skipping_of_forall_mem
  intro c hc
  obtain ⟨r,hr,hc⟩ := List.mem_flatMap.mp hc
  exact h r (hperm.mem_iff.mp hr) c hc

end

theorem Settled.afterRuns_eq {e : Engine} (hind : ∀ r ∈ e.rules, r.rule.Independent) {p : Project}
    (h : e.Settled p) {orders : List (List ActiveRule)}
    (horders : ∀ order ∈ orders, order.Perm e.rules) :
    p.afterRuns (orders.map fun order => (e,order)) = p := by
  induction orders with
  | nil => rfl
  | cons order rest ih =>
    obtain ⟨horder,hrest⟩ := List.forall_mem_cons.mp horders
    calc
      p.afterRuns ((order :: rest).map fun order => (e,order)) =
          (e.analyze order p).value.2.afterRuns (rest.map fun order => (e,order)) := rfl
      _ = p.afterRuns (rest.map fun order => (e,order)) := by
          rw [h.analyze_eq hind horder]
      _ = p := ih hrest

/-- Runs of the same rules on projects that differ in skipped checks have the same findings up to
their order; few rules have them in the same order too. -/
theorem analyze_findings_perm {e : Engine} {order order' : List ActiveRule}
    (hind : ∀ r ∈ e.rules, r.rule.Independent) (horder : order.Perm e.rules)
    (horder' : order'.Perm e.rules) (p : Project) (checks : List SkippedCheck) :
    let first := (e.analyze order p).value.1.findings
    let again := (e.analyze order' (p.skipping checks)).value.1.findings
    again.Perm first ∧ (e.rules.length ≤ serialThreshold → again = first) := by
  intro first again
  obtain ⟨ran,hperm,hserial,hfirst,-⟩ := analyze_value hind horder p
  obtain ⟨ran',hperm',hserial',hagain,-⟩ := analyze_value hind horder' (p.skipping checks)
  have hsame : (ran'.flatMap fun r => r.findings (p.skipping checks)) =
      ran'.flatMap fun r => r.findings p := by
    apply List.flatMap_congr
    intro r hr
    exact ActiveRule.findings_skipping (hind r (hperm'.mem_iff.mp hr)) p checks
  simp only [first,again,hfirst,hagain,hsame]
  refine ⟨(hperm'.trans hperm.symm).flatMap_right _,fun hfew => ?_⟩
  rw [hserial hfew,hserial' hfew]

/-- However often an engine runs again on a project, and in whatever order its rules end each time,
the project stays as the first run left it: the report has the same skipped checks and the same
findings, up to their order if there are more than five rules. Nor does it matter in which order the
rules that run side by side note their checks, in the first run or in a later one. -/
theorem rerun_changes_nothing (e : Engine) (hind : ∀ r ∈ e.rules, r.rule.Independent) (p : Project)
    (first last : List ActiveRule) (between : List (List ActiveRule))
    (hfirst : first.Perm e.rules) (hbetween : ∀ order ∈ between, order.Perm e.rules)
    (hlast : last.Perm e.rules) :
    let once := (e.analyze first p).value
    let again := (e.analyze last (once.2.afterRuns (between.map fun order => (e,order)))).value
    again.1.completeness.skipped = once.1.completeness.skipped ∧
    again.1.completeness.toJson = once.1.completeness.toJson ∧
    again.1.findings.Perm once.1.findings ∧
    (e.rules.length ≤ 5 → again.1.findings = once.1.findings) ∧
    again.2 = once.2 ∧
    ∀ noted more, Interleaving (e.rules.map fun r => r.skips p) noted →
      Interleaving (e.rules.map fun r => r.skips (p.skipping noted)) more →
      (p.skipping noted).skipping more = p.skipping noted := by
  intro once again
  have hsettled : e.Settled once.2 := settled_analyze hind hfirst
  have hbefore : once.2.afterRuns (between.map fun order => (e,order)) = once.2 :=
    hsettled.afterRuns_eq hind hbetween
  have hproject : again.2 = once.2 := by
    simp only [again,hbefore,hsettled.analyze_eq hind hlast]
  have hcompleteness : again.1.completeness = once.1.completeness :=
    congrArg Project.tracker hproject
  obtain ⟨checks,hchecks⟩ : ∃ checks, once.2 = p.skipping checks := analyze_project e first p
  have hfindings := analyze_findings_perm hind hfirst hlast p checks
  rw [← hchecks,← hbefore] at hfindings
  refine ⟨by rw [hcompleteness],by rw [hcompleteness],hfindings.1,hfindings.2,hproject,?_⟩
  intro noted more hnoted hmore
  have hall : e.Settled (p.skipping noted) := by
    apply settled_skipping hind
    intro r hr c hc
    exact (hnoted.mem_iff c).mpr ⟨r.skips p,List.mem_map_of_mem hr,hc⟩
  apply Project.skipping_of_forall_mem
  intro c hc
  obtain ⟨seq,hseq,hc⟩ := (hmore.mem_iff c).mp hc
  obtain ⟨r,hr,rfl⟩ := List.mem_map.mp hseq
  exact hall r hr c hc

/-- Six rules on a page that embeds an unknown fragment and has neither title nor site. They end in
reverse order first, then twice in their own order. -/
theorem rerun_changes_nothing_but_order :
    let files := [("a.page",
      "\x7b\"id\":\"a\",\"components\":[\x7b\"type\":\"fragment\",\"ref\":\"x\"\x7d]\x7d")]
    let p := (Project.load .fullApp files).value
    let rules : List BuiltinRule := [.pageTitle,.componentLimit 0,.fragmentReference,
      .fragmentUnused,.dataBinding,.siteNavigation]
    let e : Engine := ⟨rules.map fun b => ⟨.builtin b,.error⟩⟩
    let once := (e.analyze e.rules.reverse p).value
    let between := [e.rules]
    let again := (e.analyze e.rules
      (once.2.afterRuns (between.map fun order => (e,order)))).value
    (∀ r ∈ e.rules, r.rule.Independent) ∧
      again.1.completeness.skipped = once.1.completeness.skipped ∧
      again.1.completeness.toJson = once.1.completeness.toJson ∧
      again.1.findings.Perm once.1.findings ∧ again.1.findings ≠ once.1.findings ∧
      again.1.completeness.skipped.map (·.rule) = ["site-navigation","fragment-reference"] ∧
      again.1.findings.map (·.ruleId) = ["page-title-required","page-component-limit"] := by
  intro files p rules e once between again
  have hind : ∀ r ∈ e.rules, r.rule.Independent := by
    intro r hr
    obtain ⟨b,-,rfl⟩ := List.mem_map.mp hr
    trivial
  have hbetween : ∀ order ∈ between, order.Perm e.rules := by simp [between]
  have hsame : again.1.completeness.skipped = once.1.completeness.skipped ∧
      again.1.completeness.toJson = once.1.completeness.toJson ∧
      again.1.findings.Perm once.1.findings := by
    -- With its value the project would be evaluated to compare the two sides.
    clear_value p
    obtain ⟨hskipped,hjson,hfindings,-⟩ := rerun_changes_nothing e hind p e.rules.reverse e.rules
      between (List.reverse_perm _) hbetween (List.Perm.refl _)
    exact ⟨hskipped,hjson,hfindings⟩
  exact ⟨hind,hsame.1,hsame.2.1,hsame.2.2,by decide +kernel,by decide +kernel,by decide +kernel⟩

end Engine
end AppLint
