import AppLint.Completeness.Report
import AppLint.Proofs.Keyed

/-! Which skipped checks a tracker has noted, and how its report shows them. -/
namespace AppLint

open Json (Value)

namespace Tracker

theorem skipLogged_value (t : Tracker) (checks : List SkippedCheck) :
    (t.skipLogged checks).value = t.skipAll checks := by
  induction checks generalizing t with
  | nil => rfl
  | cons check rest ih => exact ih (t.skip check)

theorem skip_eq (t : Tracker) (check : SkippedCheck) :
    t.skip check = { t with skipped := (t.skip check).skipped } := by
  unfold skip
  split <;> rfl

theorem skipAll_eq (t : Tracker) (checks : List SkippedCheck) :
    t.skipAll checks = { t with skipped := (t.skipAll checks).skipped } := by
  induction checks generalizing t with
  | nil => rfl
  | cons check rest ih =>
    calc
      t.skipAll (check :: rest) = (t.skip check).skipAll rest := rfl
      _ = { t.skip check with skipped := ((t.skip check).skipAll rest).skipped } := ih _
      _ = { t with skipped := ((t.skip check).skipAll rest).skipped } := by rw [skip_eq t check]

theorem skipAll_append (t : Tracker) (a b : List SkippedCheck) :
    t.skipAll (a ++ b) = (t.skipAll a).skipAll b :=
  List.foldl_append

@[simp] theorem has_skipAll (t : Tracker) (checks : List SkippedCheck) (type : FileType) :
    (t.skipAll checks).has type = t.has type := by
  rw [skipAll_eq]
  rfl

theorem mem_skip {t : Tracker} {check other : SkippedCheck} :
    other ∈ (t.skip check).skipped ↔ other ∈ t.skipped ∨ other = check := by
  unfold skip
  split
  · rename_i hmem
    constructor
    · exact Or.inl
    · rintro (h | rfl)
      · exact h
      · exact hmem
  · simp

theorem mem_skipAll {t : Tracker} {checks : List SkippedCheck} {other : SkippedCheck} :
    other ∈ (t.skipAll checks).skipped ↔ other ∈ t.skipped ∨ other ∈ checks := by
  induction checks generalizing t with
  | nil => simp [skipAll]
  | cons check rest ih =>
    have h : t.skipAll (check :: rest) = (t.skip check).skipAll rest := rfl
    rw [h,ih,mem_skip,List.mem_cons,or_assoc]

def Grouped (groups : List PartialRule) (rule check : String) : Prop :=
  ∃ g ∈ groups, g.rule = rule ∧ check ∈ g.checks

theorem grouped_addToGroup {c : SkippedCheck} {groups : List PartialRule} {rule check : String} :
    Grouped (addToGroup c groups) rule check ↔
      Grouped groups rule check ∨ c.rule = rule ∧ c.check = check := by
  induction groups with
  | nil => simp [addToGroup,Grouped,eq_comm]
  | cons g rest ih =>
    have hcons : ∀ (g : PartialRule) (gs : List PartialRule),
        Grouped (g :: gs) rule check ↔
          g.rule = rule ∧ check ∈ g.checks ∨ Grouped gs rule check := by
      simp [Grouped]
    simp only [addToGroup]
    split_ifs with hrule hmem
    · rw [hcons]
      constructor
      · exact Or.inl
      · rintro (h | ⟨rfl,rfl⟩)
        · exact h
        · exact Or.inl ⟨hrule,hmem⟩
    · rw [hcons,hcons,List.mem_append,List.mem_singleton,← hrule,eq_comm (a := check)]
      tauto
    · rw [hcons,hcons,ih]
      tauto

theorem grouped_foldl {checks : List SkippedCheck} {groups : List PartialRule}
    {rule check : String} :
    Grouped (checks.foldl (fun groups c => addToGroup c groups) groups) rule check ↔
      Grouped groups rule check ∨ ∃ c ∈ checks, c.rule = rule ∧ c.check = check := by
  induction checks generalizing groups with
  | nil => simp
  | cons c rest ih =>
    rw [List.foldl_cons,ih,grouped_addToGroup]
    simp [or_assoc]

/-- The groups show every skipped check of the rules that did run, and no others. -/
theorem grouped_rulesPartiallyExecuted {t : Tracker} {rule check : String} :
    Grouped t.rulesPartiallyExecuted rule check ↔
      (∃ c ∈ t.skipped, c.rule = rule ∧ c.check = check) ∧
        rule ∉ t.rulesNotExecuted.map (·.rule) := by
  unfold rulesPartiallyExecuted
  rw [grouped_foldl]
  constructor
  · rintro (⟨g,hg,-⟩ | ⟨c,hc,rfl,rfl⟩)
    · cases hg
    · obtain ⟨hmem,hrun⟩ := List.mem_filter.mp hc
      exact ⟨⟨c,hmem,rfl,rfl⟩,by simpa using hrun⟩
  · rintro ⟨⟨c,hc,rfl,rfl⟩,hrun⟩
    exact Or.inr ⟨c,List.mem_filter.mpr ⟨hc,by simpa using hrun⟩,rfl,rfl⟩

/-- Only navigation cannot be checked at all, and only for want of the site. -/
theorem mem_rulesNotExecuted {t : Tracker} {rule : String} :
    rule ∈ t.rulesNotExecuted.map (·.rule) ↔ rule = "site-navigation" ∧ t.has .site = false := by
  cases h : t.has .site <;> simp [rulesNotExecuted,requirements,h]

def ListsPartial (t : Tracker) (rule check : String) : Prop :=
  ∃ items fields checks, t.toJson.field? "rules_partially_executed" = some (.array items) ∧
    Value.object fields ∈ items ∧ Keyed.get? "rule" fields = some (.string rule) ∧
    Keyed.get? "checks" fields = some (.array checks) ∧ Value.string check ∈ checks

def ListsNotExecuted (t : Tracker) (rule : String) : Prop :=
  ∃ items fields, t.toJson.field? "rules_not_executed" = some (.array items) ∧
    Value.object fields ∈ items ∧ Keyed.get? "rule" fields = some (.string rule)

theorem toJson_partial (g : PartialRule) :
    ∃ fields, g.toJson = .object fields ∧ Keyed.get? "rule" fields = some (.string g.rule) ∧
      Keyed.get? "checks" fields = some (.array (g.checks.map .string)) :=
  ⟨_,rfl,by simp [Keyed.get?_ofList],by simp [Keyed.get?_ofList,Value.strings]⟩

theorem toJson_notExecuted (r : RuleNotExecuted) :
    ∃ fields, r.toJson = .object fields ∧ Keyed.get? "rule" fields = some (.string r.rule) :=
  ⟨_,rfl,by simp [Keyed.get?_ofList]⟩

theorem listsPartial_iff {t : Tracker} {rule check : String} :
    t.ListsPartial rule check ↔ Grouped t.rulesPartiallyExecuted rule check := by
  have hfield : t.toJson.field? "rules_partially_executed" =
      some (.array (t.rulesPartiallyExecuted.map (·.toJson))) := by
    simp [toJson,Value.ofFields,Value.field?,Keyed.get?_ofList]
  constructor
  · rintro ⟨items,fields,checks,hitems,hmem,hrule,hchecks,hcheck⟩
    rw [hfield] at hitems
    cases hitems
    obtain ⟨g,hg,hjson⟩ := List.mem_map.mp hmem
    obtain ⟨fields',hfields,hrule',hchecks'⟩ := toJson_partial g
    obtain rfl : fields' = fields := Value.object.inj (hfields.symm.trans hjson)
    rw [hrule'] at hrule
    rw [hchecks'] at hchecks
    cases hrule
    cases hchecks
    exact ⟨g,hg,rfl,by simpa using hcheck⟩
  · rintro ⟨g,hg,rfl,hcheck⟩
    obtain ⟨fields,hfields,hrule,hchecks⟩ := toJson_partial g
    exact ⟨_,fields,_,hfield,List.mem_map.mpr ⟨g,hg,hfields⟩,hrule,hchecks,
      List.mem_map_of_mem hcheck⟩

theorem listsNotExecuted_iff {t : Tracker} {rule : String} :
    t.ListsNotExecuted rule ↔ rule ∈ t.rulesNotExecuted.map (·.rule) := by
  have hfield : t.toJson.field? "rules_not_executed" =
      some (.array (t.rulesNotExecuted.map (·.toJson))) := by
    simp [toJson,Value.ofFields,Value.field?,Keyed.get?_ofList]
  constructor
  · rintro ⟨items,fields,hitems,hmem,hrule⟩
    rw [hfield] at hitems
    cases hitems
    obtain ⟨r,hr,hjson⟩ := List.mem_map.mp hmem
    obtain ⟨fields',hfields,hrule'⟩ := toJson_notExecuted r
    obtain rfl : fields' = fields := Value.object.inj (hfields.symm.trans hjson)
    rw [hrule'] at hrule
    cases hrule
    exact List.mem_map_of_mem hr
  · intro h
    obtain ⟨r,hr,rfl⟩ := List.mem_map.mp h
    obtain ⟨fields,hfields,hrule⟩ := toJson_notExecuted r
    exact ⟨_,fields,hfield,List.mem_map.mpr ⟨r,hr,hfields⟩,hrule⟩

end Tracker
end AppLint
