import AppLint.Proofs.SkippedChecks
import Mathlib.Data.List.Induction
import Mathlib.Data.List.Nodup

/-! The skipped checks of a tracker are the first notes of each, and its groups are the rules in the
order of their first check, each with its checks and the reason of the first. -/
namespace AppLint

section
variable {α : Type} [DecidableEq α]

@[simp] theorem eraseDups_singleton (x : α) : [x].eraseDups = [x] := by
  simp [List.eraseDups_cons]

theorem eraseDups_concat (xs : List α) (x : α) :
    (xs ++ [x]).eraseDups = if x ∈ xs then xs.eraseDups else xs.eraseDups ++ [x] := by
  rw [List.eraseDups_append]
  by_cases h : x ∈ xs <;> simp [List.removeAll,h]

theorem nodup_eraseDups (xs : List α) : xs.eraseDups.Nodup := by
  induction xs using List.reverseRecOn with
  | nil => simp
  | append_singleton xs x ih =>
    rw [eraseDups_concat]
    split_ifs with h
    · exact ih
    · exact ih.append (List.nodup_singleton x) (by simpa using h)

theorem filter_eraseDups (keep : α → Bool) (xs : List α) :
    xs.eraseDups.filter keep = (xs.filter keep).eraseDups := by
  induction xs using List.reverseRecOn with
  | nil => rfl
  | append_singleton xs x ih =>
    rw [eraseDups_concat,List.filter_append]
    cases hx : keep x with
    | false =>
      split_ifs <;> simp [hx,ih]
    | true =>
      have hmem : x ∈ xs.filter keep ↔ x ∈ xs := by simp [hx]
      rw [List.filter_singleton,hx,cond_true,eraseDups_concat]
      simp only [hmem]
      split_ifs <;> simp [hx,ih]

end

namespace Tracker

/-- What is noted goes behind what was there: each check once, in the order of its first note. -/
theorem skipped_skipAll (t : Tracker) (checks : List SkippedCheck) :
    (t.skipAll checks).skipped =
      t.skipped ++ (checks.filter fun c => c ∉ t.skipped).eraseDups := by
  induction checks using List.reverseRecOn with
  | nil => simp [skipAll]
  | append_singleton checks c ih =>
    have hlast : t.skipAll (checks ++ [c]) = (t.skipAll checks).skip c := by
      rw [skipAll_append]
      rfl
    rw [hlast,skip,List.filter_append]
    by_cases hold : c ∈ t.skipped
    · simp [hold,ih]
    · rw [List.filter_singleton,decide_eq_true hold,cond_true,eraseDups_concat]
      by_cases hnew : c ∈ checks <;> simp [hold,hnew,ih]

inductive Reachable : Tracker → Prop
  | new (unit : AnalysisUnit) : Reachable { unit := unit }
  | recordFile (path : String) {t : Tracker} (h : Reachable t) : Reachable (t.recordFile path)
  | markPresent (type : FileType) {t : Tracker} (h : Reachable t) : Reachable (t.markPresent type)
  | skip (check : SkippedCheck) {t : Tracker} (h : Reachable t) : Reachable (t.skip check)

theorem Reachable.skipAll {t : Tracker} (h : t.Reachable) (checks : List SkippedCheck) :
    (t.skipAll checks).Reachable := by
  induction checks generalizing t with
  | nil => exact h
  | cons check rest ih => exact ih (h.skip check)

@[simp] theorem skipped_markPresent (t : Tracker) (type : FileType) :
    (t.markPresent type).skipped = t.skipped := by
  unfold markPresent
  split <;> rfl

theorem Reachable.nodup_skipped {t : Tracker} (h : t.Reachable) : t.skipped.Nodup := by
  induction h with
  | new unit => exact List.nodup_nil
  | recordFile path _ ih => exact ih
  | markPresent type _ ih => rwa [skipped_markPresent]
  | skip check _ ih =>
    unfold Tracker.skip
    split_ifs with hmem
    · exact ih
    · exact ih.append (List.nodup_singleton check) (by simpa using hmem)

end Tracker

def PartialRule.noting (g : PartialRule) (check : String) : PartialRule :=
  if check ∈ g.checks then g else { g with checks := g.checks ++ [check] }

namespace Tracker

section
variable {c : SkippedCheck} {rules : List String} {group : String → PartialRule}

theorem addToGroup_map_of_not_mem (hgroup : ∀ rule, (group rule).rule = rule)
    (h : c.rule ∉ rules) :
    addToGroup c (rules.map group) = rules.map group ++ [⟨c.rule,[c.check],c.reason⟩] := by
  induction rules with
  | nil => rfl
  | cons rule rest ih =>
    simp only [List.mem_cons,not_or] at h
    obtain ⟨hne,hrest⟩ := h
    simp [addToGroup,hgroup,Ne.symm hne,ih hrest]

theorem addToGroup_map_of_mem (hgroup : ∀ rule, (group rule).rule = rule) (hnodup : rules.Nodup)
    (h : c.rule ∈ rules) :
    addToGroup c (rules.map group) =
      rules.map (Function.update group c.rule ((group c.rule).noting c.check)) := by
  induction rules with
  | nil => cases h
  | cons rule rest ih =>
    obtain ⟨hnot,hrest⟩ := List.nodup_cons.mp hnodup
    by_cases hrule : rule = c.rule
    · subst hrule
      have hothers : rest.map (Function.update group c.rule ((group c.rule).noting c.check)) =
          rest.map group := by
        apply List.map_congr_left
        intro other hother
        rw [Function.update_of_ne]
        rintro rfl
        exact hnot hother
      rw [List.map_cons,List.map_cons,Function.update_self,hothers,addToGroup,if_pos (hgroup _)]
      rfl
    · have hmem : c.rule ∈ rest := (List.mem_cons.mp h).resolve_left (Ne.symm hrule)
      simp [addToGroup,hgroup,hrule,ih hrest hmem]

end

/-- A rule with its checks in the order of their first notes, and the reason of the first. -/
def groupOf (checks : List SkippedCheck) (rule : String) : PartialRule :=
  let own := checks.filter fun c => c.rule = rule
  ⟨rule,(own.map (·.check)).eraseDups,(own.head?.map (·.reason)).getD ""⟩

theorem groupOf_concat_of_ne {checks : List SkippedCheck} {c : SkippedCheck} {rule : String}
    (h : c.rule ≠ rule) : groupOf (checks ++ [c]) rule = groupOf checks rule := by
  simp [groupOf,List.filter_append,h]

theorem groupOf_concat_of_mem {checks : List SkippedCheck} {c : SkippedCheck}
    (h : c.rule ∈ checks.map (·.rule)) :
    groupOf (checks ++ [c]) c.rule = (groupOf checks c.rule).noting c.check := by
  have hown : (checks.filter fun d => d.rule = c.rule) ≠ [] := by
    obtain ⟨d,hd,hrule⟩ := List.mem_map.mp h
    exact List.ne_nil_of_mem (List.mem_filter.mpr ⟨hd,by simpa using hrule⟩)
  have hfilter : ((checks ++ [c]).filter fun d => d.rule = c.rule) =
      (checks.filter fun d => d.rule = c.rule) ++ [c] := by
    simp [List.filter_append]
  simp only [groupOf,hfilter,List.map_append,List.map_singleton,eraseDups_concat,
    PartialRule.noting,List.mem_eraseDups,List.head?_append_of_ne_nil _ hown]
  split_ifs <;> rfl

theorem groupOf_concat_of_not_mem {checks : List SkippedCheck} {c : SkippedCheck}
    (h : c.rule ∉ checks.map (·.rule)) :
    groupOf (checks ++ [c]) c.rule = ⟨c.rule,[c.check],c.reason⟩ := by
  have hown : (checks.filter fun d => d.rule = c.rule) = [] := by
    rw [List.filter_eq_nil_iff]
    intro d hd hrule
    exact h (List.mem_map.mpr ⟨d,hd,by simpa using hrule⟩)
  simp [groupOf,List.filter_append,hown]

/-- Grouping collects the rules in the order of their first check, each with its own checks. -/
theorem foldl_addToGroup (checks : List SkippedCheck) :
    checks.foldl (fun groups c => addToGroup c groups) [] =
      (checks.map (·.rule)).eraseDups.map (groupOf checks) := by
  induction checks using List.reverseRecOn with
  | nil => rfl
  | append_singleton checks c ih =>
    have hgroup : ∀ rule, (groupOf checks rule).rule = rule := fun _ => rfl
    rw [List.foldl_append,List.foldl_cons,List.foldl_nil,ih,List.map_append,List.map_singleton,
      eraseDups_concat]
    split_ifs with hmem
    · rw [addToGroup_map_of_mem hgroup (nodup_eraseDups _) (List.mem_eraseDups.mpr hmem)]
      apply List.map_congr_left
      intro rule _
      by_cases hrule : rule = c.rule
      · rw [hrule,Function.update_self,groupOf_concat_of_mem hmem]
      · rw [Function.update_of_ne hrule,groupOf_concat_of_ne (Ne.symm hrule)]
    · rw [addToGroup_map_of_not_mem hgroup (by simpa using hmem),List.map_append,
        List.map_singleton,groupOf_concat_of_not_mem hmem]
      congr 1
      apply List.map_congr_left
      intro rule hrule
      rw [groupOf_concat_of_ne]
      rintro rfl
      exact hmem (List.mem_eraseDups.mp hrule)

/-- The groups are those of all skipped checks, without the rules that did not run at all. -/
theorem rulesPartiallyExecuted_eq (t : Tracker) :
    t.rulesPartiallyExecuted =
      ((t.skipped.map (·.rule)).eraseDups.filter
        fun rule => rule ∉ t.rulesNotExecuted.map (·.rule)).map (groupOf t.skipped) := by
  have hrules : ((t.skipped.filter fun c => c.rule ∉ t.rulesNotExecuted.map (·.rule)).map
      (·.rule)).eraseDups =
        (t.skipped.map (·.rule)).eraseDups.filter
          fun rule => rule ∉ t.rulesNotExecuted.map (·.rule) := by
    rw [filter_eraseDups,List.filter_map]
    rfl
  unfold rulesPartiallyExecuted
  rw [foldl_addToGroup,hrules]
  apply List.map_congr_left
  intro rule hrule
  have hran : rule ∉ t.rulesNotExecuted.map (·.rule) := by
    simpa using (List.mem_filter.mp hrule).2
  have hown : ((t.skipped.filter fun c => c.rule ∉ t.rulesNotExecuted.map (·.rule)).filter
      fun c => c.rule = rule) = t.skipped.filter fun c => c.rule = rule := by
    rw [List.filter_filter]
    apply List.filter_congr
    intro c _
    by_cases h : c.rule = rule
    · simp only [h,decide_true,Bool.true_and,decide_eq_true hran]
    · simp [h]
  simp only [groupOf,hown]

theorem nodup_rulesPartiallyExecuted (t : Tracker) :
    (t.rulesPartiallyExecuted.map (·.rule)).Nodup := by
  rw [rulesPartiallyExecuted_eq,List.map_map]
  have hid : ((·.rule) ∘ groupOf t.skipped) = id := rfl
  rw [hid,List.map_id]
  exact (nodup_eraseDups _).filter _

theorem rulesPartiallyExecuted_perm {s t : Tracker} (hhas : ∀ type, s.has type = t.has type)
    (h : ∀ rule, (s.skipped.filter fun c => c.rule = rule) =
      t.skipped.filter fun c => c.rule = rule) :
    s.rulesPartiallyExecuted.Perm t.rulesPartiallyExecuted := by
  have hnot : s.rulesNotExecuted = t.rulesNotExecuted := by
    simp only [rulesNotExecuted,hhas]
  have hgroup : groupOf s.skipped = groupOf t.skipped := by
    funext rule
    simp only [groupOf,h]
  have hmem : ∀ c, c ∈ s.skipped ↔ c ∈ t.skipped := by
    intro c
    have hc : c ∈ (s.skipped.filter fun d => d.rule = c.rule) ↔
        c ∈ t.skipped.filter fun d => d.rule = c.rule := by rw [h]
    simpa using hc
  have hrules : (s.skipped.map (·.rule)).eraseDups.Perm (t.skipped.map (·.rule)).eraseDups := by
    rw [List.perm_ext_iff_of_nodup (nodup_eraseDups _) (nodup_eraseDups _)]
    intro rule
    simp [hmem]
  rw [rulesPartiallyExecuted_eq,rulesPartiallyExecuted_eq,hnot,hgroup]
  exact (hrules.filter _).map _

end Tracker
end AppLint
