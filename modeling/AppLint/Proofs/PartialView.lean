import AppLint.Proofs.Presence
import AppLint.Proofs.SkippedGroups

/-! The view of a tracker on the rules that left out checks, after any steps from a new tracker: it
shows what was registered and nothing else, in the order in which it was registered. -/
namespace AppLint

section
variable {α β : Type} [DecidableEq α] [DecidableEq β]

/-- The members of a list, each once, in the order in which they first occur there. -/
structure FirstOccurrences (xs firsts : List α) : Prop where
  mem_iff : ∀ x, x ∈ firsts ↔ x ∈ xs
  ordered : firsts.Pairwise fun a b => xs.idxOf a < xs.idxOf b

theorem FirstOccurrences.nodup {xs firsts : List α} (h : FirstOccurrences xs firsts) :
    firsts.Nodup := by
  refine h.ordered.imp fun {a b} hlt hsame => ?_
  subst hsame
  exact Nat.lt_irrefl _ hlt

theorem firstOccurrences_eraseDups (xs : List α) : FirstOccurrences xs xs.eraseDups where
  mem_iff _ := List.mem_eraseDups
  ordered := by
    induction xs using List.reverseRecOn with
    | nil => exact List.Pairwise.nil
    | append_singleton xs x ih =>
      -- What comes last does not move the first places of the others.
      have hfront : xs.eraseDups.Pairwise fun a b => (xs ++ [x]).idxOf a < (xs ++ [x]).idxOf b := by
        refine ih.imp_of_mem fun {a b} ha hb hlt => ?_
        rwa [List.idxOf_append_of_mem (List.mem_eraseDups.mp ha),
          List.idxOf_append_of_mem (List.mem_eraseDups.mp hb)]
      rw [eraseDups_concat]
      split_ifs with hx
      · exact hfront
      · refine List.pairwise_append.mpr ⟨hfront,List.pairwise_singleton _ _,fun a ha b hb => ?_⟩
        obtain rfl := List.mem_singleton.mp hb
        have hmem : a ∈ xs := List.mem_eraseDups.mp ha
        rw [List.idxOf_append_of_mem hmem,List.idxOf_append_of_notMem hx]
        have hlt : xs.idxOf a < xs.length := List.idxOf_lt_length_of_mem hmem
        omega

theorem eraseDups_map_eraseDups (f : α → β) (xs : List α) :
    (xs.eraseDups.map f).eraseDups = (xs.map f).eraseDups := by
  induction xs using List.reverseRecOn with
  | nil => rfl
  | append_singleton xs x ih =>
    rw [eraseDups_concat,List.map_append,List.map_singleton,eraseDups_concat]
    split_ifs with hx hf hf
    · exact ih
    · exact absurd (List.mem_map_of_mem hx) hf
    · have hmem : f x ∈ xs.eraseDups.map f := by simpa using hf
      rw [List.map_append,List.map_singleton,eraseDups_concat,if_pos hmem,ih]
    · have hmem : f x ∉ xs.eraseDups.map f := by simpa using hf
      rw [List.map_append,List.map_singleton,eraseDups_concat,if_neg hmem,ih]

theorem head?_eraseDups (xs : List α) : xs.eraseDups.head? = xs.head? := by
  cases xs with
  | nil => rfl
  | cons x rest => rw [List.eraseDups_cons,List.head?_cons,List.head?_cons]

end

namespace Tracker

/-- Something that is noted in a tracker. -/
inductive Step where
  | recordFile (path : String)
  | markPresent (type : FileType)
  | skip (check : SkippedCheck)
deriving DecidableEq

namespace Step

def apply (t : Tracker) : Step → Tracker
  | recordFile path => t.recordFile path
  | markPresent type => t.markPresent type
  | skip check => t.skip check

def check? : Step → Option SkippedCheck
  | skip check => some check
  | _ => none

end Step

def after (unit : AnalysisUnit) (steps : List Step) : Tracker :=
  steps.foldl Step.apply { unit := unit }

def registered (steps : List Step) : List SkippedCheck := steps.filterMap Step.check?

theorem after_concat (unit : AnalysisUnit) (steps : List Step) (s : Step) :
    after unit (steps ++ [s]) = s.apply (after unit steps) := by
  simp [after]

theorem registered_concat (steps : List Step) (s : Step) :
    registered (steps ++ [s]) = registered steps ++ s.check?.toList := by
  cases s <;> simp [registered,Step.check?]

theorem skipped_after (unit : AnalysisUnit) (steps : List Step) :
    (after unit steps).skipped = (registered steps).eraseDups := by
  induction steps using List.reverseRecOn with
  | nil => rfl
  | append_singleton steps s ih =>
    rw [after_concat,registered_concat]
    cases s with
    | recordFile path => simpa [Step.apply,Step.check?,recordFile] using ih
    | markPresent type => simpa [Step.apply,Step.check?] using ih
    | skip check =>
      have hmem : check ∈ (after unit steps).skipped ↔ check ∈ registered steps := by
        rw [ih,List.mem_eraseDups]
      simp only [Step.apply,Step.check?,Option.toList_some,eraseDups_concat,Tracker.skip,hmem]
      split_ifs with h
      · exact ih
      · rw [ih]

theorem has_after (unit : AnalysisUnit) (steps : List Step) (type : FileType) :
    (after unit steps).has type = true ↔ .markPresent type ∈ steps := by
  induction steps using List.reverseRecOn with
  | nil => simp [after,has]
  | append_singleton steps s ih =>
    rw [after_concat,List.mem_append,List.mem_singleton,← ih]
    cases s with
    | recordFile path => simp [Step.apply,recordFile,has]
    | markPresent other => simp only [Step.apply,has_markPresent,Step.markPresent.injEq]
    | skip check =>
      have hskip : ((after unit steps).skip check).has type = (after unit steps).has type := by
        rw [skip_eq]
        rfl
      simp [Step.apply,hskip]

theorem groupOf_eraseDups (checks : List SkippedCheck) (rule : String) :
    groupOf checks.eraseDups rule = groupOf checks rule := by
  simp only [groupOf,filter_eraseDups,eraseDups_map_eraseDups,head?_eraseDups]

theorem rulesPartiallyExecuted_after (unit : AnalysisUnit) (steps : List Step) :
    let t := after unit steps
    t.rulesPartiallyExecuted =
      (((registered steps).map (·.rule)).eraseDups.filter
        fun rule => rule ∉ t.rulesNotExecuted.map (·.rule)).map (groupOf (registered steps)) := by
  intro t
  have hgroup : groupOf t.skipped = groupOf (registered steps) := by
    funext rule
    rw [skipped_after,groupOf_eraseDups]
  have hrules : (t.skipped.map (·.rule)).eraseDups =
      ((registered steps).map (·.rule)).eraseDups := by
    rw [skipped_after,eraseDups_map_eraseDups]
  rw [rulesPartiallyExecuted_eq,hgroup,hrules]

/-- What a tracker shows of the checks that were registered with it: all of them once, and those of
each rule that did run in a group, with the reason of the first. -/
structure Shows (registered : List SkippedCheck) (t : Tracker) : Prop where
  skipped : FirstOccurrences registered t.skipped
  rules : ∀ rule, rule ∈ t.rulesPartiallyExecuted.map (·.rule) ↔
    (∃ c ∈ registered, c.rule = rule) ∧ rule ∉ t.rulesNotExecuted.map (·.rule)
  ordered : (t.rulesPartiallyExecuted.map (·.rule)).Pairwise fun a b =>
    (registered.map (·.rule)).idxOf a < (registered.map (·.rule)).idxOf b
  checks : ∀ g ∈ t.rulesPartiallyExecuted,
    FirstOccurrences ((registered.filter fun c => c.rule = g.rule).map (·.check)) g.checks
  reason : ∀ g ∈ t.rulesPartiallyExecuted,
    (registered.find? fun c => c.rule = g.rule).map (·.reason) = some g.reason

theorem shows_after (unit : AnalysisUnit) (steps : List Step) :
    Shows (registered steps) (after unit steps) := by
  have hgroups := rulesPartiallyExecuted_after unit steps
  have hrules : (after unit steps).rulesPartiallyExecuted.map (·.rule) =
      ((registered steps).map (·.rule)).eraseDups.filter
        fun rule => rule ∉ (after unit steps).rulesNotExecuted.map (·.rule) := by
    rw [hgroups,List.map_map]
    exact List.map_id _
  have hgroup : ∀ g ∈ (after unit steps).rulesPartiallyExecuted,
      g = groupOf (registered steps) g.rule := by
    intro g hg
    rw [hgroups] at hg
    obtain ⟨rule,-,rfl⟩ := List.mem_map.mp hg
    rfl
  exact
    { skipped := by
        rw [skipped_after]
        exact firstOccurrences_eraseDups _
      rules := by
        intro rule
        rw [hrules,List.mem_filter]
        simp
      ordered := by
        rw [hrules]
        exact (firstOccurrences_eraseDups _).ordered.filter _
      checks := by
        intro g hg
        rw [hgroup g hg]
        exact firstOccurrences_eraseDups _
      reason := by
        intro g hg
        have hmem : g.rule ∈ (after unit steps).rulesPartiallyExecuted.map (·.rule) :=
          List.mem_map_of_mem hg
        rw [hrules,List.mem_filter,List.mem_eraseDups] at hmem
        obtain ⟨c,hc,hrule⟩ := List.mem_map.mp hmem.1
        have hsome : ((registered steps).find? fun c => c.rule = g.rule).isSome = true :=
          List.find?_isSome.mpr ⟨c,hc,by simpa using hrule⟩
        obtain ⟨first,hfirst⟩ := Option.isSome_iff_exists.mp hsome
        rw [hgroup g hg]
        simp only [groupOf,List.head?_filter,hfirst,Option.map_some,Option.getD_some] }

theorem mem_rulesNotExecuted_after {unit : AnalysisUnit} {steps : List Step} {rule : String} :
    rule ∈ (after unit steps).rulesNotExecuted.map (·.rule) ↔
      ∃ type reason, (rule,type,reason) ∈ requirements ∧ .markPresent type ∉ steps := by
  simp only [rulesNotExecuted,List.map_map,List.mem_map,List.mem_filter,Bool.not_eq_true',
    ← Bool.not_eq_true,has_after]
  constructor
  · rintro ⟨⟨rule,type,reason⟩,⟨hreq,hmissing⟩,rfl⟩
    exact ⟨type,reason,hreq,hmissing⟩
  · rintro ⟨type,reason,hreq,hmissing⟩
    exact ⟨(rule,type,reason),⟨hreq,hmissing⟩,rfl⟩

theorem eq_of_mem_requirements {rule : String} {type type' : FileType} {reason reason' : String}
    (h : (rule,type,reason) ∈ requirements) (h' : (rule,type',reason') ∈ requirements) :
    type = type' := by
  simp only [requirements,List.mem_singleton,Prod.mk.injEq] at h h'
  exact h.2.1.trans h'.2.1.symm

theorem not_mem_rulesNotExecuted_mark (unit : AnalysisUnit) (steps : List Step) {rule : String}
    {type : FileType} {reason : String} (hreq : (rule,type,reason) ∈ requirements) :
    rule ∉ (after unit (steps ++ [.markPresent type])).rulesNotExecuted.map (·.rule) := by
  intro h
  obtain ⟨other,reason',hother,hnot⟩ := mem_rulesNotExecuted_after.mp h
  obtain rfl := eq_of_mem_requirements hreq hother
  exact hnot (by simp)

theorem skipped_after_mark (unit : AnalysisUnit) (steps : List Step) (type : FileType) :
    (after unit (steps ++ [.markPresent type])).skipped = (after unit steps).skipped := by
  rw [after_concat]
  exact skipped_markPresent _ type

/-- Marking a type adds groups and changes none. -/
theorem filter_rulesPartiallyExecuted_mark (unit : AnalysisUnit) (steps : List Step)
    (type : FileType) :
    let t := after unit steps
    let t' := after unit (steps ++ [.markPresent type])
    (t'.rulesPartiallyExecuted.filter fun g => g.rule ∉ t.rulesNotExecuted.map (·.rule)) =
      t.rulesPartiallyExecuted := by
  intro t t'
  have hfewer : ∀ rule, rule ∈ t'.rulesNotExecuted.map (·.rule) →
      rule ∈ t.rulesNotExecuted.map (·.rule) := by
    intro rule h
    obtain ⟨other,reason,hreq,hnot⟩ := mem_rulesNotExecuted_after.mp h
    exact mem_rulesNotExecuted_after.mpr
      ⟨other,reason,hreq,fun hmem => hnot (List.mem_append_left _ hmem)⟩
  have hskipped : t'.skipped = t.skipped := skipped_after_mark unit steps type
  rw [rulesPartiallyExecuted_eq t,rulesPartiallyExecuted_eq t',hskipped,List.filter_map,
    List.filter_filter]
  refine congrArg (List.map _) (List.filter_congr fun rule _ => ?_)
  show (decide (rule ∉ t.rulesNotExecuted.map (·.rule)) &&
    decide (rule ∉ t'.rulesNotExecuted.map (·.rule))) =
      decide (rule ∉ t.rulesNotExecuted.map (·.rule))
  by_cases h : rule ∈ t.rulesNotExecuted.map (·.rule)
  · rw [decide_eq_false (not_not.mpr h),Bool.false_and]
  · have h' : rule ∉ t'.rulesNotExecuted.map (·.rule) := fun hmem => h (hfewer rule hmem)
    rw [decide_eq_true h,decide_eq_true h',Bool.true_and]

/-- Whatever files, types and skipped checks are noted in a new tracker, it shows the checks that were
registered, grouped under just those rules that did run. If the type that a rule needs is marked
after all, the rule's checks appear in a group as well; what was shown before stays. -/
theorem partial_view_exact (unit : AnalysisUnit) (steps : List Step) :
    let t := after unit steps
    Shows (registered steps) t ∧
    t.skipped.Nodup ∧ (t.rulesPartiallyExecuted.map (·.rule)).Nodup ∧
    (∀ rule, rule ∈ t.rulesNotExecuted.map (·.rule) ↔
      ∃ type reason, (rule,type,reason) ∈ requirements ∧ .markPresent type ∉ steps) ∧
    (t.rulesPartiallyExecuted.map (·.rule)).Disjoint (t.rulesNotExecuted.map (·.rule)) ∧
    ∀ rule type reason, (rule,type,reason) ∈ requirements → .markPresent type ∉ steps →
      let t' := after unit (steps ++ [.markPresent type])
      t'.skipped = t.skipped ∧
      rule ∈ t.rulesNotExecuted.map (·.rule) ∧ rule ∉ t'.rulesNotExecuted.map (·.rule) ∧
      (∀ check, Grouped t'.rulesPartiallyExecuted rule check ↔
        ∃ c ∈ t.skipped, c.rule = rule ∧ c.check = check) ∧
      (t'.rulesPartiallyExecuted.filter fun g => g.rule ∉ t.rulesNotExecuted.map (·.rule)) =
        t.rulesPartiallyExecuted := by
  intro t
  have hshows : Shows (registered steps) t := shows_after unit steps
  refine ⟨hshows,hshows.skipped.nodup,nodup_rulesPartiallyExecuted t,
    fun rule => mem_rulesNotExecuted_after,fun rule hpartial => ((hshows.rules rule).mp hpartial).2,
    fun rule type reason hreq hmissing => ?_⟩
  have hskipped := skipped_after_mark unit steps type
  have hran := not_mem_rulesNotExecuted_mark unit steps hreq
  refine ⟨hskipped,mem_rulesNotExecuted_after.mpr ⟨type,reason,hreq,hmissing⟩,hran,fun check => ?_,
    filter_rulesPartiallyExecuted_mark unit steps type⟩
  rw [grouped_rulesPartiallyExecuted,hskipped]
  exact and_iff_left hran

/-- Navigation leaves out a check for two reasons, and between them another rule does. The site comes
late. -/
theorem partial_view_exact_late_site :
    let navigation (check reason : String) := Step.skip ⟨"site-navigation",check,reason⟩
    let usage := Step.skip ⟨"fragment-unused","usage","no pages"⟩
    let steps := [navigation "targets" "no site",usage,.markPresent .fragment,
      navigation "targets" "no pages",.recordFile "s.site",navigation "home" "no site",usage]
    let t := after .fullApp steps
    let t' := after .fullApp (steps ++ [.markPresent .site])
    (∃ reason, ("site-navigation",FileType.site,reason) ∈ requirements) ∧
      .markPresent .site ∉ steps ∧
      t.rulesPartiallyExecuted = [⟨"fragment-unused",["usage"],"no pages"⟩] ∧
      t'.rulesPartiallyExecuted = [⟨"site-navigation",["targets","home"],"no site"⟩,
        ⟨"fragment-unused",["usage"],"no pages"⟩] ∧
      t'.skipped = t.skipped ∧ Grouped t'.rulesPartiallyExecuted "site-navigation" "home" := by
  intro navigation usage steps t t'
  have hmissing : .markPresent .site ∉ steps := by decide +kernel
  have hreq : ("site-navigation",FileType.site,_) ∈ requirements := List.mem_singleton.mpr rfl
  obtain ⟨-,-,-,-,-,hmark⟩ := partial_view_exact .fullApp steps
  obtain ⟨hskipped,-,-,hgrouped,-⟩ := hmark _ _ _ hreq hmissing
  have hhome : ∃ c ∈ t.skipped, c.rule = "site-navigation" ∧ c.check = "home" := by decide +kernel
  exact ⟨⟨_,hreq⟩,hmissing,by decide +kernel,by decide +kernel,hskipped,(hgrouped "home").mpr hhome⟩

end Tracker
end AppLint
