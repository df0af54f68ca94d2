import AppLint.Proofs.SkippedGroups

/-! Rules that note skipped checks at the same time: in whatever order their notes come together, the
tracker has the same checks of each rule, and the same groups. -/
namespace AppLint

/-- The list is made of all others: each step takes the next member of one that is not at its
end. -/
inductive Interleaving {α : Type} : List (List α) → List α → Prop
  | done {seqs : List (List α)} (h : ∀ seq ∈ seqs, seq = []) : Interleaving seqs []
  | step (before : List (List α)) (x : α) (rest : List α) (after : List (List α)) {merged : List α}
      (h : Interleaving (before ++ rest :: after) merged) :
      Interleaving (before ++ (x :: rest) :: after) (x :: merged)

namespace Interleaving
variable {α : Type} {seqs seqs' : List (List α)} {merged : List α}

theorem mem_iff (h : Interleaving seqs merged) (x : α) :
    x ∈ merged ↔ ∃ seq ∈ seqs, x ∈ seq := by
  induction h with
  | done hnil =>
    constructor
    · intro hx
      cases hx
    · rintro ⟨seq,hseq,hx⟩
      rwa [hnil seq hseq] at hx
  | step before y rest after _ ih =>
    rw [List.mem_cons,ih]
    simp only [List.mem_append,List.mem_cons,or_and_right,exists_or,exists_eq_left,or_assoc]
    exact or_left_comm

theorem perm (h : Interleaving seqs merged) (hperm : seqs.Perm seqs') :
    Interleaving seqs' merged := by
  induction h generalizing seqs' with
  | done hnil => exact .done fun seq hseq => hnil seq (hperm.mem_iff.mpr hseq)
  | step before x rest after _ ih =>
    have hmem : x :: rest ∈ seqs' := hperm.mem_iff.mp (by simp)
    obtain ⟨before',after',rfl⟩ := List.append_of_mem hmem
    refine .step before' x rest after' (ih ?_)
    have hothers : (before ++ after).Perm (before' ++ after') :=
      ((List.perm_middle.symm.trans hperm).trans List.perm_middle).cons_inv
    exact (List.perm_middle.trans (hothers.cons rest)).trans List.perm_middle.symm

theorem cons (seq : List α) (h : Interleaving seqs merged) :
    Interleaving (seq :: seqs) (seq ++ merged) := by
  induction seq with
  | nil =>
    induction h with
    | done hnil => exact .done (List.forall_mem_cons.mpr ⟨rfl,hnil⟩)
    | step before x rest after _ ih => exact .step ([] :: before) x rest after ih
  | cons x rest ih => exact .step [] x rest seqs ih

theorem flatten (seqs : List (List α)) : Interleaving seqs seqs.flatten := by
  induction seqs with
  | nil => exact .done (by simp)
  | cons seq seqs ih => exact ih.cons seq

/-- If one list at most has members of a kind, they are in its order. -/
theorem filter_eq {keep : α → Bool} (h : Interleaving seqs merged)
    (hone : seqs.Pairwise fun a b => a.filter keep = [] ∨ b.filter keep = []) :
    merged.filter keep = seqs.flatten.filter keep := by
  induction h with
  | done hnil => rw [List.flatten_eq_nil_iff.mpr hnil]
  | step before x rest after _ ih =>
    obtain ⟨hbefore,hafter,hacross⟩ := List.pairwise_append.mp hone
    obtain ⟨hhead,htail⟩ := List.pairwise_cons.mp hafter
    have hshrink : (x :: rest).filter keep = [] → rest.filter keep = [] := by
      intro hnil
      rw [List.filter_cons] at hnil
      split_ifs at hnil with hx
      exact hnil
    have hone' : (before ++ rest :: after).Pairwise
        fun a b => a.filter keep = [] ∨ b.filter keep = [] := by
      refine List.pairwise_append.mpr ⟨hbefore,List.pairwise_cons.mpr ⟨fun b hb => ?_,htail⟩,
        fun a ha b hb => ?_⟩
      · exact (hhead b hb).imp_left hshrink
      · rcases List.mem_cons.mp hb with rfl | hb
        · exact (hacross a ha (x :: b) (by simp)).imp_right hshrink
        · exact hacross a ha b (by simp [hb])
    rw [List.filter_cons,ih hone']
    split_ifs with hx
    · -- No list in front has members of the kind, so that this one comes first.
      have hfront : before.flatten.filter keep = [] := by
        rw [List.filter_flatten,List.flatten_eq_nil_iff]
        intro seq hseq
        obtain ⟨a,ha,rfl⟩ := List.mem_map.mp hseq
        refine (hacross a ha (x :: rest) (by simp)).resolve_right ?_
        simp [hx]
      simp [List.filter_append,hfront,hx]
    · simp [List.filter_append,hx]

end Interleaving

structure RuleNotes where
  rule : String
  checks : List SkippedCheck
  own : ∀ c ∈ checks, c.rule = rule

namespace RuleNotes

theorem filter_self (n : RuleNotes) : (n.checks.filter fun c => c.rule = n.rule) = n.checks := by
  rw [List.filter_eq_self]
  intro c hc
  simpa using n.own c hc

theorem filter_of_ne {n : RuleNotes} {rule : String} (h : n.rule ≠ rule) :
    (n.checks.filter fun c => c.rule = rule) = [] := by
  rw [List.filter_eq_nil_iff]
  intro c hc
  rw [n.own c hc]
  simpa using h

variable {family : List RuleNotes} {noted : List SkippedCheck}

theorem filter_interleaving (hids : (family.map (·.rule)).Nodup)
    (h : Interleaving (family.map (·.checks)) noted) (rule : String) :
    (noted.filter fun c => c.rule = rule) =
      (family.flatMap (·.checks)).filter fun c => c.rule = rule := by
  rw [List.flatMap_def]
  apply h.filter_eq
  refine List.pairwise_map.mpr ((List.pairwise_map.mp hids).imp fun {m n} hne => ?_)
  by_cases hm : m.rule = rule
  · exact Or.inr (filter_of_ne fun hn => hne (hm.trans hn.symm))
  · exact Or.inl (filter_of_ne hm)

theorem filter_flatMap (hids : (family.map (·.rule)).Nodup) {n : RuleNotes} (hn : n ∈ family) :
    ((family.flatMap (·.checks)).filter fun c => c.rule = n.rule) = n.checks := by
  induction family with
  | nil => cases hn
  | cons m rest ih =>
    obtain ⟨hnot,hrest⟩ := List.nodup_cons.mp hids
    rw [List.flatMap_cons,List.filter_append]
    rcases List.mem_cons.mp hn with rfl | hmem
    · have hothers : ((rest.flatMap (·.checks)).filter fun c => c.rule = n.rule) = [] := by
        rw [List.filter_flatMap,List.flatMap_eq_nil_iff]
        intro other hother
        apply filter_of_ne
        intro hsame
        exact hnot (List.mem_map.mpr ⟨other,hother,hsame⟩)
      rw [filter_self,hothers,List.append_nil]
    · have hne : m.rule ≠ n.rule := fun hsame => hnot (List.mem_map.mpr ⟨n,hmem,hsame.symm⟩)
      rw [filter_of_ne hne,List.nil_append,ih hrest hmem]

end RuleNotes

namespace Tracker

/-- Of one rule, the tracker has what it had before and then the rule's new checks. -/
theorem filter_skipAll (t : Tracker) (noted : List SkippedCheck) (rule : String) :
    ((t.skipAll noted).skipped.filter fun c => c.rule = rule) =
      (t.skipped.filter fun c => c.rule = rule) ++
        ((noted.filter fun c => c.rule = rule).filter fun c => c ∉ t.skipped).eraseDups := by
  rw [skipped_skipAll,List.filter_append,filter_eraseDups,List.filter_filter,List.filter_filter]
  simp only [Bool.and_comm]

/-- Rules with different ids note skipped checks at the same time. No check is noted twice, those
noted before stay in front, all others are there too, and each rule's are in that rule's order. The
groups are the same as if one rule had run after the other, in any order, up to the order of the
groups. -/
theorem skip_schedule_independent (t : Tracker) (ht : t.Reachable) (family : List RuleNotes)
    (hids : (family.map (·.rule)).Nodup) (noted : List SkippedCheck)
    (hnoted : Interleaving (family.map (·.checks)) noted) :
    let t' := t.skipAll noted
    t'.skipped.Nodup ∧
    t.skipped <+: t'.skipped ∧
    (∀ c, c ∈ t'.skipped ↔ c ∈ t.skipped ∨ ∃ n ∈ family, c ∈ n.checks) ∧
    (∀ n ∈ family, (t'.skipped.filter fun c => c.rule = n.rule) =
      (t.skipped.filter fun c => c.rule = n.rule) ++
        (n.checks.filter fun c => c ∉ t.skipped).eraseDups) ∧
    (t'.rulesPartiallyExecuted.map (·.rule)).Nodup ∧
    ∀ order : List RuleNotes, order.Perm family →
      t'.rulesPartiallyExecuted.Perm
        (t.skipAll (order.flatMap (·.checks))).rulesPartiallyExecuted := by
  intro t'
  refine ⟨(ht.skipAll noted).nodup_skipped,?_,fun c => ?_,fun n hn => ?_,
    nodup_rulesPartiallyExecuted t',fun order horder => ?_⟩
  · exact ⟨_,(skipped_skipAll t noted).symm⟩
  · rw [mem_skipAll,hnoted.mem_iff]
    simp
  · rw [filter_skipAll,RuleNotes.filter_interleaving hids hnoted,RuleNotes.filter_flatMap hids hn]
  · -- A run of one rule after the other is an interleaving as well.
    have hserial : Interleaving (family.map (·.checks)) (order.flatMap (·.checks)) := by
      rw [List.flatMap_def]
      exact (Interleaving.flatten _).perm (horder.map _)
    apply rulesPartiallyExecuted_perm
    · intro type
      rw [has_skipAll,has_skipAll]
    · intro rule
      rw [filter_skipAll,filter_skipAll,RuleNotes.filter_interleaving hids hnoted,
        RuleNotes.filter_interleaving hids hserial]

/-- Two rules take turns, one of them with a check that it notes twice and one that is there
already. -/
theorem skip_schedule_taking_turns :
    let navigation : SkippedCheck := ⟨"site","navigation","no site"⟩
    let usage : SkippedCheck := ⟨"fragment","usage","no pages"⟩
    let existence : SkippedCheck := ⟨"fragment","existence","no fragments"⟩
    let binding : SkippedCheck := ⟨"data","binding","no provider"⟩
    let t := ({ unit := .fullApp } : Tracker).skip navigation |>.skip existence
    let fragment : RuleNotes := ⟨"fragment",[usage,existence,usage],by decide⟩
    let data : RuleNotes := ⟨"data",[binding],by decide⟩
    let site : RuleNotes := ⟨"site",[navigation],by decide⟩
    let noted := [binding,usage,navigation,existence,usage]
    let serial := [site,fragment,data].flatMap (·.checks)
    t.Reachable ∧
      Interleaving ([fragment,data,site].map (·.checks)) noted ∧
      (t.skipAll noted).skipped = [navigation,existence,binding,usage] ∧
      (t.skipAll serial).skipped = [navigation,existence,usage,binding] ∧
      ((t.skipAll noted).skipped.filter fun c => c.rule = "fragment") = [existence,usage] ∧
      (t.skipAll noted).rulesPartiallyExecuted.Perm (t.skipAll serial).rulesPartiallyExecuted := by
  intro navigation usage existence binding t fragment data site noted serial
  have ht : t.Reachable := ((Reachable.new .fullApp).skip navigation).skip existence
  have hnoted : Interleaving ([fragment,data,site].map (·.checks)) noted :=
    .step [fragment.checks] binding [] [site.checks]
      (.step [] usage [existence,usage] [[],site.checks]
        (.step [[existence,usage],[]] navigation [] []
          (.step [] existence [usage] [[],[]]
            (.step [] usage [] [[],[]] (.done (by simp))))))
  obtain ⟨-,-,-,horder,-,hgroups⟩ :=
    skip_schedule_independent t ht [fragment,data,site] (by decide) noted hnoted
  have hperm : [site,fragment,data].Perm [fragment,data,site] :=
    (List.perm_append_singleton site [fragment,data]).symm
  exact ⟨ht,hnoted,by decide +kernel,by decide +kernel,
    (horder fragment (by simp)).trans (by decide +kernel),hgroups _ hperm⟩

end Tracker
end AppLint
