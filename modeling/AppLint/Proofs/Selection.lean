import AppLint.Engine
import AppLint.Proofs.Except
import Mathlib.Data.List.Forall2

/-! An engine runs the first eligible entry for each rule id. -/
namespace AppLint

namespace BuiltinRule

theorem configure?_id {settings : Settings} {b r : BuiltinRule} {answer : Except SettingsError Unit}
    (h : b.configure? settings = some (answer,r)) : r.id = b.id := by
  cases b <;> cases h <;> rfl

end BuiltinRule

namespace Rule

theorem configure?_id {settings : Settings} {built rule : Rule} {answer : Except SettingsError Unit}
    (h : built.configure? settings = some (answer,rule)) : rule.id = built.id := by
  cases built with
  | builtin b =>
    obtain ⟨⟨_,r⟩,hr,hmap⟩ := Option.map_eq_some_iff.mp h
    cases hmap
    exact BuiltinRule.configure?_id hr
  | declared d => cases h
  | custom r =>
    obtain ⟨configure,-,hmap⟩ := Option.map_eq_some_iff.mp h
    cases hmap
    rfl

end Rule

namespace Engine

/-- What settings make of a rule. Empty settings change nothing, and none are given to a rule that
does not take them; others must be accepted. -/
inductive Applied (settings : Settings) (built : Rule) : Rule → Prop
  | empty (h : settings = []) : Applied settings built built
  | ignored (h : built.configure? settings = none) : Applied settings built built
  | accepted (rule : Rule) (hne : settings ≠ [])
      (h : built.configure? settings = some (.ok (),rule)) : Applied settings built rule

/-- An entry that may run: it builds `built`, which runs as `active`. -/
structure Eligible (c : Configuration) (entry : RuleEntry) (built : Rule) (active : ActiveRule) :
    Prop where
  notExample : entry.isExample = false
  enabled : c.isEnabled entry.name = true
  builds : entry.build = .ok built
  applied : Applied (c.settings entry.name) built active.rule
  severity : active.severity = (c.severity? entry.name).getD active.rule.severity

/-- The entry at position `i` is eligible, and none before it builds a rule with the same id. -/
def Selected (c : Configuration) (entries : List RuleEntry) (i : Nat) (active : ActiveRule) :
    Prop :=
  ∃ entry built, entries[i]? = some entry ∧ Eligible c entry built active ∧
    ∀ j < i, ∀ earlier other rule, entries[j]? = some earlier → Eligible c earlier other rule →
      other.id ≠ built.id

variable {c : Configuration} {taken : List String} {entry : RuleEntry} {active : ActiveRule}

theorem Applied.id_eq {settings : Settings} {built rule : Rule} (h : Applied settings built rule) :
    rule.id = built.id := by
  cases h with
  | empty | ignored => rfl
  | accepted _ _ h => exact Rule.configure?_id h

theorem Eligible.id_eq {built : Rule} (h : Eligible c entry built active) : active.id = built.id :=
  h.applied.id_eq

theorem configured_eq_ok {settings : Settings} {built rule : Rule} :
    (configured settings built).value = .ok rule ↔ Applied settings built rule := by
  unfold configured
  cases settings with
  | nil =>
    constructor
    · intro h
      cases h
      exact .empty rfl
    · rintro (_ | _ | ⟨_,hne,-⟩)
      · rfl
      · rfl
      · exact absurd rfl hne
  | cons s settings =>
    cases h : built.configure? (s :: settings) with
    | none =>
      constructor
      · intro hr
        cases hr
        exact .ignored h
      · rintro (hnil | _ | ⟨_,-,hr⟩)
        · cases hnil
        · rfl
        · simp [h] at hr
    | some result =>
      obtain ⟨answer,left⟩ := result
      constructor
      · intro hr
        obtain ⟨⟨⟩,rfl,rfl⟩ := Except.map_eq_ok.mp hr
        exact .accepted left (by simp) h
      · rintro (hnil | hr | ⟨_,-,hr⟩)
        · cases hnil
        · simp [h] at hr
        · cases h.symm.trans hr
          rfl

theorem activate?_eq_some :
    (activate? c taken entry).value = some active ↔
      ∃ built, Eligible c entry built active ∧ built.id ∉ taken := by
  unfold activate?
  split_ifs with hexample henabled
  · constructor
    · intro h
      cases h
    · rintro ⟨built,h,-⟩
      simp [h.notExample] at hexample
  · constructor
    · intro h
      cases h
    · rintro ⟨built,h,-⟩
      simp [h.enabled] at henabled
  · cases hbuild : entry.build with
    | error f =>
      constructor
      · intro h
        cases h
      · rintro ⟨built,h,-⟩
        simp [h.builds] at hbuild
    | ok built =>
      have hbuilt : ∀ {other : Rule}, Eligible c entry other active → other = built := by
        intro other h
        simpa [h.builds] using hbuild
      by_cases htaken : built.id ∈ taken
      · simp only [List.contains_iff_mem.mpr htaken,if_true]
        constructor
        · intro h
          cases h
        · rintro ⟨other,h,hfree⟩
          exact absurd (hbuilt h ▸ htaken) hfree
      · have hfree : taken.contains built.id = false := by simpa using htaken
        simp only [hfree,Bool.false_eq_true,if_false,Logged.value_bind]
        cases hset : (configured (c.settings entry.name) built).value with
        | error e =>
          constructor
          · intro h
            cases h
          · rintro ⟨other,h,-⟩
            obtain rfl := hbuilt h
            simp [configured_eq_ok.mpr h.applied] at hset
        | ok rule =>
          constructor
          · intro h
            cases h
            exact ⟨built,⟨by simpa using hexample,by simpa using henabled,hbuild,
              configured_eq_ok.mp hset,rfl⟩,htaken⟩
          · rintro ⟨other,h,-⟩
            obtain rfl := hbuilt h
            have hrule : rule = active.rule := by
              simpa [configured_eq_ok.mpr h.applied] using hset.symm
            subst hrule
            simp [← h.severity]

theorem activateAll_cons_some (h : (activate? c taken entry).value = some active)
    (rest : List RuleEntry) :
    (activateAll c taken (entry :: rest)).value =
      active :: (activateAll c (active.id :: taken) rest).value := by
  simp [activateAll,h]

theorem activateAll_cons_none (h : (activate? c taken entry).value = none)
    (rest : List RuleEntry) :
    (activateAll c taken (entry :: rest)).value = (activateAll c taken rest).value := by
  simp [activateAll,h]

/-- The taken ids are those of the eligible entries in `before`. -/
def Covers (c : Configuration) (before : List RuleEntry) (taken : List String) : Prop :=
  ∀ id, id ∈ taken ↔ ∃ entry ∈ before, ∃ built active, Eligible c entry built active ∧ built.id = id

theorem Covers.snoc_some {before : List RuleEntry} (h : Covers c before taken)
    (ha : (activate? c taken entry).value = some active) :
    Covers c (before ++ [entry]) (active.id :: taken) := by
  obtain ⟨built,he,-⟩ := activate?_eq_some.mp ha
  intro id
  rw [List.mem_cons,h id]
  constructor
  · rintro (rfl | ⟨e,hmem,hrest⟩)
    · exact ⟨entry,by simp,built,active,he,he.id_eq.symm⟩
    · exact ⟨e,List.mem_append_left _ hmem,hrest⟩
  · rintro ⟨e,hmem,other,rule,ho,rfl⟩
    rcases List.mem_append.mp hmem with hbefore | hlast
    · exact Or.inr ⟨e,hbefore,other,rule,ho,rfl⟩
    · obtain rfl := List.mem_singleton.mp hlast
      have hsame : other = built := by simpa [ho.builds] using he.builds
      left
      rw [hsame,he.id_eq]

theorem Covers.snoc_none {before : List RuleEntry} (h : Covers c before taken)
    (ha : (activate? c taken entry).value = none) :
    Covers c (before ++ [entry]) taken := by
  intro id
  constructor
  · intro hid
    obtain ⟨e,hmem,hrest⟩ := (h id).mp hid
    exact ⟨e,List.mem_append_left _ hmem,hrest⟩
  · rintro ⟨e,hmem,built,active,he,rfl⟩
    rcases List.mem_append.mp hmem with hbefore | hlast
    · exact (h _).mpr ⟨e,hbefore,built,active,he,rfl⟩
    · obtain rfl := List.mem_singleton.mp hlast
      by_contra hfree
      have hsome := activate?_eq_some.mpr ⟨built,he,hfree⟩
      simp [ha] at hsome

/-- With the ids of the entries before it taken, an entry is activated just if it is selected. -/
theorem selected_iff_activate? {before : List RuleEntry} (h : Covers c before taken)
    (entry : RuleEntry) (rest : List RuleEntry) (active : ActiveRule) :
    Selected c (before ++ entry :: rest) before.length active ↔
      (activate? c taken entry).value = some active := by
  rw [activate?_eq_some]
  constructor
  · rintro ⟨e,built,hget,he,hfirst⟩
    obtain rfl : entry = e := by simpa using hget
    refine ⟨built,he,fun hid => ?_⟩
    obtain ⟨earlier,hmem,other,rule,ho,hsame⟩ := (h built.id).mp hid
    obtain ⟨j,hj,hjget⟩ := List.getElem_of_mem hmem
    refine hfirst j hj earlier other rule ?_ ho hsame
    rw [List.getElem?_append_left hj,List.getElem?_eq_getElem hj,hjget]
  · rintro ⟨built,he,hfree⟩
    refine ⟨entry,built,by simp,he,fun j hj earlier other rule hget ho hsame => hfree ?_⟩
    rw [List.getElem?_append_left hj] at hget
    exact (h built.id).mpr ⟨earlier,List.mem_of_getElem? hget,other,rule,ho,hsame⟩

theorem activateAll_selects (c : Configuration) (before entries : List RuleEntry)
    (taken : List String) (h : Covers c before taken) :
    ∃ positions : List Nat, positions.Pairwise (· < ·) ∧
      (∀ i, i ∈ positions ↔ before.length ≤ i ∧ ∃ active, Selected c (before ++ entries) i active) ∧
      List.Forall₂ (Selected c (before ++ entries)) positions
        (activateAll c taken entries).value := by
  -- Positions count from the start of the list, so the entries that are done stay in the statement.
  induction entries generalizing before taken with
  | nil =>
    refine ⟨[],List.Pairwise.nil,fun i => ?_,List.Forall₂.nil⟩
    constructor
    · intro hi
      cases hi
    · rintro ⟨hi,active,entry,built,hget,-⟩
      simp [List.getElem?_eq_none hi] at hget
  | cons entry rest ih =>
    have hhere := selected_iff_activate? h entry rest
    have hassoc : before ++ [entry] ++ rest = before ++ entry :: rest := by simp
    have hlength : (before ++ [entry]).length = before.length + 1 := by simp
    cases ha : (activate? c taken entry).value with
    | some active =>
      obtain ⟨positions,hlt,hmem,hall⟩ := ih (before ++ [entry]) _ (h.snoc_some ha)
      rw [hassoc] at hmem hall
      rw [hlength] at hmem
      refine ⟨before.length :: positions,?_,fun i => ?_,?_⟩
      · refine List.pairwise_cons.mpr ⟨fun i hi => ?_,hlt⟩
        exact ((hmem i).mp hi).1
      · rw [List.mem_cons,hmem i]
        constructor
        · rintro (rfl | ⟨hi,hsel⟩)
          · exact ⟨Nat.le_refl _,active,(hhere active).mpr ha⟩
          · exact ⟨by omega,hsel⟩
        · rintro ⟨hi,hsel⟩
          rcases Nat.eq_or_lt_of_le hi with heq | hlt
          · exact Or.inl heq.symm
          · exact Or.inr ⟨hlt,hsel⟩
      · rw [activateAll_cons_some ha]
        exact List.Forall₂.cons ((hhere active).mpr ha) hall
    | none =>
      obtain ⟨positions,hlt,hmem,hall⟩ := ih (before ++ [entry]) _ (h.snoc_none ha)
      rw [hassoc] at hmem hall
      rw [hlength] at hmem
      refine ⟨positions,hlt,fun i => ?_,?_⟩
      · rw [hmem i]
        constructor
        · rintro ⟨hi,hsel⟩
          exact ⟨by omega,hsel⟩
        · rintro ⟨hi,active,hsel⟩
          rcases Nat.eq_or_lt_of_le hi with rfl | hlt
          · simp [(hhere active).mp hsel] at ha
          · exact ⟨hlt,active,hsel⟩
      · rw [activateAll_cons_none ha]
        exact hall

theorem ofEntries_selects (c : Configuration) (entries : List RuleEntry) :
    ∃ positions : List Nat, positions.Pairwise (· < ·) ∧
      (∀ i, i ∈ positions ↔ ∃ active, Selected c entries i active) ∧
      List.Forall₂ (Selected c entries) positions (ofEntries c entries).value.rules := by
  have hcovers : Covers c [] [] := by simp [Covers]
  obtain ⟨positions,hlt,hmem,hall⟩ := activateAll_selects c [] entries [] hcovers
  exact ⟨positions,hlt,fun i => by simpa using hmem i,hall⟩

theorem eligible_of_mem {entries : List RuleEntry}
    (h : active ∈ (ofEntries c entries).value.rules) :
    ∃ entry ∈ entries, ∃ built, Eligible c entry built active := by
  obtain ⟨positions,-,-,hall⟩ := ofEntries_selects c entries
  obtain ⟨k,hk,rfl⟩ := List.getElem_of_mem h
  obtain ⟨entry,built,hget,he,-⟩ := hall.get (hall.length_eq ▸ hk) hk
  exact ⟨entry,List.mem_of_getElem? hget,built,he⟩

theorem Selected.id_ne {entries : List RuleEntry} {i j : Nat} {first second : ActiveRule}
    (hlt : i < j) (hi : Selected c entries i first) (hj : Selected c entries j second) :
    first.id ≠ second.id := by
  obtain ⟨earlier,other,hget,ho,-⟩ := hi
  obtain ⟨later,built,-,he,hfirst⟩ := hj
  rw [ho.id_eq,he.id_eq]
  exact hfirst i hlt earlier other first hget ho

theorem ruleIds_nodup (c : Configuration) (entries : List RuleEntry) :
    (ofEntries c entries).value.ruleIds.Nodup := by
  obtain ⟨positions,hlt,-,hall⟩ := ofEntries_selects c entries
  have hlength := hall.length_eq
  refine List.pairwise_map.mpr (List.pairwise_iff_getElem.mpr fun i j hi hj hij => ?_)
  have hpositions := List.pairwise_iff_getElem.mp hlt i j (hlength ▸ hi) (hlength ▸ hj) hij
  exact Selected.id_ne hpositions (hall.get _ hi) (hall.get _ hj)

theorem activateAll_ineligible (c : Configuration) (taken : List String)
    (before rest : List RuleEntry)
    (h : ∀ built active, ¬Eligible c entry built active) :
    (activateAll c taken (before ++ entry :: rest)).value =
      (activateAll c taken (before ++ rest)).value := by
  induction before generalizing taken with
  | nil =>
    apply activateAll_cons_none
    cases ha : (activate? c taken entry).value with
    | none => rfl
    | some active =>
      obtain ⟨built,he,-⟩ := activate?_eq_some.mp ha
      exact absurd he (h built active)
  | cons first before ih =>
    simp only [List.cons_append]
    cases ha : (activate? c taken first).value with
    | none => rw [activateAll_cons_none ha,activateAll_cons_none ha,ih]
    | some active => rw [activateAll_cons_some ha,activateAll_cons_some ha,ih]

/-- The rules of an engine are those of the selected entries, in their order. So their ids differ,
each runs with the settings and the severity that are configured under the name of its entry, and
entries that are not eligible stand in no other's way. -/
theorem ofEntries_selects_first_eligible (c : Configuration) (entries : List RuleEntry) :
    let rules := (ofEntries c entries).value.rules
    (∃ positions : List Nat, positions.Pairwise (· < ·) ∧
      (∀ i, i ∈ positions ↔ ∃ active, Selected c entries i active) ∧
      List.Forall₂ (Selected c entries) positions rules) ∧
    (rules.map ActiveRule.id).Nodup ∧
    (∀ active ∈ rules, ∃ entry ∈ entries, ∃ built, Eligible c entry built active) ∧
    ∀ before entry rest, entries = before ++ entry :: rest →
      (∀ built active, ¬Eligible c entry built active) →
      rules = (ofEntries c (before ++ rest)).value.rules := by
  refine ⟨ofEntries_selects c entries,ruleIds_nodup c entries,fun active => eligible_of_mem,?_⟩
  rintro before entry rest rfl h
  exact activateAll_ineligible c [] before rest h

/-- An example in front of a rule of the same id does not keep that rule from running. -/
theorem ofEntries_example_first :
    let entry : RuleEntry := RuleEntry.ofBuiltin .dataBinding
    let copy : RuleEntry := ⟨"copy",true,entry.build⟩
    (ofEntries {} [copy,entry]).value.rules = (ofEntries {} [entry]).value.rules ∧
      (ofEntries {} [copy,entry]).value.ruleIds = ["data-binding"] ∧
      ∃ e ∈ [copy,entry], ∃ built, Eligible {} e built ⟨.builtin .dataBinding,.error⟩ := by
  intro entry copy
  have h : ∀ built active, ¬Eligible {} copy built active := by
    intro built active he
    cases he.notExample
  obtain ⟨-,-,heligible,hdropped⟩ := ofEntries_selects_first_eligible {} [copy,entry]
  exact ⟨hdropped [] copy [entry] rfl h,rfl,heligible _ (List.mem_singleton_self _)⟩

end Engine
end AppLint
