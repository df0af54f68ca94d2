import AppLint.Proofs.AcceptedSettings
import AppLint.Proofs.LoadStep
import AppLint.Proofs.Quoting
import Mathlib.Data.List.Flatten
import Mathlib.Data.List.Sigma

/-! What settings do to findings. A higher limit, more hosts and more known variables only take
findings away; more patterns only add some, and never a second one to a line. -/
namespace AppLint
open Json (Value)

namespace ComponentLimit

def crowded (limit : Nat) (p : Project) : List Page :=
  p.pages.values.filter fun page => limit < page.components.length

theorem crowded_sublist {m n : Nat} (h : m ≤ n) (p : Project) :
    (crowded n p).Sublist (crowded m p) := by
  refine List.monotone_filter_right _ fun page hpage => ?_
  rw [decide_eq_true_eq] at hpage ⊢
  exact Nat.lt_of_le_of_lt h hpage

end ComponentLimit

namespace InsecureEndpoint

theorem isInsecure_of_subset {hosts more : List String} (h : hosts ⊆ more) {url : String}
    (hurl : isInsecure more url = true) : isInsecure hosts url = true := by
  unfold isInsecure at hurl ⊢
  split at hurl
  · rename_i host hhost
    simp only [Bool.not_eq_true',List.contains_eq_mem,decide_eq_false_iff_not] at hurl ⊢
    exact fun hmem => hurl (h hmem)
  · cases hurl

theorem findings_sublist {hosts more : List String} (h : hosts ⊆ more) (p : Project) :
    (analyze more p).findings.Sublist (analyze hosts p).findings := by
  unfold analyze
  split
  · rename_i d hd
    simp only [Analysis.findings_found,List.filterMap_eq_flatMap_toList]
    refine List.Sublist.flatMap_right _ fun provider _ => ?_
    unfold check
    split
    · rename_i url hurl
      by_cases hmore : isInsecure more url = true
      · rw [if_pos hmore,if_pos (isInsecure_of_subset h hmore)]
      · rw [if_neg hmore]
        exact List.nil_sublist _
    · exact List.Sublist.refl _
  · exact List.Sublist.refl _

end InsecureEndpoint

namespace UnknownVariable

theorem findings_sublist {known more : List String} (h : known ⊆ more) (p : Project) :
    (analyze more p).findings.Sublist (analyze known p).findings := by
  refine List.Sublist.flatMap_right _ fun s _ => List.Sublist.flatMap_right _ fun t _ => ?_
  refine (List.monotone_filter_right _ fun name hname => ?_).map _
  simp only [isUnknown,Bool.and_eq_true,Bool.not_eq_true',List.contains_eq_mem,
    decide_eq_false_iff_not] at hname ⊢
  exact ⟨hname.1,fun hmem => hname.2 (h hmem)⟩

theorem message_ne_of_mem {known : List String} {p : Project} {f : Finding}
    (hf : f ∈ (analyze known p).findings) {root : String} (hroot : root ∈ known) :
    f.message ≠ "unknown template variable " ++ Text.quoted root := by
  obtain ⟨s,-,hs⟩ := List.mem_flatMap.mp hf
  obtain ⟨t,-,ht⟩ := List.mem_flatMap.mp hs
  obtain ⟨name,hname,rfl⟩ := List.mem_map.mp ht
  rintro hsame
  rw [finding,String.append_right_inj,Text.quoted_inj] at hsame
  simp [isUnknown,hsame,hroot] at hname

theorem foldl_after_subset {calls more : List Settings} (h : calls ⊆ more) (known : List String) :
    calls.foldl (Configuring.after configure) known ⊆
      more.foldl (Configuring.after configure) known := by
  intro name hname
  rcases mem_foldl_after.mp hname with hknown | ⟨settings,hsettings,hgives⟩
  · exact mem_foldl_after.mpr (Or.inl hknown)
  · exact mem_foldl_after.mpr (Or.inr ⟨settings,h hsettings,hgives⟩)

end UnknownVariable

namespace HardcodedSecret

theorem findings_sublist {extra more : List Regex} (h : extra ⊆ more) (p : Project) :
    (analyze extra p).findings.Sublist (analyze more p).findings := by
  refine List.Sublist.flatMap_right _ fun s _ => ?_
  refine (List.monotone_filter_right _ fun line hline => ?_).map _
  simp only [isSecret,Bool.and_eq_true,List.any_eq_true] at hline ⊢
  obtain ⟨hcode,pattern,hpattern,hmatch⟩ := hline
  have hmore : pattern ∈ defaultPatterns ++ more :=
    List.mem_append.mpr ((List.mem_append.mp hpattern).imp_right (h ·))
  exact ⟨hcode,pattern,hmore,hmatch⟩

theorem nodup_lines (extra : List Regex) (s : ScriptDocument) :
    ((check extra s).map Finding.line).Nodup := by
  have hlines : (s.lines.map Prod.fst).Nodup := by
    have hnumbers : s.lines.map Prod.fst =
        ((Text.lines s.source.toList).zipIdx.map Prod.snd).map (· + 1) := by
      rw [ScriptDocument.lines,List.map_map,List.map_map]
      rfl
    rw [hnumbers]
    exact (List.nodup_zipIdx_map_snd _).map (add_left_injective 1)
  have hcheck : (check extra s).map Finding.line =
      (s.lines.filter fun l => isSecret extra l.2).map Prod.fst := by
    rw [check,List.map_map]
    rfl
  rw [hcheck]
  exact hlines.sublist (List.filter_sublist.map _)

theorem nodup_places (p : Project) (extra : List Regex) :
    ((analyze extra p).findings.map fun f => (f.path,f.line)).Nodup := by
  have hpath : ∀ s, ∀ place ∈ (check extra s).map (fun f => (f.path,f.line)), place.1 = s.path := by
    intro s place hplace
    obtain ⟨f,hf,rfl⟩ := List.mem_map.mp hplace
    obtain ⟨line,-,rfl⟩ := List.mem_map.mp hf
    rfl
  rw [analyze,Analysis.findings_found,List.map_flatMap,List.nodup_flatMap]
  refine ⟨fun s _ => ?_,?_⟩
  · refine List.Nodup.of_map Prod.snd ?_
    rw [List.map_map]
    exact nodup_lines extra s
  · refine (List.pairwise_map.mp p.scripts.pairwise_name).imp fun {s t} hlt => ?_
    intro place hs ht
    exact absurd ((hpath s place hs).symm.trans (hpath t place ht)) (ne_of_lt hlt)

theorem mem_patterns_iff {sources : List String} {patterns : List Regex}
    (h : List.Forall₂ (fun source pattern => Regex.parse source = .ok pattern) sources patterns)
    (pattern : Regex) :
    pattern ∈ patterns ↔ ∃ source ∈ sources, Regex.parse source = .ok pattern := by
  induction h with
  | nil => simp
  | cons hparse _ ih => simp [ih,hparse,eq_comm]

end HardcodedSecret

namespace BuiltinRule
variable {v w : Value} {b r s : BuiltinRule} {settings : Settings} {key : String}

/-- After the calls the rule is what a single call with the value makes of it. -/
def Holds (b : BuiltinRule) (calls : List Settings) (v : Value) : Prop :=
  Sets v b (b.settledAll calls)

/-- Known variables apart, a setting takes the place of the one before. -/
theorem Sets.replace (hb : b.setting? ≠ some UnknownVariable.key) (h : Sets v b r)
    (hlater : Sets w r s) : Sets w b s := by
  unfold Sets at h
  split at h
  · cases s <;> exact hlater
  · cases s <;> exact hlater
  · cases s <;> exact hlater
  · exact absurd rfl hb
  · cases s <;> exact hlater
  · exact h.elim

section
variable (hb : b.setting? ≠ some UnknownVariable.key) (hpreset : b.Holds [] w)
include hb hpreset

theorem exists_holds (calls : List Settings) : ∃ v, b.Holds calls v := by
  induction calls using List.reverseRecOn with
  | nil => exact ⟨w,hpreset⟩
  | append_singleton calls settings ih =>
    unfold Holds
    rw [settledAll_concat]
    by_cases h : (b.settledAll calls).Accepts settings
    · obtain ⟨r,hr⟩ := accepts_iff_configure?.mp h
      rw [settled_of_ok hr]
      obtain ⟨key,-,-,⟨-,rfl⟩ | ⟨v,-,hsets⟩⟩ := configure?_eq_ok.mp hr
      · exact ih
      · obtain ⟨u,hu⟩ := ih
        exact ⟨v,hu.replace hb hsets⟩
    · rw [settled_of_not_accepts h]
      exact ih

theorem holds_concat (calls : List Settings) (h : b.Accepts settings)
    (hget : Keyed.get? key settings = some v) : b.Holds (calls ++ [settings]) v := by
  obtain ⟨u,hu⟩ := exists_holds hb hpreset calls
  obtain ⟨r,hr⟩ := accepts_iff_configure?.mp ((accepts_settledAll calls settings).mpr h)
  obtain ⟨own,-,honly,hlead⟩ := configure?_eq_ok.mp hr
  have hkey : key = own := honly (key,v) (Keyed.mem_of_get? hget)
  rw [← hkey] at hlead
  unfold Holds
  rw [settledAll_concat,settled_of_ok hr]
  rcases hlead with ⟨hnone,-⟩ | ⟨x,hx,hsets⟩
  · rw [hget] at hnone
    cases hnone
  · rw [Option.some.inj (hget.symm.trans hx)]
    exact hu.replace hb hsets

end

theorem Sets.eq_componentLimit {limit n : Nat}
    (h : Sets (.number (.integer n)) (componentLimit limit) r) : r = componentLimit n := by
  cases r with
  | componentLimit m =>
    obtain ⟨-,-,hnumber⟩ := h
    have hn : (n : Int) = m := by simpa using hnumber
    rw [Int.ofNat_inj.mp hn]
  | _ => exact h.elim

theorem strings_inj {xs ys : List String} :
    Value.array (xs.map .string) = .array (ys.map .string) ↔ xs = ys := by
  rw [Value.array.injEq]
  exact (List.map_injective_iff.mpr fun _ _ h => Value.string.inj h).eq_iff

theorem Sets.eq_insecureEndpoint {hosts entries : List String}
    (h : Sets (.array (entries.map .string)) (insecureEndpoint hosts) r) :
    r = insecureEndpoint (InsecureEndpoint.lowered entries) := by
  cases r with
  | insecureEndpoint others =>
    obtain ⟨listed,hlisted,rfl⟩ := h
    rw [strings_inj.mp hlisted]
  | _ => exact h.elim

theorem Sets.eq_hardcodedSecret {extra : List Regex} {sources : List String}
    (h : Sets (.array (sources.map .string)) (hardcodedSecret extra) r) :
    ∃ patterns, r = hardcodedSecret patterns ∧
      List.Forall₂ (fun source pattern => Regex.parse source = .ok pattern) sources patterns := by
  cases r with
  | hardcodedSecret patterns =>
    obtain ⟨listed,hlisted,hpatterns⟩ := h
    rw [strings_inj.mp hlisted]
    exact ⟨patterns,rfl,hpatterns⟩
  | _ => exact h.elim

theorem settledAll_hardcodedSecret (extra : List Regex) (calls : List Settings) :
    (hardcodedSecret extra).settledAll calls =
      hardcodedSecret (calls.foldl (Configuring.after HardcodedSecret.configure) extra) :=
  settledAll_eq (fun _ _ => rfl) extra calls

/-- The rules whose setting is replaced, and the value that it has without settings. -/
def presets : List (BuiltinRule × Value) :=
  [(componentLimit ComponentLimit.defaultLimit,.number (.integer ComponentLimit.defaultLimit)),
   (insecureEndpoint InsecureEndpoint.defaultHosts,
     .array (InsecureEndpoint.defaultHosts.map .string)),
   (hardcodedSecret [],.array [])]

theorem holds_preset {e : BuiltinRule × Value} (h : e ∈ presets) :
    e.1.setting? ≠ some UnknownVariable.key ∧ e.1.Holds [] e.2 := by
  simp only [presets,List.mem_cons,List.not_mem_nil,or_false] at h
  obtain rfl | rfl | rfl := h
  · exact ⟨by decide,by decide,by decide,rfl⟩
  · exact ⟨by decide,InsecureEndpoint.defaultHosts,rfl,by decide⟩
  · exact ⟨by decide,[],rfl,.nil⟩

def findingsAfter (b : BuiltinRule) (calls : List Settings) (p : Project) : List Finding :=
  ((b.settledAll calls).analyze p).findings

/-- What becomes of the findings in a project where there is more in the settings. -/
structure SettingsMonotone (p : Project) : Prop where
  limit : ∀ calls (n : Nat),
    (componentLimit ComponentLimit.defaultLimit).Holds calls (.number (.integer n)) →
      (componentLimit ComponentLimit.defaultLimit).findingsAfter calls p =
        (ComponentLimit.crowded n p).map (ComponentLimit.finding n)
  /-- The findings name the limit, so just the pages can be compared. -/
  crowded : ∀ m n, m ≤ n → (ComponentLimit.crowded n p).Sublist (ComponentLimit.crowded m p)
  hosts : ∀ calls calls' (hosts more : List String),
    (insecureEndpoint InsecureEndpoint.defaultHosts).Holds calls (.array (hosts.map .string)) →
      (insecureEndpoint InsecureEndpoint.defaultHosts).Holds calls' (.array (more.map .string)) →
        hosts ⊆ more →
          ((insecureEndpoint InsecureEndpoint.defaultHosts).findingsAfter calls' p).Sublist
            ((insecureEndpoint InsecureEndpoint.defaultHosts).findingsAfter calls p)
  /-- More calls, in any order and between the others, leave only findings that there were. -/
  roots : ∀ calls more, calls ⊆ more →
    ((unknownVariable UnknownVariable.defaultRoots).findingsAfter more p).Sublist
      ((unknownVariable UnknownVariable.defaultRoots).findingsAfter calls p)
  defaultRoots : ∀ calls,
    ∀ f ∈ (unknownVariable UnknownVariable.defaultRoots).findingsAfter calls p,
    ∀ root ∈ UnknownVariable.defaultRoots,
      f.message ≠ "unknown template variable " ++ Text.quoted root
  patterns : ∀ calls calls' (sources more : List String),
    (hardcodedSecret []).Holds calls (.array (sources.map .string)) →
      (hardcodedSecret []).Holds calls' (.array (more.map .string)) → sources ⊆ more →
        ((hardcodedSecret []).findingsAfter calls p).Sublist
          ((hardcodedSecret []).findingsAfter calls' p)
  defaultPatterns : ∀ calls,
    ((hardcodedSecret []).findingsAfter [] p).Sublist ((hardcodedSecret []).findingsAfter calls p)
  once : ∀ calls, (((hardcodedSecret []).findingsAfter calls p).map fun f => (f.path,f.line)).Nodup

theorem settingsMonotone (p : Project) : SettingsMonotone p where
  limit := by
    intro calls n hn
    rw [findingsAfter,hn.eq_componentLimit]
    rfl
  crowded := fun _ _ h => ComponentLimit.crowded_sublist h p
  hosts := by
    intro calls calls' hosts more hhosts hmore hsubset
    rw [findingsAfter,findingsAfter,hhosts.eq_insecureEndpoint,hmore.eq_insecureEndpoint]
    exact InsecureEndpoint.findings_sublist (List.map_subset _ hsubset) p
  roots := by
    intro calls more hsubset
    rw [findingsAfter,findingsAfter,settledAll_unknownVariable,settledAll_unknownVariable]
    exact UnknownVariable.findings_sublist (UnknownVariable.foldl_after_subset hsubset _) p
  defaultRoots := by
    intro calls f hf root hroot
    rw [findingsAfter,settledAll_unknownVariable] at hf
    have hknown := UnknownVariable.foldl_after_subset (List.nil_subset calls) _ hroot
    exact UnknownVariable.message_ne_of_mem hf hknown
  patterns := by
    intro calls calls' sources more hsources hmore hsubset
    obtain ⟨patterns,hstate,hpatterns⟩ := hsources.eq_hardcodedSecret
    obtain ⟨others,hstate',hothers⟩ := hmore.eq_hardcodedSecret
    rw [findingsAfter,findingsAfter,hstate,hstate']
    refine HardcodedSecret.findings_sublist (fun pattern hpattern => ?_) p
    obtain ⟨source,hsource,hparse⟩ :=
      (HardcodedSecret.mem_patterns_iff hpatterns pattern).mp hpattern
    exact (HardcodedSecret.mem_patterns_iff hothers pattern).mpr ⟨source,hsubset hsource,hparse⟩
  defaultPatterns := by
    intro calls
    rw [findingsAfter,findingsAfter,settledAll_hardcodedSecret [] calls]
    exact HardcodedSecret.findings_sublist (List.nil_subset _) p
  once := by
    intro calls
    rw [findingsAfter,settledAll_hardcodedSecret]
    exact HardcodedSecret.nodup_places p _

/-- In a loaded project a higher limit and more hosts only take findings away, and so do further
calls that make variables known; more patterns only add to what is found. What a rule holds is its
default at first, and after an accepted call what that call sets. -/
theorem load_settings_monotone (unit : AnalysisUnit) (files : List SourceFile) :
    SettingsMonotone (Project.load unit files).value ∧
    ∀ e ∈ presets, e.1.Holds [] e.2 ∧ ∀ calls, (∃ v, e.1.Holds calls v) ∧
      ∀ settings key v, e.1.Accepts settings → Keyed.get? key settings = some v →
        e.1.Holds (calls ++ [settings]) v := by
  refine ⟨settingsMonotone _,fun e he => ?_⟩
  obtain ⟨hkey,hpreset⟩ := holds_preset he
  refine ⟨hpreset,fun calls => ⟨exists_holds hkey hpreset calls,fun settings key v => ?_⟩⟩
  exact holds_concat hkey hpreset calls

/-- A script with two variables that are not known at first. -/
def cartScript : SourceFile := ("m.js","let t = `\x7b\x7bcart ?? total ?? user\x7d\x7d`;")

/-- Of two endpoints and two variables one each is left, and then none. -/
theorem load_settings_monotone_cart :
    let p := (Project.load .individualFiles [InsecureEndpoint.spoofedFile,cartScript]).value
    let endpoint := insecureEndpoint InsecureEndpoint.defaultHosts
    let unknown := unknownVariable UnknownVariable.defaultRoots
    let evil : List Settings := [[("allowed_hosts",.array [.string "Evil"])]]
    let both := evil ++ [[("allowed_hosts",.array [.string "intra",.string "Evil"])]]
    let cart : List Settings := [[("known_roots",.array [.string "cart"])]]
    let total : List Settings := [("known_roots",.array [.string "total"])] :: cart
    let abc : List Settings := [[("extra_patterns",.array [.string "abc"])]]
    endpoint.Holds evil (.array (["Evil"].map .string)) ∧
    endpoint.Holds both (.array (["intra","Evil"].map .string)) ∧
    (endpoint.findingsAfter both p).Sublist (endpoint.findingsAfter evil p) ∧
    (endpoint.findingsAfter evil p).length = 1 ∧ (endpoint.findingsAfter both p).length = 0 ∧
    (unknown.findingsAfter total p).Sublist (unknown.findingsAfter cart p) ∧
    (unknown.findingsAfter cart p).map Finding.message = ["unknown template variable \"total\""] ∧
    unknown.findingsAfter total p = [] ∧
    (hardcodedSecret []).Holds abc (.array (["abc"].map .string)) ∧
    ((hardcodedSecret []).findingsAfter [] p).Sublist
      ((hardcodedSecret []).findingsAfter abc p) := by
  intro p endpoint unknown evil both cart total abc
  obtain ⟨hmonotone,hholds⟩ :=
    load_settings_monotone .individualFiles [InsecureEndpoint.spoofedFile,cartScript]
  have hendpoint : (endpoint,.array (InsecureEndpoint.defaultHosts.map .string)) ∈ presets :=
    .tail _ (.head _)
  have hsecret : (hardcodedSecret [],.array []) ∈ presets := .tail _ (.tail _ (.head _))
  have hevil : endpoint.Holds evil (.array (["Evil"].map .string)) :=
    ((hholds _ hendpoint).2 []).2 _ "allowed_hosts" _ (by decide +kernel) rfl
  have hboth : endpoint.Holds both (.array (["intra","Evil"].map .string)) :=
    ((hholds _ hendpoint).2 evil).2 _ "allowed_hosts" _ (by decide +kernel) rfl
  have habc : (hardcodedSecret []).Holds abc (.array (["abc"].map .string)) :=
    ((hholds _ hsecret).2 []).2 _ "extra_patterns" _ (by decide +kernel) rfl
  have hfound : (endpoint.findingsAfter evil p).length = 1 ∧
      (endpoint.findingsAfter both p).length = 0 ∧
      (unknown.findingsAfter cart p).map Finding.message = ["unknown template variable \"total\""] ∧
      unknown.findingsAfter total p = [] := by decide +kernel
  obtain ⟨hone,hnone,htotal,hempty⟩ := hfound
  exact ⟨hevil,hboth,hmonotone.hosts _ _ _ _ hevil hboth (by decide),hone,hnone,
    hmonotone.roots cart total (List.subset_cons_self _ _),htotal,hempty,habc,
    hmonotone.defaultPatterns abc⟩

end BuiltinRule
end AppLint
