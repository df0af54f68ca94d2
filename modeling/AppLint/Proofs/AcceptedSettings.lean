import AppLint.Proofs.AllowList
import AppLint.Proofs.JsonEquality

/-! Which settings a rule accepts, whatever calls came before. What an accepted call makes of the rule
is decided by the value of its setting, and a call that is refused leaves the rule as it was. -/
namespace AppLint
open Json (Value)

theorem Json.Value.natural?_eq_some {v : Value} {n : Nat} :
    v.natural? = some n ↔ n < UInt64.size ∧ v = .number (.integer n) := by
  constructor
  · intro h
    unfold natural? at h
    split at h
    · rename_i m
      split_ifs at h with hrange
      have hn : m.toNat = n := Option.some.inj h
      have hm : m = n := by omega
      subst hm
      exact ⟨Int.ofNat_lt.mp hrange.2,rfl⟩
    · cases h
  · rintro ⟨hsize,rfl⟩
    have hrange : (0 : Int) ≤ n ∧ (n : Int) < UInt64.size :=
      ⟨Int.natCast_nonneg n,Int.ofNat_lt.mpr hsize⟩
    simp only [natural?,if_pos hrange,Int.toNat_natCast]

/-- Settings with no other key than `key` lead from one state to the next: without the key all stays
as it was, else its value decides. -/
def Settings.Lead {σ : Type} (key : String) (set : Value → σ → σ → Prop) (settings : Settings)
    (x y : σ) : Prop :=
  (∀ e ∈ settings, e.1 = key) ∧
    (Keyed.get? key settings = none ∧ y = x ∨ ∃ v, Keyed.get? key settings = some v ∧ set v x y)

namespace BuiltinRule

def setting? : BuiltinRule → Option String
  | componentLimit _ => some ComponentLimit.key
  | insecureEndpoint _ => some InsecureEndpoint.key
  | hardcodedSecret _ => some HardcodedSecret.key
  | unknownVariable _ => some UnknownVariable.key
  | forbiddenId _ => some ForbiddenId.key
  | _ => none

def WellFormed (v : Value) : BuiltinRule → Prop
  | componentLimit _ => ∃ n : Nat, 0 < n ∧ n < UInt64.size ∧ v = .number (.integer n)
  | insecureEndpoint _ => ∃ hosts : List String, v = .array (hosts.map .string)
  | hardcodedSecret _ => ∃ sources : List String, v = .array (sources.map .string) ∧
      ∀ source ∈ sources, ∃ pattern, Regex.parse source = .ok pattern
  | unknownVariable _ => ∃ roots : List String, v = .array (roots.map .string) ∧
      ∀ root ∈ roots, Expr.isIdentifier root.toList = true
  | forbiddenId _ => ∃ ids : List String, v = .array (ids.map .string)
  | _ => False

/-- Settings with nothing but the rule's own setting, which has a well-formed value if it is there. -/
def Accepts (b : BuiltinRule) (settings : Settings) : Prop :=
  ∃ key, b.setting? = some key ∧ (∀ e ∈ settings, e.1 = key) ∧
    ∀ v, Keyed.get? key settings = some v → b.WellFormed v

/-- What a value of its setting makes of a rule: known variables are added to, all else is
replaced. -/
def Sets (v : Value) : BuiltinRule → BuiltinRule → Prop
  | componentLimit _, componentLimit n => 0 < n ∧ n < UInt64.size ∧ v = .number (.integer n)
  | insecureEndpoint _, insecureEndpoint hosts => ∃ entries : List String,
      v = .array (entries.map .string) ∧ hosts = InsecureEndpoint.lowered entries
  | hardcodedSecret _, hardcodedSecret extra => ∃ sources : List String,
      v = .array (sources.map .string) ∧
        List.Forall₂ (fun source pattern => Regex.parse source = .ok pattern) sources extra
  | unknownVariable known, unknownVariable known' => ∃ roots : List String,
      v = .array (roots.map .string) ∧
        (∀ root ∈ roots, Expr.isIdentifier root.toList = true) ∧ known' = known ++ roots
  | forbiddenId _, forbiddenId ids => v = .array (ids.map .string)
  | _, _ => False

end BuiltinRule

open BuiltinRule (Sets)

namespace ComponentLimit

theorem configure_eq_ok {limit limit' : Nat} {settings : Settings} :
    configure settings limit = (.ok (),limit') ↔
      settings.Lead key (fun v m n => Sets v (.componentLimit m) (.componentLimit n)) limit limit' := by
  unfold configure
  simp only [Configuring.read_bind_eq_ok,Settings.positive?_eq_ok]
  constructor
  · rintro ⟨⟨⟩,honly,number,⟨hget,rfl⟩ | ⟨v,n,hget,hnatural,hpos,rfl⟩,hlast⟩
    · cases hlast
      exact ⟨Settings.only_eq_ok.mp honly,Or.inl ⟨hget,rfl⟩⟩
    · cases hlast
      obtain ⟨hsize,hv⟩ := Value.natural?_eq_some.mp hnatural
      exact ⟨Settings.only_eq_ok.mp honly,Or.inr ⟨v,hget,hpos,hsize,hv⟩⟩
  · rintro ⟨honly,⟨hget,rfl⟩ | ⟨v,hget,hpos,hsize,hv⟩⟩
    · exact ⟨(),Settings.only_eq_ok.mpr honly,none,Or.inl ⟨hget,rfl⟩,rfl⟩
    · have hnatural := Value.natural?_eq_some.mpr ⟨hsize,hv⟩
      exact ⟨(),Settings.only_eq_ok.mpr honly,some limit',
        Or.inr ⟨v,limit',hget,hnatural,hpos,rfl⟩,rfl⟩

end ComponentLimit

namespace InsecureEndpoint

theorem configure_eq_ok_iff_lead {hosts hosts' : List String} {settings : Settings} :
    configure settings hosts = (.ok (),hosts') ↔
      settings.Lead key (fun v m n => Sets v (.insecureEndpoint m) (.insecureEndpoint n))
        hosts hosts' := by
  rw [configure_eq_ok]
  constructor
  · rintro (⟨entries,⟨honly,hget⟩,rfl⟩ | ⟨honly,hget,rfl⟩)
    · exact ⟨honly,Or.inr ⟨_,hget,entries,rfl,rfl⟩⟩
    · exact ⟨honly,Or.inl ⟨hget,rfl⟩⟩
  · rintro ⟨honly,⟨hget,rfl⟩ | ⟨-,hget,entries,rfl,rfl⟩⟩
    · exact Or.inr ⟨honly,hget,rfl⟩
    · exact Or.inl ⟨entries,⟨honly,hget⟩,rfl⟩

end InsecureEndpoint

namespace HardcodedSecret

theorem readPatterns_eq_ok {sources : List String} {patterns : List Regex} :
    readPatterns sources = .ok patterns ↔
      List.Forall₂ (fun source pattern => Regex.parse source = .ok pattern) sources patterns := by
  simp only [readPatterns,Except.mapM_eq_ok,readPattern,Except.mapError_eq_ok]

theorem configure_eq_ok {extra extra' : List Regex} {settings : Settings} :
    configure settings extra = (.ok (),extra') ↔
      settings.Lead key (fun v m n => Sets v (.hardcodedSecret m) (.hardcodedSecret n))
        extra extra' := by
  refine Configuring.only_strings?_eq_ok.trans (and_congr_right fun _ => ?_)
  constructor
  · rintro (⟨hget,hlast⟩ | ⟨sources,hget,hlast⟩)
    · cases hlast
      exact Or.inl ⟨hget,rfl⟩
    · obtain ⟨patterns,hpatterns,hset⟩ := Configuring.read_bind_eq_ok.mp hlast
      cases hset
      exact Or.inr ⟨_,hget,sources,rfl,readPatterns_eq_ok.mp hpatterns⟩
  · rintro (⟨hget,rfl⟩ | ⟨-,hget,sources,rfl,hpatterns⟩)
    · exact Or.inl ⟨hget,rfl⟩
    · refine Or.inr ⟨sources,hget,?_⟩
      exact Configuring.read_bind_eq_ok.mpr ⟨extra',readPatterns_eq_ok.mpr hpatterns,rfl⟩

end HardcodedSecret

namespace UnknownVariable

theorem configure_eq_ok_iff_lead {known known' : List String} {settings : Settings} :
    configure settings known = (.ok (),known') ↔
      settings.Lead key (fun v m n => Sets v (.unknownVariable m) (.unknownVariable n))
        known known' := by
  rw [configure_eq_ok]
  constructor
  · rintro ⟨roots,⟨honly,hget | ⟨hget,rfl⟩,hids⟩,rfl⟩
    · exact ⟨honly,Or.inr ⟨_,hget,roots,rfl,hids,rfl⟩⟩
    · exact ⟨honly,Or.inl ⟨hget,List.append_nil known⟩⟩
  · rintro ⟨honly,⟨hget,rfl⟩ | ⟨-,hget,roots,rfl,hids,rfl⟩⟩
    · exact ⟨[],⟨honly,Or.inr ⟨hget,rfl⟩,by simp⟩,by simp⟩
    · exact ⟨roots,⟨honly,Or.inl hget,hids⟩,rfl⟩

end UnknownVariable

namespace ForbiddenId

theorem configure_eq_ok {forbidden forbidden' : List String} {settings : Settings} :
    configure settings forbidden = (.ok (),forbidden') ↔
      settings.Lead key (fun v m n => Sets v (.forbiddenId m) (.forbiddenId n))
        forbidden forbidden' := by
  refine Configuring.only_strings?_eq_ok.trans (and_congr_right fun _ => ?_)
  constructor
  · rintro (⟨hget,hlast⟩ | ⟨ids,hget,hlast⟩)
    · cases hlast
      exact Or.inl ⟨hget,rfl⟩
    · cases hlast
      exact Or.inr ⟨_,hget,rfl⟩
  · rintro (⟨hget,rfl⟩ | ⟨-,hget,rfl⟩)
    · exact Or.inl ⟨hget,rfl⟩
    · exact Or.inr ⟨forbidden',hget,rfl⟩

end ForbiddenId

namespace BuiltinRule
variable {v : Value} {b r : BuiltinRule} {settings : Settings}

theorem wellFormed_iff : b.WellFormed v ↔ ∃ r, Sets v b r := by
  constructor
  · intro h
    cases b with
    | componentLimit limit =>
      obtain ⟨n,hn⟩ := h
      exact ⟨componentLimit n,hn⟩
    | insecureEndpoint hosts =>
      obtain ⟨entries,hv⟩ := h
      exact ⟨insecureEndpoint _,entries,hv,rfl⟩
    | hardcodedSecret extra =>
      obtain ⟨sources,hv,hparse⟩ := h
      obtain ⟨patterns,hpatterns⟩ := Except.exists_mapM_eq_ok.mpr hparse
      exact ⟨hardcodedSecret patterns,sources,hv,Except.mapM_eq_ok.mp hpatterns⟩
    | unknownVariable known =>
      obtain ⟨roots,hv,hids⟩ := h
      exact ⟨unknownVariable (known ++ roots),roots,hv,hids,rfl⟩
    | forbiddenId forbidden =>
      obtain ⟨ids,hv⟩ := h
      exact ⟨forbiddenId ids,hv⟩
    | _ => exact h.elim
  · rintro ⟨r,h⟩
    unfold Sets at h
    split at h
    · exact ⟨_,h⟩
    · obtain ⟨entries,hv,-⟩ := h
      exact ⟨entries,hv⟩
    · obtain ⟨sources,hv,hpatterns⟩ := h
      exact ⟨sources,hv,Except.exists_mapM_eq_ok.mp ⟨_,Except.mapM_eq_ok.mpr hpatterns⟩⟩
    · obtain ⟨roots,hv,hids,-⟩ := h
      exact ⟨roots,hv,hids⟩
    · exact ⟨_,h⟩
    · exact h.elim

/-- A rule that is set to something else still has the same setting, with the same values. -/
theorem Sets.accepts_iff (h : Sets v b r) : r.Accepts settings ↔ b.Accepts settings := by
  unfold Sets at h
  split at h
  · exact Iff.rfl
  · exact Iff.rfl
  · exact Iff.rfl
  · exact Iff.rfl
  · exact Iff.rfl
  · exact h.elim

def Becomes (settings : Settings) (b r : BuiltinRule) : Prop :=
  ∃ key, b.setting? = some key ∧ settings.Lead key Sets b r

theorem accepts_iff_becomes : b.Accepts settings ↔ ∃ r, Becomes settings b r := by
  constructor
  · rintro ⟨key,hkey,honly,hvalue⟩
    cases hget : Keyed.get? key settings with
    | none => exact ⟨b,key,hkey,honly,Or.inl ⟨hget,rfl⟩⟩
    | some v =>
      obtain ⟨r,hr⟩ := wellFormed_iff.mp (hvalue v hget)
      exact ⟨r,key,hkey,honly,Or.inr ⟨v,hget,hr⟩⟩
  · rintro ⟨r,key,hkey,honly,hlead⟩
    refine ⟨key,hkey,honly,fun v hv => ?_⟩
    rcases hlead with ⟨hnone,-⟩ | ⟨w,hw,hsets⟩
    · rw [hnone] at hv
      cases hv
    · have hsame : w = v := Option.some.inj (hw.symm.trans hv)
      exact wellFormed_iff.mpr ⟨r,hsame ▸ hsets⟩

theorem Becomes.accepts_iff (h : Becomes settings b r) (others : Settings) :
    r.Accepts others ↔ b.Accepts others := by
  obtain ⟨key,-,-,⟨-,rfl⟩ | ⟨v,-,hsets⟩⟩ := h
  · exact Iff.rfl
  · exact hsets.accepts_iff

section
variable {σ : Type} {make : σ → BuiltinRule} {configure : Settings → Configuring σ Unit}
variable {key : String}

/-- What is said about the state that a rule keeps says what becomes of the rule. -/
theorem configure?_eq_ok_of (hkey : ∀ x, (make x).setting? = some key)
    (hcall : ∀ x settings, (make x).configure? settings = some ((configure settings).within make x))
    (hsame : ∀ v x r, Sets v (make x) r → ∃ y, make y = r)
    (hconfigure : ∀ x y settings, configure settings x = (.ok (),y) ↔
      settings.Lead key (fun v x y => Sets v (make x) (make y)) x y) (x : σ) :
    (make x).configure? settings = some (.ok (),r) ↔ Becomes settings (make x) r := by
  rw [hcall,Option.some.injEq,Configuring.within_eq_ok]
  simp only [hconfigure,Becomes,hkey,Option.some.injEq,exists_eq_left']
  constructor
  · rintro ⟨y,⟨honly,⟨hget,rfl⟩ | hset⟩,rfl⟩
    · exact ⟨honly,Or.inl ⟨hget,rfl⟩⟩
    · exact ⟨honly,Or.inr hset⟩
  · rintro ⟨honly,⟨hget,rfl⟩ | ⟨v,hget,hset⟩⟩
    · exact ⟨x,⟨honly,Or.inl ⟨hget,rfl⟩⟩,rfl⟩
    · obtain ⟨y,rfl⟩ := hsame v x r hset
      exact ⟨y,⟨honly,Or.inr ⟨v,hget,hset⟩⟩,rfl⟩

end

theorem configure?_eq_ok : b.configure? settings = some (.ok (),r) ↔ Becomes settings b r := by
  cases b with
  | componentLimit limit =>
    refine configure?_eq_ok_of (fun _ => rfl) (fun _ _ => rfl) (fun v x r h => ?_)
      (fun _ _ _ => ComponentLimit.configure_eq_ok) limit
    cases r with
    | componentLimit n => exact ⟨n,rfl⟩
    | _ => exact h.elim
  | insecureEndpoint hosts =>
    refine configure?_eq_ok_of (fun _ => rfl) (fun _ _ => rfl) (fun v x r h => ?_)
      (fun _ _ _ => InsecureEndpoint.configure_eq_ok_iff_lead) hosts
    cases r with
    | insecureEndpoint hosts' => exact ⟨hosts',rfl⟩
    | _ => exact h.elim
  | hardcodedSecret extra =>
    refine configure?_eq_ok_of (fun _ => rfl) (fun _ _ => rfl) (fun v x r h => ?_)
      (fun _ _ _ => HardcodedSecret.configure_eq_ok) extra
    cases r with
    | hardcodedSecret extra' => exact ⟨extra',rfl⟩
    | _ => exact h.elim
  | unknownVariable known =>
    refine configure?_eq_ok_of (fun _ => rfl) (fun _ _ => rfl) (fun v x r h => ?_)
      (fun _ _ _ => UnknownVariable.configure_eq_ok_iff_lead) known
    cases r with
    | unknownVariable known' => exact ⟨known',rfl⟩
    | _ => exact h.elim
  | forbiddenId forbidden =>
    refine configure?_eq_ok_of (fun _ => rfl) (fun _ _ => rfl) (fun v x r h => ?_)
      (fun _ _ _ => ForbiddenId.configure_eq_ok) forbidden
    cases r with
    | forbiddenId forbidden' => exact ⟨forbidden',rfl⟩
    | _ => exact h.elim
  | _ => simp [configure?,Becomes,setting?]

theorem accepts_iff_configure? :
    b.Accepts settings ↔ ∃ r, b.configure? settings = some (.ok (),r) := by
  simp only [accepts_iff_becomes,configure?_eq_ok]

instance (b : BuiltinRule) (settings : Settings) : Decidable (b.Accepts settings) :=
  match h : b.configure? settings with
  | some (.ok _,r) => isTrue (accepts_iff_configure?.mpr ⟨r,h⟩)
  | some (.error e,r) => isFalse fun ha => by
      obtain ⟨r,hr⟩ := accepts_iff_configure?.mp ha
      cases h.symm.trans hr
  | none => isFalse fun ha => by
      obtain ⟨r,hr⟩ := accepts_iff_configure?.mp ha
      cases h.symm.trans hr

/-- A rule that accepts some settings answers all calls. It refuses what it does not accept, and is
then left as it was. -/
theorem configure?_of_not_accepts {others : Settings} (hothers : b.Accepts others)
    (h : ¬b.Accepts settings) : ∃ e, b.configure? settings = some (.error e,b) := by
  obtain ⟨key,hkey,-⟩ := hothers
  rcases hcall : b.configure? settings with _ | ⟨e | ⟨⟩,left⟩
  · cases b <;> simp [configure?,setting?] at hcall hkey
  · rw [configure?_error hcall]
    exact ⟨e,rfl⟩
  · exact absurd (accepts_iff_configure?.mpr ⟨left,hcall⟩) h

theorem settled_of_ok (h : b.configure? settings = some (.ok (),r)) : b.settled settings = r := by
  simp only [settled,h]

theorem settled_of_not_accepts (h : ¬b.Accepts settings) : b.settled settings = b := by
  unfold settled
  rcases hcall : b.configure? settings with _ | ⟨e | ⟨⟩,left⟩
  · rfl
  · exact configure?_error hcall
  · exact absurd (accepts_iff_configure?.mpr ⟨left,hcall⟩) h

theorem accepts_settled (others : Settings) :
    (b.settled settings).Accepts others ↔ b.Accepts others := by
  by_cases h : b.Accepts settings
  · obtain ⟨r,hr⟩ := accepts_iff_configure?.mp h
    rw [settled_of_ok hr]
    exact (configure?_eq_ok.mp hr).accepts_iff others
  · rw [settled_of_not_accepts h]

theorem accepts_settledAll (calls : List Settings) (others : Settings) :
    (b.settledAll calls).Accepts others ↔ b.Accepts others := by
  induction calls generalizing b with
  | nil => exact Iff.rfl
  | cons settings rest ih =>
    have hrest : b.settledAll (settings :: rest) = (b.settled settings).settledAll rest := rfl
    rw [hrest,ih,accepts_settled]

theorem settledAll_concat (calls : List Settings) :
    b.settledAll (calls ++ [settings]) = (b.settledAll calls).settled settings := by
  simp [settledAll]

/-- The calls that are refused may as well be left out. -/
theorem settledAll_filter (calls : List Settings) :
    b.settledAll (calls.filter fun settings => b.Accepts settings) = b.settledAll calls := by
  induction calls using List.reverseRecOn with
  | nil => rfl
  | append_singleton calls settings ih =>
    rw [List.filter_append,settledAll_concat]
    by_cases h : b.Accepts settings
    · rw [List.filter_singleton,decide_eq_true h,cond_true,settledAll_concat,ih]
    · have hkept : ¬(b.settledAll calls).Accepts settings := fun ha =>
        h ((accepts_settledAll calls settings).mp ha)
      rw [List.filter_singleton,decide_eq_false h,cond_false,List.append_nil,ih,
        settled_of_not_accepts hkept]

/-- Calls with settings on one rule, one after the other. Whatever came before, a call is accepted
just if there is no key in it but the rule's own, with a well-formed value, and the value then says
what becomes of the rule. Every other call is refused, with nothing written to the rule by then, so
that all comes out as with the accepted calls alone. -/
theorem settings_all_or_nothing (b : BuiltinRule) {key : String} (hb : b.setting? = some key)
    (calls : List Settings) :
    (∀ settings, (∃ r, (b.settledAll calls).configure? settings = some (.ok (),r)) ↔
      b.Accepts settings) ∧
    (∀ settings, b.Accepts settings →
      Becomes settings (b.settledAll calls) (b.settledAll (calls ++ [settings]))) ∧
    (∀ settings, ¬b.Accepts settings →
      (∃ e, (b.settledAll calls).configure? settings = some (.error e,b.settledAll calls)) ∧
        b.settledAll (calls ++ [settings]) = b.settledAll calls) ∧
    b.settledAll calls = b.settledAll (calls.filter fun settings => b.Accepts settings) := by
  have hlater : ∀ settings, (∃ r, (b.settledAll calls).configure? settings = some (.ok (),r)) ↔
      b.Accepts settings := fun settings =>
    accepts_iff_configure?.symm.trans (accepts_settledAll calls settings)
  have hempty : (b.settledAll calls).Accepts [] :=
    (accepts_settledAll calls []).mpr ⟨key,hb,by simp,by simp⟩
  refine ⟨hlater,fun settings h => ?_,fun settings h => ?_,(settledAll_filter calls).symm⟩
  · obtain ⟨r,hr⟩ := (hlater settings).mpr h
    rw [settledAll_concat,settled_of_ok hr]
    exact configure?_eq_ok.mp hr
  · have hnot : ¬(b.settledAll calls).Accepts settings := fun ha =>
      h ((accepts_settledAll calls settings).mp ha)
    rw [settledAll_concat]
    exact ⟨configure?_of_not_accepts hempty hnot,settled_of_not_accepts hnot⟩

/-- A list with one bad name, and one beside a key of another rule, between two good lists: neither
adds anything. -/
theorem settings_all_or_nothing_bad_root :
    let b := unknownVariable UnknownVariable.defaultRoots
    let cart : Settings := [("known_roots",.array [.string "cart"])]
    let bad : Settings := [("known_roots",.array [.string "x",.string "1y"])]
    let other : Settings := [("allowed_hosts",.array []),("known_roots",.array [.string "z"])]
    b.setting? = some "known_roots" ∧ ¬b.Accepts bad ∧ ¬b.Accepts other ∧
      (∃ e, (b.settledAll [cart]).configure? bad = some (.error e,b.settledAll [cart])) ∧
      b.settledAll [cart,bad,other,[],cart] = b.settledAll [cart,[],cart] ∧
      b.settledAll [cart,[],cart] =
        unknownVariable (UnknownVariable.defaultRoots ++ ["cart","cart"]) := by
  intro b cart bad other
  have hb : b.setting? = some "known_roots" := rfl
  have hfacts : ¬b.Accepts bad ∧ ¬b.Accepts other ∧
      ([cart,bad,other,[],cart].filter fun settings => b.Accepts settings) = [cart,[],cart] ∧
      b.settledAll [cart,[],cart] =
        unknownVariable (UnknownVariable.defaultRoots ++ ["cart","cart"]) := by decide +kernel
  obtain ⟨hbad,hother,hfilter,hlast⟩ := hfacts
  obtain ⟨-,-,hrefused,-⟩ := settings_all_or_nothing b hb [cart]
  obtain ⟨-,-,-,haccepted⟩ := settings_all_or_nothing b hb [cart,bad,other,[],cart]
  exact ⟨hb,hbad,hother,(hrefused bad hbad).1,hfilter ▸ haccepted,hlast⟩

end BuiltinRule
end AppLint
