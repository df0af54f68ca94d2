import AppLint.Proofs.Except
import AppLint.Rules

/-! What settings do to rules: which settings are taken, that those that are refused have changed
nothing, and what a rule is after a series of calls. -/
namespace AppLint
open Json (Value)

namespace Settings

theorem only_eq_ok {key : String} {settings : Settings} :
    settings.only key = .ok () ↔ ∀ e ∈ settings, e.1 = key := by
  unfold only
  split
  · rename_i k v h
    have hne : k ≠ key := by simpa using List.find?_some h
    constructor
    · intro herror
      cases herror
    · intro hall
      exact absurd (hall (k,v) (List.mem_of_find?_eq_some h)) hne
  · rename_i h
    simpa using h

theorem mapM_stringItem_eq_ok {key : String} {items : List Value} {strings : List String} :
    items.mapM (stringItem key) = .ok strings ↔ items = strings.map .string := by
  induction items generalizing strings with
  | nil => cases strings <;> simp [pure,Except.pure]
  | cons v rest ih =>
    rw [List.mapM_cons]
    simp only [Except.bind_eq_ok]
    constructor
    · rintro ⟨s,hs,others,hothers,hlast⟩
      cases hlast
      cases v with
      | string t =>
        cases hs
        rw [ih.mp hothers,List.map_cons]
      | _ => cases hs
    · intro h
      cases strings with
      | nil => cases h
      | cons s others =>
        obtain ⟨rfl,hrest⟩ := List.cons.inj h
        exact ⟨s,rfl,others,ih.mpr hrest,rfl⟩

/-- A list is read where there is a list of nothing but strings, and none where the setting is not
there. -/
theorem strings?_eq_ok {key : String} {settings : Settings} {strings : Option (List String)} :
    settings.strings? key = .ok strings ↔
      Keyed.get? key settings = strings.map fun s => .array (s.map .string) := by
  unfold strings?
  split
  · rename_i h
    cases strings <;> simp [h]
  · rename_i items h
    simp only [h,Except.bind_eq_ok,mapM_stringItem_eq_ok]
    constructor
    · rintro ⟨list,rfl,hlast⟩
      cases hlast
      rfl
    · intro hsome
      obtain ⟨list,rfl,hlist⟩ := Option.map_eq_some_iff.mp hsome.symm
      cases hlist
      exact ⟨list,rfl,rfl⟩
  · rename_i v hv h
    rw [h]
    constructor
    · intro herror
      cases herror
    · intro hsome
      obtain ⟨list,-,hlist⟩ := Option.map_eq_some_iff.mp hsome.symm
      exact absurd hlist.symm (hv _)

theorem positive?_eq_ok {key : String} {settings : Settings} {number : Option Nat} :
    settings.positive? key = .ok number ↔
      Keyed.get? key settings = none ∧ number = none ∨
        ∃ v n, Keyed.get? key settings = some v ∧ v.natural? = some n ∧ 0 < n ∧ number = some n := by
  unfold positive?
  split
  · rename_i hnone
    simp [hnone,eq_comm]
  · rename_i v hsome
    simp only [hsome,reduceCtorEq,false_and,false_or,Option.some.injEq,exists_eq_left',
      exists_and_left]
    split
    · rename_i n hn
      simp [hn,eq_comm]
    · rename_i hn
      constructor
      · intro herror
        cases herror
      · rintro ⟨n,hnatural,hpos,-⟩
        obtain ⟨m,rfl⟩ := Nat.exists_eq_add_of_lt hpos
        exact absurd hnatural (by simpa using hn m)

end Settings

namespace Configuring
variable {σ τ α : Type} {read : Except SettingsError α} {use : α → Configuring σ Unit} {x y : σ}

theorem read_bind_eq_ok :
    (liftM read >>= use : Configuring σ Unit) x = (.ok (),y) ↔
      ∃ a, read = .ok a ∧ use a x = (.ok (),y) := by
  cases read with
  | ok a =>
    change use a x = _ ↔ _
    simp
  | error e =>
    constructor
    · intro hcall
      cases hcall
    · rintro ⟨a,hread,-⟩
      cases hread

/-- A rule whose setting is a list of strings: what it makes of the list, or of its absence, is what
comes of the call. -/
theorem only_strings?_eq_ok {key : String} {settings : Settings}
    {use : Option (List String) → Configuring σ Unit} :
    (liftM (settings.only key) >>= fun _ => liftM (settings.strings? key) >>= use) x = (.ok (),y) ↔
      (∀ e ∈ settings, e.1 = key) ∧
        (Keyed.get? key settings = none ∧ use none x = (.ok (),y) ∨
          ∃ strings, Keyed.get? key settings = some (.array (strings.map .string)) ∧
            use (some strings) x = (.ok (),y)) := by
  simp only [read_bind_eq_ok,Settings.strings?_eq_ok]
  constructor
  · rintro ⟨⟨⟩,honly,strings | strings,hget,huse⟩
    · exact ⟨Settings.only_eq_ok.mp honly,Or.inl ⟨hget,huse⟩⟩
    · exact ⟨Settings.only_eq_ok.mp honly,Or.inr ⟨strings,hget,huse⟩⟩
  · rintro ⟨honly,⟨hget,huse⟩ | ⟨strings,hget,huse⟩⟩
    · exact ⟨(),Settings.only_eq_ok.mpr honly,none,hget,huse⟩
    · exact ⟨(),Settings.only_eq_ok.mpr honly,some strings,hget,huse⟩

/-- A call that is refused has written nothing. -/
def Atomic (call : Configuring σ Unit) : Prop := ∀ x e y, call x = (.error e,y) → y = x

/-- What is read before the first write may fail. -/
theorem atomic_read_bind (h : ∀ a, (use a).Atomic) : (liftM read >>= use : Configuring σ Unit).Atomic := by
  intro x e y hcall
  cases read with
  | ok a => exact h a x e y hcall
  | error e' =>
    cases hcall
    rfl

/-- The key and the value of a setting are read before anything is written. -/
theorem atomic_setting {key : String} {settings : Settings}
    {read : Except SettingsError (Option α)} {use : Option α → Configuring σ Unit}
    (hnone : (use none).Atomic) (hsome : ∀ a, (use (some a)).Atomic) :
    (liftM (settings.only key) >>= fun _ => liftM read >>= use : Configuring σ Unit).Atomic := by
  refine atomic_read_bind fun _ => atomic_read_bind fun value => ?_
  cases value with
  | none => exact hnone
  | some a => exact hsome a

theorem atomic_throw (e : SettingsError) : (throw e : Configuring σ Unit).Atomic := by
  intro x e' y hcall
  cases hcall
  rfl

theorem atomic_pure : (pure () : Configuring σ Unit).Atomic := by
  intro x e y hcall
  cases hcall

theorem atomic_set (y : σ) : (set y : Configuring σ Unit).Atomic := by
  intro x e y hcall
  cases hcall

theorem atomic_modify (f : σ → σ) : (modify f : Configuring σ Unit).Atomic := by
  intro x e y hcall
  cases hcall

theorem within_eq_ok {call : Configuring σ Unit} {make : σ → τ} {left : τ} :
    call.within make x = (.ok (),left) ↔ ∃ y, call x = (.ok (),y) ∧ make y = left := by
  constructor
  · intro hcall
    obtain ⟨hanswer,hleft⟩ := Prod.mk.inj hcall
    exact ⟨_,Prod.ext hanswer rfl,hleft⟩
  · rintro ⟨y,hcall,rfl⟩
    rw [within,hcall]

theorem Atomic.within {call : Configuring σ Unit} (h : call.Atomic) {make : σ → τ}
    {e : SettingsError} {left : τ} (hcall : call.within make x = (.error e,left)) : left = make x := by
  obtain ⟨hanswer,rfl⟩ := Prod.mk.inj hcall
  exact congrArg make (h x e _ (Prod.ext hanswer rfl))

end Configuring

open Configuring (atomic_setting atomic_read_bind atomic_throw atomic_pure atomic_set atomic_modify)

theorem ComponentLimit.atomic_configure (settings : Settings) : (configure settings).Atomic :=
  atomic_setting atomic_pure atomic_set

theorem InsecureEndpoint.atomic_configure (settings : Settings) : (configure settings).Atomic :=
  atomic_setting atomic_pure fun _ => atomic_set _

theorem HardcodedSecret.atomic_configure (settings : Settings) : (configure settings).Atomic :=
  atomic_setting atomic_pure fun _ => atomic_read_bind atomic_set

theorem UnknownVariable.atomic_configure (settings : Settings) : (configure settings).Atomic := by
  refine atomic_setting atomic_pure fun roots => ?_
  dsimp only
  split
  · exact atomic_throw _
  · exact atomic_modify _

theorem ForbiddenId.atomic_configure (settings : Settings) : (configure settings).Atomic :=
  atomic_setting atomic_pure atomic_set

namespace UnknownVariable

/-- Settings that the rule takes: a list of identifiers and no other key. Without the list they give
no variables. -/
structure Gives (settings : Settings) (roots : List String) : Prop where
  only : ∀ e ∈ settings, e.1 = key
  listed : Keyed.get? key settings = some (.array (roots.map .string)) ∨
    Keyed.get? key settings = none ∧ roots = []
  identifiers : ∀ root ∈ roots, Expr.isIdentifier root.toList = true

theorem find?_bad_eq_none {roots : List String} :
    (roots.find? fun r => !Expr.isIdentifier r.toList) = none ↔
      ∀ root ∈ roots, Expr.isIdentifier root.toList = true := by
  simp

theorem configure_eq_ok {known known' : List String} {settings : Settings} :
    configure settings known = (.ok (),known') ↔
      ∃ roots, Gives settings roots ∧ known' = known ++ roots := by
  refine Configuring.only_strings?_eq_ok.trans ?_
  constructor
  · rintro ⟨honly,⟨hget,hknown⟩ | ⟨roots,hget,hknown⟩⟩
    · cases hknown
      exact ⟨[],⟨honly,Or.inr ⟨hget,rfl⟩,by simp⟩,by simp⟩
    · cases hbad : roots.find? fun r => !Expr.isIdentifier r.toList with
      | some bad =>
        simp only [hbad] at hknown
        cases hknown
      | none =>
        simp only [hbad] at hknown
        cases hknown
        exact ⟨roots,⟨honly,Or.inl hget,find?_bad_eq_none.mp hbad⟩,rfl⟩
  · rintro ⟨roots,⟨honly,hget | ⟨hget,rfl⟩,hids⟩,rfl⟩
    · refine ⟨honly,Or.inr ⟨roots,hget,?_⟩⟩
      simp only [find?_bad_eq_none.mpr hids]
      rfl
    · refine ⟨honly,Or.inl ⟨hget,?_⟩⟩
      rw [List.append_nil]
      rfl

theorem Gives.unique {settings : Settings} {roots roots' : List String} (h : Gives settings roots)
    (h' : Gives settings roots') : roots = roots' := by
  have hroots : configure settings [] = (.ok (),roots) := configure_eq_ok.mpr ⟨roots,h,rfl⟩
  have hroots' : configure settings [] = (.ok (),roots') := configure_eq_ok.mpr ⟨roots',h',rfl⟩
  exact (Prod.mk.inj (hroots.symm.trans hroots')).2

/-- A call adds what its settings give, and one that is refused adds nothing. -/
theorem mem_after {known : List String} {settings : Settings} {name : String} :
    name ∈ Configuring.after configure known settings ↔
      name ∈ known ∨ ∃ roots, Gives settings roots ∧ name ∈ roots := by
  unfold Configuring.after
  rcases hcall : configure settings known with ⟨e | ⟨⟩,known'⟩
  · rw [atomic_configure settings known e known' hcall]
    refine ⟨Or.inl,?_⟩
    rintro (hname | ⟨roots,hroots,-⟩)
    · exact hname
    · have hok : configure settings known = (.ok (),known ++ roots) :=
        configure_eq_ok.mpr ⟨roots,hroots,rfl⟩
      rw [hcall] at hok
      cases hok
  · obtain ⟨roots,hroots,rfl⟩ := configure_eq_ok.mp hcall
    rw [List.mem_append]
    refine or_congr_right ⟨fun hname => ⟨roots,hroots,hname⟩,?_⟩
    rintro ⟨given,hgiven,hname⟩
    exact hgiven.unique hroots ▸ hname

theorem mem_foldl_after {known : List String} {calls : List Settings} {name : String} :
    name ∈ calls.foldl (Configuring.after configure) known ↔
      name ∈ known ∨ ∃ settings ∈ calls, ∃ roots, Gives settings roots ∧ name ∈ roots := by
  induction calls generalizing known with
  | nil => simp
  | cons settings rest ih =>
    simp only [List.foldl_cons,ih,mem_after,List.mem_cons,exists_eq_or_imp,or_assoc]

end UnknownVariable

namespace BuiltinRule

theorem configure?_error {b left : BuiltinRule} {settings : Settings} {e : SettingsError}
    (h : b.configure? settings = some (.error e,left)) : left = b := by
  cases b with
  | componentLimit limit => exact (ComponentLimit.atomic_configure settings).within (Option.some.inj h)
  | insecureEndpoint hosts =>
    exact (InsecureEndpoint.atomic_configure settings).within (Option.some.inj h)
  | hardcodedSecret extra =>
    exact (HardcodedSecret.atomic_configure settings).within (Option.some.inj h)
  | unknownVariable known =>
    exact (UnknownVariable.atomic_configure settings).within (Option.some.inj h)
  | forbiddenId forbidden => exact (ForbiddenId.atomic_configure settings).within (Option.some.inj h)
  | _ => cases h

section
variable {σ : Type} {make : σ → BuiltinRule} {configure : Settings → Configuring σ Unit}

/-- The calls with settings can be followed in what the rule keeps. -/
theorem settledAll_eq
    (h : ∀ x settings, (make x).configure? settings = some ((configure settings).within make x))
    (x : σ) (calls : List Settings) :
    (make x).settledAll calls = make (calls.foldl (Configuring.after configure) x) := by
  induction calls generalizing x with
  | nil => rfl
  | cons settings rest ih =>
    have hfirst : (make x).settled settings = make (Configuring.after configure x settings) := by
      rw [settled,h]
      rfl
    rw [settledAll,List.foldl_cons,hfirst,List.foldl_cons]
    exact ih _

end

theorem settledAll_unknownVariable (known : List String) (calls : List Settings) :
    (unknownVariable known).settledAll calls =
      unknownVariable (calls.foldl (Configuring.after UnknownVariable.configure) known) :=
  settledAll_eq (fun _ _ => rfl) known calls

theorem settledAll_insecureEndpoint (hosts : List String) (calls : List Settings) :
    (insecureEndpoint hosts).settledAll calls =
      insecureEndpoint (calls.foldl (Configuring.after InsecureEndpoint.configure) hosts) :=
  settledAll_eq (fun _ _ => rfl) hosts calls

end BuiltinRule
end AppLint
